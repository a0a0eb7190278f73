import CopysetWatch.Proofs.Hearing

/-!
# Complete gatherings

A gathering of many queries is complete if it holds one entry for each query, made from the reply
to this query and the timeout alone, and if the entries stand in the order of the moments at which
the queries were over. Nothing is said about entries of one moment: they may come in any order.
-/

namespace CopysetWatch

variable {κ α : Type}

namespace Reply

/-- What an asker who waits until the timeout gets out of a reply: what is in it, unless it takes
longer. -/
def outcome (timeout : Duration) (reply : Reply α) : Except Fault α :=
  if timeout.millis < reply.delay then .error (.timeout (.ofNat timeout.millis))
  else
    match reply.ending with
    | .value a => .ok a
    | .fault f => .error f
    | .panic => .error (.internal "query task panicked")

/-- How many milliseconds after the question it is over, one way or the other. -/
def moment (timeout : Duration) (reply : Reply α) : Nat :=
  min reply.delay timeout.millis

theorem moment_le_timeout (timeout : Duration) (reply : Reply α) :
    reply.moment timeout ≤ timeout.millis :=
  Nat.min_le_right _ _

/-- A clock that covers the timeout shows the outcome of a reply as it is. -/
theorem outcome_on {clock : Clock} {timeout : Duration} (h : clock.Covers timeout)
    (reply : Reply α) : (reply.on clock).outcome timeout = reply.outcome timeout := by
  have hlate : timeout.millis < min reply.delay clock.horizon ↔ timeout.millis < reply.delay := by
    rw [Nat.lt_min]
    exact and_iff_left h
  exact ite_congr (propext hlate) (fun _ => rfl) fun _ => rfl

/-- A clock that covers the timeout shows the moment of a reply as it is. -/
theorem moment_on {clock : Clock} {timeout : Duration} (h : clock.Covers timeout)
    (reply : Reply α) : (reply.on clock).moment timeout = reply.moment timeout := by
  have hle : timeout.millis ≤ clock.horizon := Nat.le_of_lt h
  change min (min reply.delay clock.horizon) timeout.millis = min reply.delay timeout.millis
  rw [Nat.min_assoc, Nat.min_eq_right hle]

end Reply

namespace Gather

/-- The entry of a query, which is a target and its reply, in a gathering. -/
def entry (timeout : Duration) (query : κ × Reply α) : Arrival κ α :=
  ⟨query.2.moment timeout, query.1, query.2.outcome timeout⟩

/-- What is heard of a target is the entry of its query. -/
theorem arrival_eq_entry (timeout : Duration) (query : κ → Reply α) (target : κ) :
    arrival timeout query target = entry timeout (target, query target) := by
  unfold arrival entry Reply.moment Reply.outcome
  dsimp only
  split
  case isTrue hdelay =>
    rw [if_neg (Nat.not_lt.mpr hdelay), Nat.min_eq_left hdelay]
    cases (query target).ending <;> rfl
  case isFalse hdelay =>
    have hlate := Nat.lt_of_not_le hdelay
    rw [if_pos hlate, Nat.min_eq_right (Nat.le_of_lt hlate)]

/-- What is heard of some queries, in the order of arrival. Queries to one target may have
different replies. -/
def scatter (timeout : Duration) (queries : List (κ × Reply α)) : List (Arrival κ α) :=
  (arrivals timeout Prod.snd queries).map fun a => ⟨a.after, a.target.1, a.result⟩

/-- The gathering of some queries is made of their entries. -/
theorem scatter_eq (timeout : Duration) (queries : List (κ × Reply α)) :
    scatter timeout queries =
      stableSort (fun a b => decide (a.after ≤ b.after)) (queries.map (entry timeout)) := by
  -- the order looks at moments only, so an entry may lose its query before or after it is sorted
  let untagged (a : Arrival (κ × Reply α) α) : Arrival κ α := ⟨a.after, a.target.1, a.result⟩
  have hsorted : scatter timeout queries = stableSort (fun a b => decide (a.after ≤ b.after))
      ((queries.map (arrival timeout Prod.snd)).map untagged) :=
    map_stableSort (by intro a b; rfl) _
  have hentry : untagged ∘ arrival timeout Prod.snd = entry timeout := by
    funext query
    rw [Function.comp_apply, arrival_eq_entry]
    rfl
  rw [hsorted, List.map_map, hentry]

/-- Some queries with their replies as a clock has them. -/
def queriesOn (clock : Clock) (queries : List (κ × Reply α)) : List (κ × Reply α) :=
  queries.map fun query => (query.1, query.2.on clock)

/-- A clock that covers the timeout shows the entries of all queries as they are. -/
theorem map_entry_queriesOn {clock : Clock} {timeout : Duration} (h : clock.Covers timeout)
    (queries : List (κ × Reply α)) :
    (queriesOn clock queries).map (entry timeout) = queries.map (entry timeout) := by
  rw [queriesOn, List.map_map]
  refine List.map_congr_left fun query _ => ?_
  simp only [Function.comp_apply, entry, Reply.moment_on h, Reply.outcome_on h]

/-- A gathering has one entry for each query, and its entries are in the order of their moments. -/
structure Complete (timeout : Duration) (queries : List (κ × Reply α))
    (heard : List (Arrival κ α)) : Prop where
  entries : heard.Perm (queries.map (entry timeout))
  ordered : heard.Pairwise fun a b => a.after ≤ b.after

/-- On a clock that covers the timeout, the complete gatherings are those of the queries as they
are. -/
theorem complete_queriesOn_iff {clock : Clock} {timeout : Duration} (h : clock.Covers timeout)
    {queries : List (κ × Reply α)} {heard : List (Arrival κ α)} :
    Complete timeout (queriesOn clock queries) heard ↔ Complete timeout queries heard := by
  have hentries := map_entry_queriesOn h queries
  constructor
  · rintro ⟨hperm, hordered⟩
    exact ⟨hentries ▸ hperm, hordered⟩
  · rintro ⟨hperm, hordered⟩
    exact ⟨hentries.symm ▸ hperm, hordered⟩

theorem complete_scatter (timeout : Duration) (queries : List (κ × Reply α)) :
    Complete timeout queries (scatter timeout queries) where
  entries := scatter_eq timeout queries ▸ stableSort_perm _ _
  ordered := by
    have hsorted := @pairwise_stableSort (Arrival κ α) (fun a b => decide (a.after ≤ b.after))
      (fun a b c hab hbc => by simp only [decide_eq_true_eq] at *; omega)
      (fun a b => by simp only [decide_eq_true_eq]; omega) (queries.map (entry timeout))
    rw [scatter_eq]
    exact hsorted.imp of_decide_eq_true

/-! ### The first fault -/

/-- There are answers if every entry has a value, and they are these values with their targets, in
the order of the entries. -/
theorem firstError_eq_ok_iff {heard : List (Arrival κ α)} {answers : List (κ × α)} :
    firstError heard = .ok answers ↔
      heard.map (fun a => (a.target, a.result)) =
        answers.map fun answer => (answer.1, .ok answer.2) := by
  induction heard generalizing answers with
  | nil => cases answers <;> simp [firstError]
  | cons a rest ih =>
    cases hresult : a.result with
    | error f => cases answers <;> simp [firstError, hresult]
    | ok value =>
      cases answers with
      | nil => cases hrest : firstError rest <;> simp [firstError, hresult, hrest, Except.map]
      | cons answer answers =>
        have hfirst : firstError (a :: rest) = (firstError rest).map ((a.target, value) :: ·) := by
          rw [firstError, hresult]
        have hcons : (firstError rest).map ((a.target, value) :: ·) = .ok (answer :: answers) ↔
            (a.target, value) = answer ∧ firstError rest = .ok answers := by
          cases firstError rest <;> simp [Except.map]
        rw [hfirst, hcons, ih]
        simp [hresult, Prod.ext_iff]

/-- Otherwise there is the fault of an entry that no other one with a fault precedes. -/
theorem firstError_eq_error_iff {heard : List (Arrival κ α)} {f : Fault} :
    firstError heard = .error f ↔
      ∃ earlier a later, heard = earlier ++ a :: later ∧ a.result = .error f ∧
        ∀ b ∈ earlier, ∃ value, b.result = .ok value := by
  induction heard with
  | nil => simp [firstError]
  | cons a rest ih =>
    cases hresult : a.result with
    | error g =>
      have hfirst : firstError (a :: rest) = .error g := by rw [firstError, hresult]
      rw [hfirst]
      constructor
      · rintro ⟨⟩
        exact ⟨[], a, rest, rfl, hresult, List.forall_mem_nil _⟩
      · rintro ⟨earlier, b, later, hheard, hb, hearlier⟩
        cases earlier with
        | nil =>
          obtain ⟨rfl, -⟩ := List.cons.inj hheard
          rw [hresult] at hb
          cases hb
          rfl
        | cons c earlier =>
          obtain ⟨rfl, -⟩ := List.cons.inj hheard
          obtain ⟨value, hvalue⟩ := hearlier a List.mem_cons_self
          rw [hresult] at hvalue
          cases hvalue
    | ok value =>
      have hfirst : firstError (a :: rest) = .error f ↔ firstError rest = .error f := by
        rw [firstError, hresult]
        cases firstError rest <;> simp [Except.map]
      rw [hfirst, ih]
      constructor
      · rintro ⟨earlier, b, later, rfl, hb, hearlier⟩
        have hall := List.forall_mem_cons.mpr ⟨⟨value, hresult⟩, hearlier⟩
        exact ⟨a :: earlier, b, later, rfl, hb, hall⟩
      · rintro ⟨earlier, b, later, hheard, hb, hearlier⟩
        cases earlier with
        | nil =>
          obtain ⟨rfl, -⟩ := List.cons.inj hheard
          rw [hresult] at hb
          cases hb
        | cons c earlier =>
          obtain ⟨-, hrest⟩ := List.cons.inj hheard
          exact ⟨earlier, b, later, hrest, hb, fun d hd => hearlier d (List.mem_cons_of_mem _ hd)⟩

end Gather

end CopysetWatch
