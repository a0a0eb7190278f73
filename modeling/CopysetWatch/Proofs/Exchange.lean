import CopysetWatch.Proofs.Gathering

/-!
# Workers, a channel and a collector

Each query has a worker of its own, which sends one entry when its query is over or the time is up.
A channel with room for as many entries as there are queries takes what was sent to a collector,
who is done when all of it was received. The clock stands still while anybody can do something.

No worker ever waits for room, the exchange never stalls before everything was received, and it is
over after a bounded number of steps. What was received is then a complete gathering, and every
complete gathering can be received in this way. The invariant behind all of it counts an entry for
each query: received, on its way, or still to be made by a worker.
-/

namespace CopysetWatch.Gather

variable {κ α : Type}

/-- Queries under way. -/
structure Exchange (κ α : Type) where
  /-- The milliseconds since the queries began. -/
  now : Nat
  /-- The queries whose workers have not sent anything. -/
  working : List (κ × Reply α)
  /-- What was sent and not yet received. -/
  channel : List (Arrival κ α)
  /-- What was received. -/
  gathered : List (Arrival κ α)

namespace Exchange

variable {timeout : Duration} {room : Nat} {queries : List (κ × Reply α)}

/-- The moment at which all workers begin. -/
def start (queries : List (κ × Reply α)) : Exchange κ α :=
  ⟨0, queries, [], []⟩

/-- What can happen next in an exchange whose channel has room for so many entries. -/
inductive Step (timeout : Duration) (room : Nat) : Exchange κ α → Exchange κ α → Prop where
  /-- A worker whose query is over, or whose time is up, sends its entry. -/
  | send {s : Exchange κ α} {earlier later : List (κ × Reply α)} {query : κ × Reply α}
      (hworking : s.working = earlier ++ query :: later)
      (hdue : query.2.moment timeout ≤ s.now) (hroom : s.channel.length < room) :
      Step timeout room s
        { s with
          working := earlier ++ later
          channel := s.channel ++ [⟨s.now, query.1, query.2.outcome timeout⟩] }
  /-- The collector receives the entry that was sent first. -/
  | receive {s : Exchange κ α} {a : Arrival κ α} {others : List (Arrival κ α)}
      (hchannel : s.channel = a :: others) :
      Step timeout room s { s with channel := others, gathered := s.gathered ++ [a] }
  /-- Nobody can do anything before a later moment, and time passes until then. -/
  | pass {s : Exchange κ α} {next : Nat} (hnext : s.now < next) (hworking : s.working ≠ [])
      (hchannel : s.channel = []) (hdue : ∀ query ∈ s.working, next ≤ query.2.moment timeout) :
      Step timeout room s { s with now := next }

/-- So many steps lead from one state to another. -/
inductive Runs (timeout : Duration) (room : Nat) (s : Exchange κ α) :
    Nat → Exchange κ α → Prop where
  | here : Runs timeout room s 0 s
  | next {n : Nat} {s' s'' : Exchange κ α} (hruns : Runs timeout room s n s')
      (hstep : Step timeout room s' s'') : Runs timeout room s (n + 1) s''

theorem Runs.trans {s s' s'' : Exchange κ α} {m n : Nat} (h : Runs timeout room s m s')
    (h' : Runs timeout room s' n s'') : Runs timeout room s (m + n) s'' := by
  induction h' with
  | here => exact h
  | next _ hstep ih => exact ih.next hstep

/-- All workers have sent and everything was received. -/
def IsOver (s : Exchange κ α) : Prop :=
  s.working = [] ∧ s.channel = []

/-! ### One entry for each query -/

/-- There is one entry for each query, and the entries that were made are in order. -/
structure Sound (timeout : Duration) (queries : List (κ × Reply α)) (s : Exchange κ α) : Prop where
  entries : (s.gathered ++ s.channel ++ s.working.map (entry timeout)).Perm
    (queries.map (entry timeout))
  ordered : (s.gathered ++ s.channel).Pairwise fun a b => a.after ≤ b.after
  past : ∀ a ∈ s.gathered ++ s.channel, a.after ≤ s.now
  due : ∀ query ∈ s.working, s.now ≤ query.2.moment timeout

theorem sound_start (timeout : Duration) (queries : List (κ × Reply α)) :
    Sound timeout queries (start queries) where
  entries := .refl _
  ordered := .nil
  past := List.forall_mem_nil _
  due _ _ := Nat.zero_le _

theorem Sound.step {s s' : Exchange κ α} (h : Sound timeout queries s)
    (hstep : Step timeout room s s') : Sound timeout queries s' := by
  obtain ⟨hentries, hordered, hpast, hdue⟩ := h
  cases hstep with
  | @send earlier later query hworking hnow hroom =>
    rw [hworking] at hentries hdue
    -- a worker sends at the very moment of its query, so it sends the entry of the query
    have hmoment : s.now = query.2.moment timeout :=
      Nat.le_antisymm (hdue query (List.mem_append_right _ List.mem_cons_self)) hnow
    have hentry : (⟨s.now, query.1, query.2.outcome timeout⟩ : Arrival κ α) =
        entry timeout query := by
      rw [hmoment]
      rfl
    have hmade : s.gathered ++ (s.channel ++ [entry timeout query]) =
        (s.gathered ++ s.channel) ++ [entry timeout query] := (List.append_assoc _ _ _).symm
    refine ⟨?_, ?_, ?_, fun q hq => hdue q ?_⟩
    · refine .trans ?_ hentries
      simp only [hentry, List.map_append, List.map_cons, List.append_assoc]
      have hmiddle := (@List.perm_middle _ (entry timeout query) (earlier.map (entry timeout))
        (later.map (entry timeout))).symm
      exact (hmiddle.append_left _).append_left _
    · simp only [hentry, hmade]
      refine List.pairwise_append.mpr ⟨hordered, List.pairwise_singleton _ _, ?_⟩
      intro a ha b hb
      obtain rfl := List.mem_singleton.mp hb
      exact Nat.le_trans (hpast a ha) (Nat.le_of_eq hmoment)
    · intro a ha
      simp only [hentry, hmade] at ha
      obtain ha | ha := List.mem_append.mp ha
      · exact hpast a ha
      · obtain rfl := List.mem_singleton.mp ha
        exact hnow
    · exact List.mem_append.mpr ((List.mem_append.mp hq).imp_right (List.mem_cons_of_mem _))
  | @receive a others hchannel =>
    rw [hchannel, List.append_cons] at hentries hordered hpast
    exact ⟨hentries, hordered, hpast, hdue⟩
  | pass hnext hworking hchannel hlater =>
    exact ⟨hentries, hordered, fun a ha => Nat.le_trans (hpast a ha) (Nat.le_of_lt hnext), hlater⟩

theorem Sound.runs {s s' : Exchange κ α} {n : Nat} (h : Sound timeout queries s)
    (hruns : Runs timeout room s n s') : Sound timeout queries s' := by
  induction hruns with
  | here => exact h
  | next _ hstep ih => exact ih.step hstep

/-- There is room for the entries of all workers. -/
theorem Sound.length_le {s : Exchange κ α} (h : Sound timeout queries s) :
    s.channel.length + s.working.length ≤ queries.length := by
  have hlength := h.entries.length_eq
  simp only [List.length_append, List.length_map] at hlength
  omega

/-- What was received of an exchange that is over is a complete gathering. -/
theorem Sound.complete {s : Exchange κ α} (h : Sound timeout queries s) (hover : s.IsOver) :
    Complete timeout queries s.gathered where
  entries := by simpa only [hover.1, hover.2, List.map_nil, List.append_nil] using h.entries
  ordered := by simpa only [hover.2, List.append_nil] using h.ordered

/-! ### Getting on -/

/-- Some worker is the first one whose query is over. -/
theorem exists_first (timeout : Duration) {working : List (κ × Reply α)} (h : working ≠ []) :
    ∃ first ∈ working, ∀ query ∈ working, first.2.moment timeout ≤ query.2.moment timeout := by
  induction working with
  | nil => exact absurd rfl h
  | cons query others ih =>
    by_cases hothers : others = []
    · exact ⟨query, List.mem_cons_self, by simp [hothers]⟩
    · obtain ⟨first, hfirst, hle⟩ := ih hothers
      by_cases hquery : query.2.moment timeout ≤ first.2.moment timeout
      · refine ⟨query, List.mem_cons_self, List.forall_mem_cons.mpr ⟨Nat.le_refl _, ?_⟩⟩
        exact fun q hq => Nat.le_trans hquery (hle q hq)
      · refine ⟨first, List.mem_cons_of_mem _ hfirst, List.forall_mem_cons.mpr ⟨?_, hle⟩⟩
        exact Nat.le_of_not_le hquery

/-- An exchange goes on until it is over: whoever is waited for is able to act. -/
theorem Sound.exists_step {s : Exchange κ α} (h : Sound timeout queries s) (hover : ¬s.IsOver) :
    ∃ s', Step timeout queries.length s s' := by
  cases hchannel : s.channel with
  | cons a others => exact ⟨_, .receive hchannel⟩
  | nil =>
    have hworking : s.working ≠ [] := fun hworking => hover ⟨hworking, hchannel⟩
    obtain ⟨first, hfirst, hle⟩ := exists_first timeout hworking
    by_cases hnow : first.2.moment timeout ≤ s.now
    · obtain ⟨earlier, later, hsplit⟩ := List.append_of_mem hfirst
      have hlength := h.length_le
      have hpos := List.length_pos_iff.mpr hworking
      exact ⟨_, .send hsplit hnow (by omega)⟩
    · exact ⟨_, .pass (Nat.lt_of_not_le hnow) hworking hchannel hle⟩

/-- How many steps are left at most: two for each worker, one for each entry on its way, and one
for each millisecond. -/
def weight (timeout : Duration) (s : Exchange κ α) : Nat :=
  2 * s.working.length + s.channel.length + (timeout.millis - s.now)

theorem Step.weight_lt {s s' : Exchange κ α} (h : Step timeout room s s') :
    s'.weight timeout < s.weight timeout := by
  unfold weight
  cases h with
  | send hworking hdue hroom =>
    simp only [hworking, List.length_append, List.length_cons, List.length_nil]
    omega
  | receive hchannel =>
    simp only [hchannel, List.length_cons]
    omega
  | @pass next hnext hworking hchannel hdue =>
    -- time passes only while somebody is working, and whoever works is done by the timeout
    obtain ⟨query, hquery⟩ := List.exists_mem_of_ne_nil _ hworking
    have hlimit := Nat.le_trans (hdue query hquery) (query.2.moment_le_timeout timeout)
    dsimp only
    omega

theorem Runs.add_weight_le {s s' : Exchange κ α} {n : Nat} (h : Runs timeout room s n s') :
    n + s'.weight timeout ≤ s.weight timeout := by
  induction h with
  | here => omega
  | next _ hstep ih =>
    have hlt := hstep.weight_lt
    omega

/-! ### Every complete gathering can be received -/

/-- A worker whose query is over hands its entry to a collector who waits. -/
theorem runs_hand (hroom : 0 < room) {s : Exchange κ α} {earlier later : List (κ × Reply α)}
    {query : κ × Reply α} (hworking : s.working = earlier ++ query :: later)
    (hchannel : s.channel = []) (hnow : s.now = query.2.moment timeout) :
    Runs timeout room s 2
      ⟨s.now, earlier ++ later, [], s.gathered ++ [entry timeout query]⟩ := by
  obtain ⟨now, working, channel, gathered⟩ := s
  obtain rfl : now = _ := hnow
  obtain rfl : channel = [] := hchannel
  exact .next (.next .here (.send hworking (Nat.le_refl _) hroom)) (.receive rfl)

/-- Time passes up to the moment of the next query, if that is not yet reached. -/
theorem runs_wait {s : Exchange κ α} {moment : Nat} (hworking : s.working ≠ [])
    (hchannel : s.channel = []) (hnow : s.now ≤ moment)
    (hdue : ∀ query ∈ s.working, moment ≤ query.2.moment timeout) :
    ∃ n, Runs timeout room s n { s with now := moment } := by
  obtain hlt | rfl := Nat.lt_or_eq_of_le hnow
  · exact ⟨1, .next .here (.pass hlt hworking hchannel hdue)⟩
  · exact ⟨0, .here⟩

/-- What is still to be gathered can be gathered in any order that respects the moments. -/
theorem exists_runs {rest : List (Arrival κ α)} {s : Exchange κ α} (hroom : rest ≠ [] → 0 < room)
    (hentries : rest.Perm (s.working.map (entry timeout)))
    (hordered : rest.Pairwise fun a b => a.after ≤ b.after) (hnow : ∀ a ∈ rest, s.now ≤ a.after)
    (hchannel : s.channel = []) :
    ∃ n s', Runs timeout room s n s' ∧ s'.IsOver ∧ s'.gathered = s.gathered ++ rest := by
  -- the collector waits for each entry in turn: its worker is the next one to be due
  induction rest generalizing s with
  | nil =>
    have hworking : s.working = [] := by simpa using hentries
    exact ⟨0, s, .here, ⟨hworking, hchannel⟩, (List.append_nil _).symm⟩
  | cons a rest ih =>
    obtain ⟨query, hquery, rfl⟩ := List.mem_map.mp (hentries.mem_iff.mp List.mem_cons_self)
    obtain ⟨earlier, later, hworking⟩ := List.append_of_mem hquery
    obtain ⟨hfirst, hordered⟩ := List.pairwise_cons.mp hordered
    have hdue : ∀ q ∈ s.working, query.2.moment timeout ≤ q.2.moment timeout := by
      intro q hq
      obtain heq | hrest := List.mem_cons.mp (hentries.mem_iff.mpr (List.mem_map_of_mem hq))
      · exact Nat.le_of_eq (congrArg Arrival.after heq).symm
      · exact hfirst _ hrest
    obtain ⟨waited, hwaited⟩ : ∃ n,
        Runs timeout room s n { s with now := query.2.moment timeout } :=
      runs_wait (List.ne_nil_of_mem hquery) hchannel (hnow _ List.mem_cons_self) hdue
    have hleft : rest.Perm ((earlier ++ later).map (entry timeout)) := by
      rw [hworking, List.map_append, List.map_cons] at hentries
      simpa only [List.map_append, List.perm_cons] using hentries.trans List.perm_middle
    have hpos : 0 < room := hroom (List.cons_ne_nil _ _)
    have hhanded : Runs timeout room { s with now := query.2.moment timeout } 2
        ⟨query.2.moment timeout, earlier ++ later, [], s.gathered ++ [entry timeout query]⟩ :=
      runs_hand hpos hworking hchannel rfl
    obtain ⟨n, s', hruns, hover, hgathered⟩ := @ih
      ⟨query.2.moment timeout, earlier ++ later, [], s.gathered ++ [entry timeout query]⟩
      (fun _ => hpos) hleft hordered hfirst rfl
    rw [List.append_assoc, List.singleton_append] at hgathered
    exact ⟨_, s', (hwaited.trans hhanded).trans hruns, hover, hgathered⟩

/-- What can be received of all queries is just the complete gatherings. -/
theorem exists_runs_iff {heard : List (Arrival κ α)} :
    (∃ n s, Runs timeout queries.length (start queries) n s ∧ s.IsOver ∧ s.gathered = heard) ↔
      Complete timeout queries heard := by
  constructor
  · rintro ⟨n, s, hruns, hover, rfl⟩
    exact ((sound_start timeout queries).runs hruns).complete hover
  · intro h
    have hroom (hheard : heard ≠ []) : 0 < queries.length := by
      simpa [h.entries.length_eq] using List.length_pos_iff.mpr hheard
    exact exists_runs (s := start queries) hroom h.entries h.ordered (fun _ _ => Nat.zero_le _) rfl

end Exchange

/-- Scattered queries are gathered completely: one entry for each query, made from its own reply
and the timeout alone, in the order of the moments at which the queries are over, a delay counting
up to the horizon of the clock. A clock that covers the timeout tells them apart as they are. The
first fault of the gathering is that of an entry that none with a fault precedes, and without any
the answers are all values in their order.

The workers, the channel and the collector can bring about just these gatherings, that of `scatter`
among them; they are never stuck before the end, no worker lacks room, and the end comes after
so many steps at the latest. -/
theorem scatter_complete (clock : Clock) (timeout : Duration) (queries : List (κ × Reply α)) :
    let shown := queriesOn clock queries
    Complete timeout shown (scatter timeout shown) ∧
    (clock.Covers timeout → Complete timeout queries (scatter timeout shown)) ∧
    (∀ answers, firstError (scatter timeout shown) = .ok answers ↔
      (scatter timeout shown).map (fun a => (a.target, a.result)) =
        answers.map fun answer => (answer.1, .ok answer.2)) ∧
    (∀ f, firstError (scatter timeout shown) = .error f ↔
      ∃ earlier a later, scatter timeout shown = earlier ++ a :: later ∧ a.result = .error f ∧
        ∀ b ∈ earlier, ∃ value, b.result = .ok value) ∧
    (∀ heard, (∃ n s, Exchange.Runs timeout shown.length (.start shown) n s ∧ s.IsOver ∧
      s.gathered = heard) ↔ Complete timeout shown heard) ∧
    ∀ n s, Exchange.Runs timeout shown.length (.start shown) n s →
      (s.IsOver ∨ ∃ s', Exchange.Step timeout shown.length s s') ∧
      s.channel.length + s.working.length ≤ shown.length ∧
      n ≤ 2 * shown.length + timeout.millis := by
  intro shown
  have hcomplete : Complete timeout shown (scatter timeout shown) := complete_scatter timeout shown
  refine ⟨hcomplete, fun hcovers => (complete_queriesOn_iff hcovers).mp hcomplete,
    fun _ => firstError_eq_ok_iff, fun _ => firstError_eq_error_iff,
    fun _ => Exchange.exists_runs_iff, fun n s hruns => ?_⟩
  have hsound := (Exchange.sound_start timeout shown).runs hruns
  have hweight : n + s.weight timeout ≤ 2 * shown.length + timeout.millis := hruns.add_weight_le
  refine ⟨?_, hsound.length_le, by omega⟩
  by_cases hover : s.IsOver
  · exact .inl hover
  · exact .inr (hsound.exists_step hover)

/-- A query that dies and one that comes too late. -/
def failingQueries : List (String × Reply String) :=
  [("late", ⟨20, .value "x"⟩), ("dead", ⟨5, .panic⟩)]

/-- Both queries are received, the one that dies first, within the ten milliseconds. -/
theorem scatter_complete_failing :
    Exchange.Runs (.ofMillis 10) 2 (.start failingQueries) 6
      ⟨10, [], [], [⟨5, "dead", .error (.internal "query task panicked")⟩,
        ⟨10, "late", .error (.timeout 10)⟩]⟩ ∧
    Complete (.ofMillis 10) failingQueries (scatter (.ofMillis 10) failingQueries) ∧
    firstError (scatter (.ofMillis 10) failingQueries) =
      .error (.internal "query task panicked") ∧
    6 ≤ 2 * failingQueries.length + (Duration.ofMillis 10).millis := by
  have hruns : Exchange.Runs (.ofMillis 10) 2 (.start failingQueries) 6
      ⟨10, [], [], [⟨5, "dead", .error (.internal "query task panicked")⟩,
        ⟨10, "late", .error (.timeout 10)⟩]⟩ := by
    have hdead : Exchange.Runs (.ofMillis 10) 2 (.start failingQueries) 2
        ⟨5, [("late", ⟨20, .value "x"⟩)],
          [⟨5, "dead", .error (.internal "query task panicked")⟩], []⟩ :=
      (Exchange.Runs.here.next (.pass (show 0 < 5 by decide) (by decide) rfl (by decide))).next
        (.send (show _ = [("late", ⟨20, .value "x"⟩)] ++ ("dead", ⟨5, .panic⟩) :: [] from rfl)
          (by decide) (by decide))
    exact (((hdead.next (.receive rfl)).next
      (.pass (show 5 < 10 by decide) (by simp) rfl (by decide))).next
        (.send (show _ = [] ++ ("late", ⟨20, .value "x"⟩) :: [] from rfl)
          (by decide) (by decide))).next (.receive rfl)
  have hshown : queriesOn .ofThirtyYears failingQueries = failingQueries := rfl
  obtain ⟨-, hcomplete, -, hfault, -, hsteps⟩ :=
    scatter_complete .ofThirtyYears (.ofMillis 10) failingQueries
  rw [hshown] at hcomplete hfault hsteps
  refine ⟨hruns, hcomplete (by decide), ?_, (hsteps 6 _ hruns).2.2⟩
  exact (hfault _).mpr ⟨[], _, _, rfl, rfl, List.forall_mem_nil _⟩

/-- Three queries that take more than thirty years, one of them longer than the timeout, and one
that takes a bit more than a minute. -/
def distantQueries : List (String × Reply String) :=
  [("a", ⟨999999999999, .value "v-a"⟩), ("b", ⟨1000000000001, .value "v-b"⟩),
    ("c", ⟨10000000000000, .value "v-c"⟩), ("d", ⟨70000, .value "v-d"⟩)]

/-- Beyond its horizon, a clock of thirty years does not tell delays from the timeout: a query whose
delay is longer than the timeout is heard with its value. -/
theorem scatter_distant :
    ¬((scatter (.ofMillis 1000000000000) (queriesOn .ofThirtyYears distantQueries)).map
        fun a => (a.target, a.result)).Perm
      (distantQueries.map fun query =>
        (query.1,
          if query.2.delay ≤ (Duration.ofMillis 1000000000000).millis then query.2.ending.result
          else .error (.timeout (.ofNat (Duration.ofMillis 1000000000000).millis)))) := by
  intro hperm
  have hheard : ("c", .ok "v-c") ∈
      (scatter (.ofMillis 1000000000000) (queriesOn .ofThirtyYears distantQueries)).map
        fun a => (a.target, a.result) := by
    have hentry := (complete_scatter (.ofMillis 1000000000000)
      (queriesOn .ofThirtyYears distantQueries)).entries.mem_iff.mpr
        (List.mem_map_of_mem (List.mem_of_getElem?
          (show (queriesOn .ofThirtyYears distantQueries)[2]? = some _ from rfl)))
    exact List.mem_map.mpr ⟨_, hentry, rfl⟩
  have hclaimed := hperm.mem_iff.mp hheard
  simp [distantQueries, Duration.ofMillis, Duration.millis, Ending.result] at hclaimed

end CopysetWatch.Gather
