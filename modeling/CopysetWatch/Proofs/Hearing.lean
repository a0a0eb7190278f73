import CopysetWatch.Gather

/-!
# Hearing many targets

The arrivals of a question are those of its targets one by one, in an order that nobody controls.
What is heard of a target depends on its own reply: the value if it comes in time, and a fault
otherwise. All targets have answered as soon as none of them has a fault, and the answers are then
the same in every order of arrival but for that order.
-/

namespace CopysetWatch

variable {κ α : Type}

/-- A reply gives a value no later than the timeout. -/
def Reply.InTime (reply : Reply α) (timeout : Duration) (value : α) : Prop :=
  reply.delay ≤ timeout.millis ∧ reply.ending = .value value

/-- A reply gives no value in time: it comes too late, it is a fault, or there is none. -/
def Reply.Fails (reply : Reply α) (timeout : Duration) : Prop :=
  timeout.millis < reply.delay ∨ (∃ f, reply.ending = .fault f) ∨ reply.ending = .panic

/-- A reply fails or gives a value in time. -/
theorem Reply.fails_or_exists_inTime (reply : Reply α) (timeout : Duration) :
    reply.Fails timeout ∨ ∃ value, reply.InTime timeout value := by
  by_cases hdelay : reply.delay ≤ timeout.millis
  · cases hending : reply.ending with
    | value a => exact .inr ⟨a, hdelay, hending⟩
    | fault f => exact .inl (.inr (.inl ⟨f, hending⟩))
    | panic => exact .inl (.inr (.inr hending))
  · exact .inl (.inl (Nat.lt_of_not_le hdelay))

/-- A reply that gives a value in time does not fail. -/
theorem Reply.InTime.not_fails {reply : Reply α} {timeout : Duration} {value : α}
    (h : reply.InTime timeout value) : ¬reply.Fails timeout := by
  rintro (hlate | ⟨f, hfault⟩ | hpanic)
  · exact Nat.not_lt.mpr h.1 hlate
  · cases h.2.symm.trans hfault
  · cases h.2.symm.trans hpanic

namespace Gather

/-- The arrivals of a question to some targets: one of each, in any order. -/
def Heard (timeout : Duration) (query : κ → Reply α) (targets : List κ)
    (heard : List (Arrival κ α)) : Prop :=
  heard.Perm (targets.map (arrival timeout query))

/-- The order in which answers come is an order of arrival. -/
theorem heard_arrivals (timeout : Duration) (query : κ → Reply α) (targets : List κ) :
    Heard timeout query targets (arrivals timeout query targets) :=
  stableSort_perm _ _

/-- What is heard depends on the replies of the targets alone. -/
theorem arrivals_congr (timeout : Duration) {query query' : κ → Reply α} {targets : List κ}
    (h : ∀ target ∈ targets, query target = query' target) :
    arrivals timeout query targets = arrivals timeout query' targets := by
  unfold arrivals
  congr 1
  apply List.map_congr_left
  intro target htarget
  unfold arrival
  rw [h target htarget]

@[simp] theorem target_arrival (timeout : Duration) (query : κ → Reply α) (target : κ) :
    (arrival timeout query target).target = target := by
  unfold arrival
  dsimp only
  split <;> rfl

/-- A target is heard with a value if its reply gives this value in time. -/
theorem result_arrival_eq_ok_iff (timeout : Duration) (query : κ → Reply α) (target : κ)
    (value : α) :
    (arrival timeout query target).result = .ok value ↔ (query target).InTime timeout value := by
  unfold arrival Reply.InTime
  dsimp only
  split
  case isTrue hwait =>
    cases hending : (query target).ending <;> simp [Ending.result, hwait]
  case isFalse hwait => simp [hwait]

/-- Where every target has a value, the answers are these values, in the order of arrival. -/
theorem firstError_of_forall {heard : List (Arrival κ α)} (value : κ → α)
    (h : ∀ a ∈ heard, a.result = .ok (value a.target)) :
    firstError heard = .ok (heard.map fun a => (a.target, value a.target)) := by
  induction heard with
  | nil => rfl
  | cons a rest ih =>
    rw [List.forall_mem_cons] at h
    simp [firstError, h.1, ih h.2, Except.map]

/-- There are answers only where every target has a value. -/
theorem exists_of_firstError_eq_ok {heard : List (Arrival κ α)} {answers : List (κ × α)}
    (h : firstError heard = .ok answers) : ∀ a ∈ heard, ∃ value, a.result = .ok value := by
  induction heard generalizing answers with
  | nil => simp
  | cons a rest ih =>
    simp only [firstError] at h
    split at h
    · cases h
    case h_2 value hvalue =>
      cases hrest : firstError rest with
      | error f =>
        rw [hrest] at h
        cases h
      | ok others => exact List.forall_mem_cons.mpr ⟨⟨value, hvalue⟩, ih hrest⟩

/-- The first fault is the fault of a target. -/
theorem firstError_eq_error {heard : List (Arrival κ α)} {f : Fault}
    (h : firstError heard = .error f) : ∃ a ∈ heard, a.result = .error f := by
  induction heard with
  | nil => cases h
  | cons a rest ih =>
    simp only [firstError] at h
    split at h
    case h_1 g hg =>
      simp only [Except.error.injEq] at h
      exact ⟨a, List.mem_cons_self, h ▸ hg⟩
    case h_2 value hvalue =>
      cases hrest : firstError rest with
      | ok others =>
        rw [hrest] at h
        cases h
      | error g =>
        rw [hrest] at h
        simp only [Except.map, Except.error.injEq] at h
        obtain ⟨b, hb, hresult⟩ := ih (h ▸ hrest)
        exact ⟨b, List.mem_cons_of_mem a hb, hresult⟩

variable {β : Type}

/-- What a target tells in time, which is nothing where it tells nothing in time. -/
def told (timeout : Duration) (query : κ → Reply (List β)) (target : κ) : List β :=
  (arrival timeout query target).result.toOption.getD []

/-- What is told in time is the value of the reply. -/
theorem told_eq {timeout : Duration} {query : κ → Reply (List β)} {target : κ}
    {value : List β} (h : (query target).InTime timeout value) :
    told timeout query target = value := by
  unfold told
  rw [(result_arrival_eq_ok_iff timeout query target value).mpr h]
  rfl

/-- What a target tells belongs to a reply in time. -/
theorem exists_inTime_of_mem_told {timeout : Duration} {query : κ → Reply (List β)} {target : κ}
    {b : β} (h : b ∈ told timeout query target) :
    ∃ value, (query target).InTime timeout value ∧ b ∈ value := by
  unfold told at h
  cases hresult : (arrival timeout query target).result with
  | error f =>
    rw [hresult] at h
    cases h
  | ok value =>
    rw [hresult] at h
    exact ⟨value, (result_arrival_eq_ok_iff timeout query target value).mp hresult, h⟩

/-- Either every target tells something in time, and the answers are what they tell, or the
outcome is the fault of one of them. -/
theorem Heard.firstError_cases {timeout : Duration} {query : κ → Reply (List β)}
    {targets : List κ} {heard : List (Arrival κ (List β))}
    (h : Heard timeout query targets heard) :
    (∃ answers, firstError heard = .ok answers ∧
      answers.Perm (targets.map fun target => (target, told timeout query target)) ∧
      ∀ target ∈ targets, ∃ value, (query target).InTime timeout value) ∨
    (∃ f, firstError heard = .error f ∧
      ∃ target ∈ targets, (arrival timeout query target).result = .error f) := by
  cases houtcome : firstError heard with
  | error f =>
    obtain ⟨a, ha, hresult⟩ := firstError_eq_error houtcome
    obtain ⟨target, htarget, rfl⟩ := List.mem_map.mp (h.mem_iff.mp ha)
    exact .inr ⟨f, rfl, target, htarget, hresult⟩
  | ok answers =>
    have hintime : ∀ target ∈ targets,
        (query target).InTime timeout (told timeout query target) := by
      intro target htarget
      obtain ⟨value, hvalue⟩ := exists_of_firstError_eq_ok houtcome _
        (h.mem_iff.mpr (List.mem_map_of_mem htarget))
      have hvalue := (result_arrival_eq_ok_iff timeout query target value).mp hvalue
      rwa [told_eq hvalue]
    have hresult : ∀ a ∈ heard, a.result = .ok (told timeout query a.target) := by
      intro a ha
      obtain ⟨target, htarget, rfl⟩ := List.mem_map.mp (h.mem_iff.mp ha)
      rw [target_arrival]
      exact (result_arrival_eq_ok_iff timeout query target _).mpr (hintime target htarget)
    have hperm := List.Perm.map (fun a => (a.target, told timeout query a.target)) h
    rw [← houtcome, firstError_of_forall _ hresult]
    refine .inl ⟨_, rfl, ?_, fun target htarget => ⟨_, hintime target htarget⟩⟩
    simpa only [List.map_map, Function.comp_def, target_arrival] using hperm

end Gather

end CopysetWatch
