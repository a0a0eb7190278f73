import CopysetWatch.Inquiry

/-!
# Running inquiries

How each kind of inquiry runs from a moment on, and how one inquiry follows another: it begins at
the moment at which the first one is over, unless the first one fails or panics.
-/

namespace CopysetWatch.Inquiry

variable {α β κ : Type}

@[simp] theorem run_pure (a : α) (start : Nat) :
    (pure a : Inquiry α).run start = (.value a, 0) :=
  rfl

@[simp] theorem run_ofExcept (result : Except Fault α) (start : Nat) :
    (ofExcept result).run start = (.ofExcept result, 0) :=
  rfl

@[simp] theorem run_ask (reply : Nat → Reply α) (start : Nat) :
    (ask reply).run start = ((reply start).ending, (reply start).delay) :=
  rfl

@[simp] theorem run_gather (timeout : Duration) (query : Nat → κ → Reply α) (targets : List κ)
    (start : Nat) :
    (gather timeout query targets).run start =
      (.value (Gather.arrivals timeout (query start) targets),
        Gather.elapsed (Gather.arrivals timeout (query start) targets)) :=
  rfl

@[simp] theorem run_gatherAll (timeout : Duration) (query : Nat → κ → Reply α)
    (targets : List κ) (start : Nat) :
    (gatherAll timeout query targets).run start =
      (.ofExcept (Gather.firstError (Gather.arrivals timeout (query start) targets)),
        Gather.elapsed (Gather.arrivals timeout (query start) targets)) :=
  rfl

/-- What follows an inquiry begins when that inquiry is over. -/
theorem run_bind_of_value {first : Inquiry α} {start : Nat} {a : α}
    (h : (first.run start).1 = .value a) (next : α → Inquiry β) :
    (first >>= next).run start =
      (((next a).run (start + (first.run start).2)).1,
        (first.run start).2 + ((next a).run (start + (first.run start).2)).2) := by
  change Inquiry.bind first next start = _
  unfold Inquiry.bind run at *
  generalize first start = outcome at h ⊢
  obtain ⟨ending, taken⟩ := outcome
  obtain rfl : ending = _ := h
  rfl

/-- Nothing follows an inquiry that fails. -/
theorem run_bind_of_fault {first : Inquiry α} {start : Nat} {f : Fault}
    (h : (first.run start).1 = .fault f) (next : α → Inquiry β) :
    (first >>= next).run start = (.fault f, (first.run start).2) := by
  change Inquiry.bind first next start = _
  unfold Inquiry.bind run at *
  generalize first start = outcome at h ⊢
  obtain ⟨ending, taken⟩ := outcome
  obtain rfl : ending = _ := h
  rfl

/-- Nothing follows an inquiry that panics. -/
theorem run_bind_of_panic {first : Inquiry α} {start : Nat}
    (h : (first.run start).1 = .panic) (next : α → Inquiry β) :
    (first >>= next).run start = (.panic, (first.run start).2) := by
  change Inquiry.bind first next start = _
  unfold Inquiry.bind run at *
  generalize first start = outcome at h ⊢
  obtain ⟨ending, taken⟩ := outcome
  obtain rfl : ending = _ := h
  rfl

/-- The ending of two inquiries in succession. -/
theorem ending_bind (first : Inquiry α) (next : α → Inquiry β) (start : Nat) :
    ((first >>= next).run start).1 =
      (first.run start).1.bind fun a => ((next a).run (start + (first.run start).2)).1 := by
  cases hfirst : (first.run start).1 with
  | value a =>
    rw [run_bind_of_value hfirst]
    rfl
  | fault f =>
    rw [run_bind_of_fault hfirst]
    rfl
  | panic =>
    rw [run_bind_of_panic hfirst]
    rfl

/-- Two inquiries in succession have a value if both have one, and take the time of both. -/
theorem exists_of_run_bind_eq_value {first : Inquiry α} {next : α → Inquiry β} {start : Nat}
    {b : β} (h : ((first >>= next).run start).1 = .value b) :
    ∃ a, (first.run start).1 = .value a ∧
      ((next a).run (start + (first.run start).2)).1 = .value b ∧
      ((first >>= next).run start).2 =
        (first.run start).2 + ((next a).run (start + (first.run start).2)).2 := by
  obtain ⟨a, hfirst, hnext⟩ := Outcome.bind_eq_value_iff.mp ((ending_bind ..).symm.trans h)
  rw [run_bind_of_value hfirst]
  exact ⟨a, hfirst, hnext, rfl⟩

end CopysetWatch.Inquiry
