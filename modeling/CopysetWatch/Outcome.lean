/-!
# Outcomes

How a computation ends. It gives a value, or it hands a fault to its caller, or it panics. A panic
passes through everything that waits for the computation until somebody catches it, and in a build
that checks arithmetic it is also what becomes of a sum or a product that does not fit its word.
Such a build is what all of this is about.
-/

namespace CopysetWatch

/-- How a computation ends. -/
inductive Outcome (ε α : Type) where
  | value (a : α)
  | fault (f : ε)
  /-- It dies and gives its caller nothing. -/
  | panic
  deriving DecidableEq, Repr, Inhabited

namespace Outcome

variable {ε α β : Type}

/-- The outcome of a computation that does not panic. -/
def ofExcept : Except ε α → Outcome ε α
  | .ok a => .value a
  | .error f => .fault f

/-- What the caller gets back, if it gets anything. -/
def returned? : Outcome ε α → Option (Except ε α)
  | .value a => some (.ok a)
  | .fault f => some (.error f)
  | .panic => none

/-- The value that a computation gives, if it gives one. -/
def value? : Outcome ε α → Option α
  | .value a => some a
  | _ => none

/-- Another value in place of a value. -/
protected def map (f : α → β) : Outcome ε α → Outcome ε β
  | .value a => .value (f a)
  | .fault e => .fault e
  | .panic => .panic

/-- One computation after another; only a value lets the next one begin. -/
protected def bind : Outcome ε α → (α → Outcome ε β) → Outcome ε β
  | .value a, next => next a
  | .fault f, _ => .fault f
  | .panic, _ => .panic

instance : Monad (Outcome ε) where
  pure := .value
  bind := Outcome.bind
  map := Outcome.map

@[simp] theorem pure_eq_value (a : α) : (pure a : Outcome ε α) = .value a := rfl

@[simp] theorem value_bind (a : α) (next : α → Outcome ε β) : (value a >>= next) = next a := rfl

@[simp] theorem fault_bind (f : ε) (next : α → Outcome ε β) :
    (fault f >>= next) = .fault f := rfl

@[simp] theorem panic_bind (next : α → Outcome ε β) :
    ((panic : Outcome ε α) >>= next) = .panic := rfl

@[simp] theorem map_value (f : α → β) (a : α) : (value a : Outcome ε α).map f = .value (f a) :=
  rfl

@[simp] theorem map_fault (f : α → β) (e : ε) : (fault e : Outcome ε α).map f = .fault e := rfl

@[simp] theorem map_panic (f : α → β) : (panic : Outcome ε α).map f = .panic := rfl

@[simp] theorem returned?_value (a : α) : (value a : Outcome ε α).returned? = some (.ok a) := rfl

@[simp] theorem returned?_fault (f : ε) : (fault f : Outcome ε α).returned? = some (.error f) :=
  rfl

@[simp] theorem returned?_panic : (panic : Outcome ε α).returned? = none := rfl

@[simp] theorem value?_value (a : α) : (value a : Outcome ε α).value? = some a := rfl

@[simp] theorem ofExcept_ok (a : α) : (ofExcept (.ok a) : Outcome ε α) = .value a := rfl

@[simp] theorem ofExcept_error (f : ε) : (ofExcept (.error f) : Outcome ε α) = .fault f := rfl

theorem ofExcept_eq_value_iff {result : Except ε α} {a : α} :
    ofExcept result = .value a ↔ result = .ok a := by
  cases result <;> simp

theorem ofExcept_eq_fault_iff {result : Except ε α} {f : ε} :
    ofExcept result = .fault f ↔ result = .error f := by
  cases result <;> simp

@[simp] theorem returned?_ofExcept (result : Except ε α) :
    (ofExcept result).returned? = some result := by
  cases result <;> rfl

theorem returned?_eq_none_iff {outcome : Outcome ε α} :
    outcome.returned? = none ↔ outcome = .panic := by
  cases outcome <;> simp

/-- What returned is all there is to an outcome that is no panic. -/
theorem returned?_eq_some_iff {outcome : Outcome ε α} {result : Except ε α} :
    outcome.returned? = some result ↔ outcome = ofExcept result := by
  cases outcome <;> cases result <;> simp

theorem value?_ofExcept (result : Except ε α) : (ofExcept result).value? = result.toOption := by
  cases result <;> rfl

theorem bind_eq_value_iff {first : Outcome ε α} {next : α → Outcome ε β} {b : β} :
    first >>= next = .value b ↔ ∃ a, first = .value a ∧ next a = .value b := by
  cases first <;> simp

end Outcome

end CopysetWatch
