/-!
# Timelines

A value that changes now and then, with what it was before. A change at a moment takes effect
after it, so what is looked up for a moment is the value before any change of that moment.
-/

namespace CopysetWatch

/-- A value that changes over time. -/
structure Timeline (α : Type) where
  current : α
  /-- Earlier values, each with the last moment at which it was in force, latest first. -/
  past : List (Nat × α) := []
  deriving Repr

namespace Timeline

/-- The value in force at a moment, out of a later one and the earlier ones. -/
def lookup {α : Type} (moment : Nat) (later : α) : List (Nat × α) → α
  | [] => later
  | (last, value) :: earlier =>
    if moment ≤ last then lookup moment value earlier else later

/-- The value in force at a moment. -/
def valueAt {α : Type} (t : Timeline α) (moment : Nat) : α :=
  lookup moment t.current t.past

/-- Changes the value at a moment that is not before any earlier change. -/
def change {α : Type} (t : Timeline α) (now : Nat) (edit : α → α) : Timeline α :=
  match t.past with
  | [] => ⟨edit t.current, [(now, t.current)]⟩
  | (last, value) :: earlier =>
    if last = now then ⟨edit t.current, (last, value) :: earlier⟩
    else ⟨edit t.current, (now, t.current) :: (last, value) :: earlier⟩

end Timeline

end CopysetWatch
