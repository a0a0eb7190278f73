/-!
# Stable sorting

A list is put in order by inserting its elements from the last to the first. An element goes in
front of all that it does not follow, so elements that compare as equal keep their order.
-/

namespace CopysetWatch

/-- Puts an element in front of the first one that it may precede. -/
def insertStable {α : Type} (precedes : α → α → Bool) (a : α) : List α → List α
  | [] => [a]
  | b :: rest => if precedes a b then a :: b :: rest else b :: insertStable precedes a rest

/-- The elements in order, equal ones as they were. -/
def stableSort {α : Type} (precedes : α → α → Bool) : List α → List α
  | [] => []
  | a :: rest => insertStable precedes a (stableSort precedes rest)

theorem insertStable_perm {α : Type} (precedes : α → α → Bool) (a : α) (l : List α) :
    (insertStable precedes a l).Perm (a :: l) := by
  induction l with
  | nil => exact .refl _
  | cons b rest ih =>
    simp only [insertStable]
    split
    · exact .refl _
    · exact (ih.cons b).trans (.swap a b rest)

/-- Sorting neither loses nor invents elements. -/
theorem stableSort_perm {α : Type} (precedes : α → α → Bool) (l : List α) :
    (stableSort precedes l).Perm l := by
  induction l with
  | nil => exact .refl _
  | cons a rest ih => exact (insertStable_perm precedes a _).trans (ih.cons a)

/-- A list in order stays in order when an element is put into it. -/
theorem pairwise_insertStable {α : Type} {precedes : α → α → Bool}
    (htrans : ∀ a b c, precedes a b → precedes b c → precedes a c)
    (htotal : ∀ a b, precedes a b ∨ precedes b a) (a : α) {l : List α}
    (hl : l.Pairwise fun b c => precedes b c) :
    (insertStable precedes a l).Pairwise fun b c => precedes b c := by
  induction l with
  | nil => exact List.pairwise_singleton _ a
  | cons b rest ih =>
    obtain ⟨hb, hrest⟩ := List.pairwise_cons.mp hl
    simp only [insertStable]
    split
    case isTrue hab =>
      refine List.pairwise_cons.mpr ⟨List.forall_mem_cons.mpr ⟨hab, ?_⟩, hl⟩
      exact fun c hc => htrans a b c hab (hb c hc)
    case isFalse hab =>
      refine List.pairwise_cons.mpr ⟨fun c hc => ?_, ih hrest⟩
      obtain rfl | hc := List.mem_cons.mp ((insertStable_perm precedes a rest).mem_iff.mp hc)
      · exact (htotal c b).resolve_left hab
      · exact hb c hc

theorem map_insertStable {α β : Type} {precedes : α → α → Bool} {precedes' : β → β → Bool}
    {f : α → β} (h : ∀ a b, precedes' (f a) (f b) = precedes a b) (a : α) (l : List α) :
    (insertStable precedes a l).map f = insertStable precedes' (f a) (l.map f) := by
  induction l with
  | nil => rfl
  | cons b rest ih =>
    rw [List.map_cons, insertStable, insertStable, h]
    split
    · rfl
    · rw [List.map_cons, ih]

/-- Sorting does not depend on what is of no account for the order. -/
theorem map_stableSort {α β : Type} {precedes : α → α → Bool} {precedes' : β → β → Bool}
    {f : α → β} (h : ∀ a b, precedes' (f a) (f b) = precedes a b) (l : List α) :
    (stableSort precedes l).map f = stableSort precedes' (l.map f) := by
  induction l with
  | nil => rfl
  | cons a rest ih => rw [stableSort, map_insertStable h, ih, List.map_cons, stableSort]

/-- Sorting by a total order puts the elements in order. -/
theorem pairwise_stableSort {α : Type} {precedes : α → α → Bool}
    (htrans : ∀ a b c, precedes a b → precedes b c → precedes a c)
    (htotal : ∀ a b, precedes a b ∨ precedes b a) (l : List α) :
    (stableSort precedes l).Pairwise fun b c => precedes b c := by
  induction l with
  | nil => exact .nil
  | cons a rest ih => exact pairwise_insertStable htrans htotal a ih

end CopysetWatch
