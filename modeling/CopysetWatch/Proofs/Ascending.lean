import CopysetWatch.GroupId
import Std.Data.ExtTreeSet

/-!
# Ascending lists

A set is listed in ascending order, each element once. An ascending list is known by its members
alone, so that two of them are equal as soon as they hold the same.
-/

namespace CopysetWatch

/-- Every element of the list comes before all elements behind it. -/
def Ascending {α : Type} [Ord α] (l : List α) : Prop :=
  l.Pairwise fun a b => compare a b = .lt

variable {α : Type} [Ord α]

/-- The elements of a set are listed in ascending order. -/
theorem ascending_toList [Std.TransOrd α] (s : Std.ExtTreeSet α) : Ascending s.toList :=
  s.ordered_toList

/-- Leaving elements out keeps a list ascending. -/
theorem Ascending.filter {l : List α} (h : Ascending l) (keep : α → Bool) :
    Ascending (l.filter keep) :=
  List.Pairwise.filter keep h

/-- An ascending list holds nothing twice. -/
theorem Ascending.nodup [Std.ReflOrd α] {l : List α} (h : Ascending l) : l.Nodup := by
  apply h.imp
  rintro a b hlt rfl
  simp at hlt

/-- Ascending lists with the same members are equal. -/
theorem Ascending.eq_of_mem_iff [Std.TransOrd α] {l₁ l₂ : List α} (h₁ : Ascending l₁)
    (h₂ : Ascending l₂) (hmem : ∀ a, a ∈ l₁ ↔ a ∈ l₂) : l₁ = l₂ := by
  apply List.Perm.eq_of_pairwise _ h₁ h₂
  · exact (List.perm_ext_iff_of_nodup h₁.nodup h₂.nodup).mpr hmem
  · intro a b _ _ hab hba
    exact absurd hba (Std.OrientedCmp.not_lt_of_lt hab)

/-- What is found in an ascending list belongs to the smallest element that has anything. -/
theorem Ascending.exists_of_findSome?_eq_some [Std.TransOrd α] {β : Type} {l : List α}
    (h : Ascending l) {f : α → Option β} {b : β} (hfound : l.findSome? f = some b) :
    ∃ a ∈ l, f a = some b ∧ ∀ other ∈ l, (f other).isSome → (compare a other).isLE := by
  obtain ⟨before, a, behind, rfl, ha, hbefore⟩ := List.findSome?_eq_some_iff.mp hfound
  refine ⟨a, by simp, ha, fun other hother hsome => ?_⟩
  rcases List.mem_append.mp hother with hother | hother
  · rw [hbefore other hother] at hsome
    cases hsome
  · rcases List.mem_cons.mp hother with rfl | hother
    · simp
    · have hbehind := (List.pairwise_cons.mp (List.pairwise_append.mp h).2.1).1 other hother
      exact Ordering.isLE_of_eq_lt hbehind

/-- The smallest element that has anything is the only one that can be found. -/
theorem Ascending.findSome?_eq_some_iff [Std.TransOrd α] [Std.LawfulEqOrd α] {β : Type}
    {l : List α} (h : Ascending l) {f : α → Option β} {b : β} :
    l.findSome? f = some b ↔
      ∃ a ∈ l, f a = some b ∧ ∀ other ∈ l, (f other).isSome → (compare a other).isLE := by
  constructor
  · exact h.exists_of_findSome?_eq_some
  · rintro ⟨a, ha, hb, hfirst⟩
    have hasome : (f a).isSome := Option.isSome_iff_exists.mpr ⟨b, hb⟩
    obtain ⟨c, hc⟩ := Option.isSome_iff_exists.mp (List.findSome?_isSome_iff.mpr ⟨a, ha, hasome⟩)
    obtain ⟨other, hother, hfound, hleast⟩ := h.exists_of_findSome?_eq_some hc
    have hle := hfirst other hother (Option.isSome_iff_exists.mpr ⟨c, hfound⟩)
    have hcompare := Std.OrientedCmp.isLE_antisymm hle (hleast a ha hasome)
    obtain rfl := Std.LawfulEqCmp.eq_of_compare hcompare
    rw [hc, ← hfound, hb]

/-- What comes last of all belongs to the greatest element that has anything. -/
theorem Ascending.exists_of_getLast?_flatMap [Std.TransOrd α] {β : Type} {l : List α}
    (h : Ascending l) {f : α → List β} {b : β} (hlast : (l.flatMap f).getLast? = some b) :
    ∃ a ∈ l, (f a).getLast? = some b ∧ ∀ other ∈ l, f other ≠ [] → (compare other a).isLE := by
  have hdescending : l.reverse.Pairwise fun a b => compare b a = .lt :=
    List.pairwise_reverse.mpr h
  rw [List.getLast?_flatMap] at hlast
  obtain ⟨before, a, behind, hsplit, ha, hbefore⟩ := List.findSome?_eq_some_iff.mp hlast
  rw [hsplit] at hdescending
  have hmem (other : α) : other ∈ l ↔ other ∈ before ∨ other = a ∨ other ∈ behind := by
    rw [← List.mem_reverse, hsplit, List.mem_append, List.mem_cons]
  refine ⟨a, (hmem a).mpr (.inr (.inl rfl)), ha, fun other hother hsome => ?_⟩
  rcases (hmem other).mp hother with hother | rfl | hother
  · exact absurd (List.getLast?_eq_none_iff.mp (hbefore other hother)) hsome
  · simp
  · have hbehind := (List.pairwise_cons.mp (List.pairwise_append.mp hdescending).2.1).1
    exact Ordering.isLE_of_eq_lt (hbehind other hother)

end CopysetWatch
