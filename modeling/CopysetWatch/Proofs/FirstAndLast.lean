import Mathlib.Data.List.Basic

/-!
# The first and the last of a kind

Read from the left, the first item of a kind may end the reading, and of several items that set the
same thing the last one counts. Either is told by what stands before or behind it, and there is at
most one.
-/

namespace CopysetWatch

variable {α : Type} {kind : α → Prop} {l : List α} {a b : α}

/-- The item of a kind before which no other one of this kind stands. -/
def IsFirst (kind : α → Prop) (l : List α) (a : α) : Prop :=
  kind a ∧ ∃ before after, l = before ++ a :: after ∧ ∀ earlier ∈ before, ¬kind earlier

/-- The item of a kind behind which no other one of this kind stands. -/
def IsLast (kind : α → Prop) (l : List α) (a : α) : Prop :=
  kind a ∧ ∃ before after, l = before ++ a :: after ∧ ∀ later ∈ after, ¬kind later

theorem isFirst_iff_find? [DecidablePred kind] :
    IsFirst kind l a ↔ l.find? (fun a => decide (kind a)) = some a := by
  simp [IsFirst, List.find?_eq_some_iff_append]

/-- The last of a kind is the first one from behind. -/
theorem isLast_iff_isFirst_reverse : IsLast kind l a ↔ IsFirst kind l.reverse a := by
  refine and_congr_right fun _ => ⟨?_, ?_⟩
  · rintro ⟨before, after, rfl, hlater⟩
    exact ⟨after.reverse, before.reverse, by simp, by simpa using hlater⟩
  · rintro ⟨before, after, hsplit, hearlier⟩
    rw [List.reverse_eq_append_iff, List.reverse_cons, List.append_assoc] at hsplit
    exact ⟨after.reverse, before.reverse, hsplit, by simpa using hearlier⟩

theorem isLast_iff_getLast?_filter [DecidablePred kind] :
    IsLast kind l a ↔ (l.filter fun a => decide (kind a)).getLast? = some a := by
  rw [isLast_iff_isFirst_reverse, isFirst_iff_find?, ← List.head?_filter, List.filter_reverse,
    List.head?_reverse]

/-- Only one item is the first of its kind. -/
theorem IsFirst.unique (h : IsFirst kind l a) (h' : IsFirst kind l b) : a = b := by
  classical
  rw [isFirst_iff_find?] at h h'
  exact Option.some.inj (h.symm.trans h')

/-- Only one item is the last of its kind. -/
theorem IsLast.unique (h : IsLast kind l a) (h' : IsLast kind l b) : a = b := by
  rw [isLast_iff_isFirst_reverse] at h h'
  exact h.unique h'

theorem IsFirst.mem (h : IsFirst kind l a) : a ∈ l := by
  obtain ⟨-, before, after, rfl, -⟩ := h
  simp

theorem IsLast.mem (h : IsLast kind l a) : a ∈ l :=
  List.mem_reverse.mp (isLast_iff_isFirst_reverse.mp h).mem

/-- Among the items of a kind, one is the last. -/
theorem exists_isLast (h : ∃ a ∈ l, kind a) : ∃ a, IsLast kind l a := by
  classical
  obtain ⟨a, hmem, ha⟩ := h
  have hne : l.filter (fun a => decide (kind a)) ≠ [] :=
    List.ne_nil_of_mem (List.mem_filter.mpr ⟨hmem, decide_eq_true ha⟩)
  exact ⟨_, isLast_iff_getLast?_filter.mpr (List.getLast?_eq_some_getLast hne)⟩

/-- What is put behind is the last of its kind. -/
theorem isLast_concat (ha : kind a) : IsLast kind (l ++ [a]) a :=
  ⟨ha, l, [], rfl, by simp⟩

/-- An item of another kind that is put behind does not change which one is the last. -/
theorem IsLast.concat (h : IsLast kind l a) (hb : ¬kind b) : IsLast kind (l ++ [b]) a := by
  obtain ⟨ha, before, after, rfl, hlater⟩ := h
  refine ⟨ha, before, after ++ [b], by simp, fun later hmem => ?_⟩
  rcases List.mem_append.mp hmem with hmem | hmem
  · exact hlater later hmem
  · rwa [List.mem_singleton.mp hmem]

/-- The last of a kind depends on the kinds of the items of the list only. -/
theorem isLast_congr {kind' : α → Prop} (h : ∀ a ∈ l, kind a ↔ kind' a) :
    IsLast kind l a ↔ IsLast kind' l a := by
  classical
  rw [isLast_iff_getLast?_filter, isLast_iff_getLast?_filter,
    List.filter_congr fun a ha => decide_eq_decide.mpr (h a ha)]

/-- The last of a kind among mapped items is mapped from the last item that becomes of this kind. -/
theorem isLast_map_iff {β : Type} {kind : β → Prop} {f : α → β} {b : β} :
    IsLast kind (l.map f) b ↔ ∃ a, IsLast (fun a => kind (f a)) l a ∧ f a = b := by
  classical
  simp only [isLast_iff_getLast?_filter, List.filter_map, List.getLast?_map,
    Option.map_eq_some_iff, Function.comp_def]

end CopysetWatch
