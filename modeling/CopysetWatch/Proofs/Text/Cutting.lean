import CopysetWatch.Text.Pieces
import Mathlib.Data.List.Infix

/-!
# Cutting a text in two

A cut divides a text at the first place where the separator stands, and leaves a text alone in
which it does not stand. The first place is where the separator was put in if it cannot be found
earlier, be it with its own beginning as its end.
-/

namespace CopysetWatch.Text

/-- A text contains another one as a stretch of it. -/
theorem mentions_iff_infix {stretch text : List Char} :
    mentions stretch text ↔ stretch <:+: text := by
  induction text with
  | nil => simp [mentions]
  | cons c rest ih => simp [mentions, ih, List.infix_cons_iff]

/-- A text is not cut at a separator that it lacks. -/
theorem cut_of_not_infix {separator text : List Char} (h : ¬separator <:+: text) :
    cut separator text = none := by
  induction text with
  | nil =>
    cases separator with
    | nil => exact absurd (List.nil_infix) h
    | cons c rest => rfl
  | cons c rest ih =>
    rw [List.infix_cons_iff, not_or] at h
    rw [cut, if_neg (by simpa using h.1), ih h.2]
    rfl

/-- A text is cut where the separator stands first. -/
theorem cut_append {separator before : List Char}
    (h : ¬separator <:+: before ++ separator.dropLast) (after : List Char) :
    cut separator (before ++ separator ++ after) = some (before, after) := by
  have hne : separator ≠ [] := by
    rintro rfl
    exact h List.nil_infix
  induction before with
  | nil =>
    obtain ⟨c, rest, rfl⟩ := List.exists_cons_of_ne_nil hne
    simp [cut]
  | cons d rest ih =>
    rw [List.cons_append, List.infix_cons_iff, not_or] at h
    have hlater : ¬separator <+: d :: (rest ++ separator ++ after) := by
      intro hearly
      apply h.1
      apply List.prefix_of_prefix_length_le hearly
      · refine ⟨separator.getLast hne :: after, ?_⟩
        rw [List.append_cons, List.cons_append, List.append_assoc rest,
          List.dropLast_concat_getLast hne, List.cons_append]
      · simp only [List.length_cons, List.length_append, List.length_dropLast]
        omega
    rw [List.cons_append, List.cons_append, cut, if_neg (by simpa using hlater), ih h.2]
    rfl

/-- A text is cut unless it lacks the separator. -/
theorem cut_eq_none_iff {separator text : List Char} :
    cut separator text = none ↔ ¬separator <:+: text := by
  refine ⟨fun h => ?_, cut_of_not_infix⟩
  induction text with
  | nil =>
    cases separator with
    | nil => cases h
    | cons c rest => simp
  | cons c rest ih =>
    rw [cut] at h
    split at h
    · cases h
    case isFalse hlater =>
      rw [List.infix_cons_iff, not_or]
      exact ⟨by simpa using hlater, ih (Option.map_eq_none_iff.mp h)⟩

/-- A cut is made no later than where the separator stands first. -/
theorem not_infix_of_cut {separator text before after : List Char} (hne : separator ≠ [])
    (h : cut separator text = some (before, after)) :
    ¬separator <:+: before ++ separator.dropLast := by
  induction text generalizing before with
  | nil =>
    rw [cut, if_neg (by simpa using hne)] at h
    cases h
  | cons c rest ih =>
    have htext := eq_append_of_cut h
    rw [cut] at h
    split at h
    case isTrue hfirst =>
      cases h
      intro hstands
      have hlength := hstands.length_le
      have hpos := List.length_pos_iff.mpr hne
      rw [List.nil_append, List.length_dropLast] at hlength
      omega
    case isFalse hlater =>
      obtain ⟨⟨front, behind⟩, hrest, hparts⟩ := Option.map_eq_some_iff.mp h
      cases hparts
      rw [List.cons_append, List.infix_cons_iff, not_or]
      refine ⟨fun hearly => hlater ?_, ih hrest⟩
      have hprefix : c :: (front ++ separator.dropLast) <+: c :: rest := by
        rw [htext, List.cons_append, List.cons_append, List.append_assoc]
        refine List.cons_prefix_cons.mpr ⟨rfl, ?_⟩
        rw [List.prefix_append_right_inj]
        exact (List.dropLast_prefix separator).trans (List.prefix_append _ _)
      exact List.isPrefixOf_iff_prefix.mpr (hearly.trans hprefix)

/-- A text is cut where the separator stands first and nowhere else. -/
theorem cut_eq_some_iff {separator text before after : List Char} (hne : separator ≠ []) :
    cut separator text = some (before, after) ↔
      text = before ++ separator ++ after ∧ ¬separator <:+: before ++ separator.dropLast := by
  refine ⟨fun h => ⟨eq_append_of_cut h, not_infix_of_cut hne h⟩, ?_⟩
  rintro ⟨rfl, hfirst⟩
  exact cut_append hfirst after

/-- A text is not cut at a character that it lacks. -/
theorem cut_singleton_of_not_mem {c : Char} {text : List Char} (h : c ∉ text) :
    cut [c] text = none :=
  cut_of_not_infix fun hstands => h (hstands.subset List.mem_cons_self)

/-- A text is cut at the first occurrence of a character. -/
theorem cut_singleton_append {c : Char} {before : List Char} (h : c ∉ before)
    (after : List Char) : cut [c] (before ++ c :: after) = some (before, after) := by
  rw [List.append_cons]
  apply cut_append
  rw [List.dropLast_singleton, List.append_nil]
  exact fun hstands => h (hstands.subset List.mem_cons_self)

/-- A text is cut at the first occurrence of a character and nowhere else. -/
theorem cut_singleton_eq_some_iff {c : Char} {text before after : List Char} :
    cut [c] text = some (before, after) ↔ text = before ++ c :: after ∧ c ∉ before := by
  rw [cut_eq_some_iff (List.cons_ne_nil c []), List.dropLast_singleton, List.append_nil,
    List.singleton_infix_iff, List.append_assoc, List.singleton_append]

end CopysetWatch.Text
