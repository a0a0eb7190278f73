import CopysetWatch.Text.Blank
import Mathlib.Data.List.DropRight

/-!
# Trimmed texts

Trimming takes the blanks off both ends of a text, so it does not matter which blanks these are,
and a text that neither begins nor ends with a blank is left as it is. Phrases are such texts on a
single line, and words are phrases that have no blanks at all.
-/

namespace CopysetWatch.Text

/-- Blanks before a text are trimmed off. -/
theorem trim_append_left {before : List Char} (h : ∀ c ∈ before, isBlank c) (text : List Char) :
    trim (before ++ text) = trim text := by
  rw [trim, trimStart, List.dropWhile_append_of_pos h]
  rfl

/-- Blanks behind a text are trimmed off. -/
theorem trim_append_right {behind : List Char} (h : ∀ c ∈ behind, isBlank c) (text : List Char) :
    trim (text ++ behind) = trim text := by
  have hend (front : List Char) : trimEnd (front ++ behind) = trimEnd front := by
    rw [trimEnd, List.reverse_append, List.dropWhile_append_of_pos (by simpa using h)]
    rfl
  rw [trim, trim, trimStart, trimStart, List.dropWhile_append]
  split
  case isTrue hblank =>
    rw [List.isEmpty_iff.mp hblank, List.dropWhile_eq_nil_iff.mpr h]
  case isFalse => exact hend _

/-- What is dropped off the front of a text is dropped up to a character that stays. -/
theorem not_of_mem_head?_dropWhile {p : Char → Bool} {text : List Char} {c : Char}
    (hc : c ∈ (text.dropWhile p).head?) : ¬p c := by
  have hstop := List.head?_dropWhile_not p text
  rw [Option.mem_def.mp hc] at hstop
  simpa using hstop

/-- What is dropped off the end of a text is dropped down to a character that stays. -/
theorem not_of_mem_getLast?_rdropWhile {p : Char → Bool} {text : List Char} {c : Char}
    (hc : c ∈ (text.rdropWhile p).getLast?) : ¬p c := by
  have hne : text.rdropWhile p ≠ [] := by
    intro hnil
    rw [hnil] at hc
    cases hc
  rw [List.getLast?_eq_some_getLast hne] at hc
  obtain rfl := Option.some.inj hc
  exact List.rdropWhile_last_not p text hne

/-- What is trimmed off a text are blanks. -/
theorem exists_eq_append_trim (text : List Char) :
    ∃ before behind, (∀ c ∈ before, isBlank c) ∧ (∀ c ∈ behind, isBlank c) ∧
      text = before ++ trim text ++ behind := by
  refine ⟨text.takeWhile isBlank, (trimStart text).rtakeWhile isBlank,
    fun c hc => List.mem_takeWhile_imp hc, fun c hc => List.mem_rtakeWhile_imp hc, ?_⟩
  calc text = text.takeWhile isBlank ++ trimStart text := List.takeWhile_append_dropWhile.symm
    _ = text.takeWhile isBlank ++ (trim text ++ (trimStart text).rtakeWhile isBlank) :=
      congrArg _ List.rdropWhile_append_rtakeWhile.symm
    _ = _ := (List.append_assoc _ _ _).symm

/-- Trimming a second time changes nothing. -/
theorem trim_trim (text : List Char) : trim (trim text) = trim text := by
  obtain ⟨before, behind, hbefore, hbehind, htext⟩ := exists_eq_append_trim text
  calc trim (trim text) = trim (before ++ trim text ++ behind) := by
        rw [trim_append_right hbehind, trim_append_left hbefore]
    _ = trim text := by rw [← htext]

/-- A text is trimmed if it has no blanks at its ends. -/
theorem trim_eq_self_iff {text : List Char} :
    trim text = text ↔ (∀ c ∈ text.head?, ¬isBlank c) ∧ ∀ c ∈ text.getLast?, ¬isBlank c := by
  have hstart : trimStart text = text ↔ ∀ c ∈ text.head?, ¬isBlank c := by
    cases text with
    | nil => simp [trimStart]
    | cons c rest => simp [trimStart, List.dropWhile_eq_self_iff]
  have hend : trimEnd text = text ↔ ∀ c ∈ text.getLast?, ¬isBlank c := by
    refine List.rdropWhile_eq_self_iff.trans ?_
    cases text with
    | nil => simp
    | cons c rest => simp [List.getLast?_eq_some_getLast]
  rw [← hstart, ← hend]
  constructor
  · intro htrim
    -- Neither step can make up for what the other one takes away.
    have hsame : trimStart text = text := by
      apply (List.dropWhile_suffix isBlank).eq_of_length_le
      rw [← congrArg List.length htrim]
      exact (List.rdropWhile_prefix isBlank (trimStart text)).length_le
    exact ⟨hsame, by rwa [trim, hsame] at htrim⟩
  · rintro ⟨hsame, hsame'⟩
    rw [trim, hsame, hsame']

/-- A text without blanks is trimmed. -/
theorem trim_of_forall_not_isBlank {text : List Char} (h : ∀ c ∈ text, ¬isBlank c) :
    trim text = text :=
  trim_eq_self_iff.mpr
    ⟨fun c hc => h c (List.mem_of_mem_head? hc), fun c hc => h c (List.mem_of_mem_getLast? hc)⟩

/-- A text that stands on one line, without blanks at its ends. -/
structure IsPhrase (text : String) : Prop where
  trimmed : trim text.toList = text.toList
  oneLine : '\n' ∉ text.toList

instance : DecidablePred IsPhrase := fun text =>
  decidable_of_iff (trim text.toList = text.toList ∧ '\n' ∉ text.toList)
    ⟨fun h => ⟨h.1, h.2⟩, fun h => ⟨h.trimmed, h.oneLine⟩⟩

/-- A text that is not empty and has no blanks. -/
structure IsWord (text : String) : Prop where
  ne_empty : text ≠ ""
  not_isBlank : ∀ c ∈ text.toList, ¬isBlank c

instance : DecidablePred IsWord := fun text =>
  decidable_of_iff (text ≠ "" ∧ text.toList.all fun c => !isBlank c)
    ⟨fun h => ⟨h.1, by simpa using h.2⟩, fun h => ⟨h.ne_empty, by simpa using h.not_isBlank⟩⟩

theorem IsWord.isPhrase {word : String} (h : IsWord word) : IsPhrase word where
  trimmed := trim_of_forall_not_isBlank h.not_isBlank
  oneLine hbreak := h.not_isBlank '\n' hbreak (by decide)

/-- Phrases with anything between them that stands on one line are a phrase. -/
theorem IsPhrase.append {front between back : String} (hfront : IsPhrase front)
    (hback : IsPhrase back) (hfrontne : front ≠ "") (hbackne : back ≠ "")
    (hbetween : '\n' ∉ between.toList) : IsPhrase (front ++ between ++ back) := by
  have hends := trim_eq_self_iff.mp hfront.trimmed
  have hends' := trim_eq_self_iff.mp hback.trimmed
  have hnil : front.toList ≠ [] := by simpa using hfrontne
  have hnil' : back.toList ≠ [] := by simpa using hbackne
  rw [String.append_assoc]
  refine ⟨?_, by simp [hfront.oneLine, hback.oneLine, hbetween]⟩
  rw [trim_eq_self_iff, String.toList_append, String.toList_append,
    List.head?_append_of_ne_nil _ hnil, ← List.append_assoc, List.getLast?_append_of_ne_nil _ hnil']
  exact ⟨hends.1, hends'.2⟩

/-- Words with nothing between them are a word. -/
theorem IsWord.append {front back : String} (hfront : IsWord front) (hback : IsWord back) :
    IsWord (front ++ back) where
  ne_empty hempty := hfront.ne_empty (String.append_eq_empty_iff.mp hempty).1
  not_isBlank c hc := by
    rw [String.toList_append, List.mem_append] at hc
    exact hc.elim (hfront.not_isBlank c) (hback.not_isBlank c)

/-- Blanks on one line; a carriage return is one of them. -/
def IsPadding (text : List Char) : Prop :=
  ∀ c ∈ text, isBlank c ∧ c ≠ '\n'

instance : DecidablePred IsPadding := fun text =>
  decidable_of_iff (text.all fun c => isBlank c && c != '\n') (by simp [IsPadding])

end CopysetWatch.Text
