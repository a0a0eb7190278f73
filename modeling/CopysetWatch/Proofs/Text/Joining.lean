import CopysetWatch.Proofs.Text.Trimming
import CopysetWatch.Text.Pieces

/-!
# Joined texts

Words that are joined by blanks are found again as the words of the text, and texts that are laid
out over lines are found again as its trimmed lines, whatever the padding and the blank lines. Both
rest on how the pieces of a text fall apart at a separating character.
-/

namespace CopysetWatch.Text

/-- The pieces of a text are what it splits into. -/
theorem pieces_eq_splitOnP (separates : Char → Bool) (text : List Char) :
    pieces separates text = text.splitOnP separates := by
  induction text with
  | nil => rfl
  | cons c rest ih =>
    rw [pieces, List.splitOnP_cons_eq_if_modifyHead, ← ih]
    obtain ⟨piece, others, hpieces⟩ :=
      List.exists_cons_of_ne_nil (pieces_ne_nil separates rest)
    rw [hpieces]
    rfl

/-- No separating character stands in a piece. -/
theorem not_separates_of_mem_pieces {separates : Char → Bool} {text piece : List Char}
    (h : piece ∈ pieces separates text) : ∀ c ∈ piece, ¬separates c := by
  induction text generalizing piece with
  | nil =>
    obtain rfl := List.mem_singleton.mp h
    simp
  | cons c rest ih =>
    rw [pieces] at h
    split at h
    case isTrue =>
      rcases List.mem_cons.mp h with rfl | h
      · simp
      · exact ih h
    case isFalse hc =>
      obtain ⟨first, others, hpieces⟩ := List.exists_cons_of_ne_nil (pieces_ne_nil separates rest)
      rw [hpieces, List.mem_cons] at h
      rw [hpieces] at ih
      rcases h with rfl | h
      · exact List.forall_mem_cons.mpr ⟨hc, ih List.mem_cons_self⟩
      · exact ih (List.mem_cons_of_mem _ h)

/-- Stretches with a character between them, which stands in none of them. -/
structure IsSeparated (c : Char) (parts : List (List Char)) (text : List Char) : Prop where
  ne_nil : parts ≠ []
  joined : [c].intercalate parts = text
  not_mem : ∀ part ∈ parts, c ∉ part

/-- The pieces of a text are the stretches between the separating characters. -/
theorem pieces_eq_iff {c : Char} {parts : List (List Char)} {text : List Char} :
    pieces (· == c) text = parts ↔ IsSeparated c parts text := by
  have hsplit : pieces (· == c) text = text.splitOn c := by
    rw [pieces_eq_splitOnP, ← List.splitOn_eq_splitOnP]
  constructor
  · rintro rfl
    refine ⟨pieces_ne_nil _ text, by rw [hsplit, List.intercalate_splitOn], fun part hpart hc => ?_⟩
    exact not_separates_of_mem_pieces hpart c hc (beq_self_eq_true c)
  · rintro ⟨hne, rfl, hnot⟩
    rw [hsplit, List.splitOn_intercalate c hnot hne]

/-- A text falls into words at every blank. -/
theorem words_append_cons {c : Char} (hc : isBlank c) (before after : List Char) :
    words (before ++ c :: after) = words before ++ words after := by
  rw [words, pieces_eq_splitOnP, List.splitOnP_append_cons before after hc, List.filter_append,
    ← pieces_eq_splitOnP, ← pieces_eq_splitOnP]
  rfl

/-- A word has no other words. -/
theorem words_of_isWord {word : String} (h : IsWord word) : words word.toList = [word.toList] := by
  rw [words, pieces_eq_splitOnP,
    List.splitOnP_eq_singleton fun c hc => Bool.eq_false_iff.mpr (h.not_isBlank c hc)]
  simpa using h.ne_empty

/-- Words that are joined by blanks are the words of the text. -/
theorem words_intercalate {ws : List String} (h : ∀ word ∈ ws, IsWord word) :
    words (" ".intercalate ws).toList = ws.map String.toList := by
  induction ws with
  | nil => rfl
  | cons word rest ih =>
    rw [List.forall_mem_cons] at h
    cases rest with
    | nil => rw [String.intercalate_singleton, words_of_isWord h.1]; rfl
    | cons next rest =>
      rw [String.intercalate_cons_cons, String.append_assoc, String.toList_append,
        String.toList_append]
      change words (word.toList ++ ' ' :: (" ".intercalate (next :: rest)).toList) = _
      rw [words_append_cons (by decide), words_of_isWord h.1, ih h.2]
      rfl

/-- Words that are joined by blanks are a phrase. -/
theorem isPhrase_intercalate {ws : List String} (h : ∀ word ∈ ws, IsWord word) :
    IsPhrase (" ".intercalate ws) := by
  induction ws with
  | nil => exact ⟨rfl, by simp⟩
  | cons word rest ih =>
    rw [List.forall_mem_cons] at h
    cases rest with
    | nil =>
      rw [String.intercalate_singleton]
      exact h.1.isPhrase
    | cons next rest =>
      rw [String.intercalate_cons_cons]
      apply h.1.isPhrase.append (ih h.2) h.1.ne_empty _ (by decide)
      intro hempty
      have hwords := words_intercalate h.2
      rw [hempty] at hwords
      cases hwords

/-- The lines of a text that ends with a line break go before those of what follows. -/
theorem trimmedLines_append {before : List Char} (h : before = [] ∨ before.getLast? = some '\n')
    (after : List Char) :
    trimmedLines (before ++ after) = trimmedLines before ++ trimmedLines after := by
  rcases h with rfl | hbreak
  · rfl
  · obtain ⟨front, rfl⟩ := List.getLast?_eq_some_iff.mp hbreak
    have hsplit (rest : List Char) :
        trimmedLines (front ++ '\n' :: rest) = trimmedLines front ++ trimmedLines rest := by
      rw [trimmedLines, pieces_eq_splitOnP, List.splitOnP_append_cons front rest (by decide),
        List.map_append, List.filter_append, ← pieces_eq_splitOnP, ← pieces_eq_splitOnP]
      rfl
    have hlast : trimmedLines (front ++ ['\n']) = trimmedLines front := by
      rw [hsplit]
      exact List.append_nil _
    rw [hlast, List.append_assoc, List.singleton_append, hsplit]

/-- Texts as they are laid out over lines: each stands on a line of its own with padding around it,
and there are blank lines between them. -/
inductive LaidOut : List String → List (List Char) → Prop
  | nil : LaidOut [] []
  | blank {texts : List String} {lines : List (List Char)} {padding : List Char}
      (hpadding : IsPadding padding) (h : LaidOut texts lines) : LaidOut texts (padding :: lines)
  | text {texts : List String} {lines : List (List Char)} {text : String}
      {before behind : List Char} (hbefore : IsPadding before) (hbehind : IsPadding behind)
      (h : LaidOut texts lines) :
      LaidOut (text :: texts) ((before ++ text.toList ++ behind) :: lines)

namespace LaidOut

variable {texts : List String} {lines : List (List Char)}

/-- Texts are laid out by putting the same padding around each, such as a carriage return behind. -/
theorem map_padding {before behind : List Char} (hbefore : IsPadding before)
    (hbehind : IsPadding behind) (texts : List String) :
    LaidOut texts (texts.map fun text => before ++ text.toList ++ behind) := by
  induction texts with
  | nil => exact .nil
  | cons text rest ih => exact .text hbefore hbehind ih

/-- If the texts have no line breaks, the lines have none either. -/
theorem not_mem (h : LaidOut texts lines) (hone : ∀ text ∈ texts, '\n' ∉ text.toList) :
    ∀ line ∈ lines, '\n' ∉ line := by
  induction h with
  | nil => simp
  | blank hpadding h ih =>
    exact List.forall_mem_cons.mpr ⟨fun hbreak => (hpadding _ hbreak).2 rfl, ih hone⟩
  | text hbefore hbehind h ih =>
    rw [List.forall_mem_cons] at hone ⊢
    refine ⟨?_, ih hone.2⟩
    rw [List.mem_append, List.mem_append]
    rintro ((hbreak | hbreak) | hbreak)
    · exact (hbefore _ hbreak).2 rfl
    · exact hone.1 hbreak
    · exact (hbehind _ hbreak).2 rfl

/-- Trimming takes the padding off, and what is left of the blank lines is nothing. -/
theorem filter_map_trim (h : LaidOut texts lines)
    (hshown : ∀ text ∈ texts, trim text.toList ≠ []) :
    ((lines.map trim).filter fun line => !line.isEmpty) =
      texts.map fun text => trim text.toList := by
  induction h with
  | nil => rfl
  | blank hpadding h ih =>
    have hnothing := trim_append_right (fun c hc => (hpadding c hc).1) []
    rw [List.nil_append] at hnothing
    rw [List.map_cons, hnothing]
    exact ih hshown
  | text hbefore hbehind h ih =>
    rw [List.forall_mem_cons] at hshown
    rw [List.map_cons, trim_append_right fun c hc => (hbehind c hc).1,
      trim_append_left fun c hc => (hbefore c hc).1, List.map_cons,
      List.filter_cons_of_pos (by simpa using hshown.1), ih hshown.2]

/-- The trimmed lines of a page are the texts that are laid out on it. -/
theorem trimmedLines (h : LaidOut texts lines) (hone : ∀ text ∈ texts, '\n' ∉ text.toList)
    (hshown : ∀ text ∈ texts, trim text.toList ≠ []) :
    Text.trimmedLines (['\n'].intercalate lines) = texts.map fun text => trim text.toList := by
  rw [← h.filter_map_trim hshown, Text.trimmedLines, pieces_eq_splitOnP]
  cases lines with
  | nil => rfl
  | cons line rest =>
    rw [← List.splitOn_eq_splitOnP, List.splitOn_intercalate '\n' (h.not_mem hone) (by simp)]

end LaidOut

end CopysetWatch.Text
