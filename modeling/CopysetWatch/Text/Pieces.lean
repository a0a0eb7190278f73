import CopysetWatch.Text.Blank

/-!
# Cutting a text apart

A text is cut into pieces at every separating character, into words at its blanks, or in two at
the first occurrence of a separator. Joining the pieces with the separators gives the text back.
-/

namespace CopysetWatch.Text

/-- The stretches between the characters that separate; there is always one more stretch than
there are separators, and a stretch may be empty. -/
def pieces (separates : Char → Bool) : List Char → List (List Char)
  | [] => [[]]
  | c :: rest =>
    if separates c then [] :: pieces separates rest
    else match pieces separates rest with
      | [] => [[c]]
      | piece :: others => (c :: piece) :: others

/-- The blank-free words of a text, in order. -/
def words (text : List Char) : List (List Char) :=
  (pieces isBlank text).filter fun piece => !piece.isEmpty

/-- The lines of a text, trimmed, without those that hold nothing. -/
def trimmedLines (text : List Char) : List (List Char) :=
  ((pieces (· == '\n') text).map trim).filter fun line => !line.isEmpty

/-- What stands before and after the first occurrence of a separator. -/
def cut (separator : List Char) : List Char → Option (List Char × List Char)
  | [] => if separator.isEmpty then some ([], []) else none
  | c :: rest =>
    if separator.isPrefixOf (c :: rest) then some ([], (c :: rest).drop separator.length)
    else (cut separator rest).map fun (before, after) => (c :: before, after)

/-- Whether a text contains another one as a stretch. -/
def mentions (stretch : List Char) : List Char → Bool
  | [] => stretch.isEmpty
  | c :: rest => stretch.isPrefixOf (c :: rest) || mentions stretch rest

/-- The text without the run of one character at its end. -/
def dropTrailing (c : Char) (text : List Char) : List Char :=
  (text.reverse.dropWhile (· == c)).reverse

theorem pieces_ne_nil (separates : Char → Bool) (text : List Char) :
    pieces separates text ≠ [] := by
  induction text with
  | nil => simp [pieces]
  | cons c rest ih =>
    simp only [pieces]
    split
    · simp
    · split <;> simp

/-- A cut loses nothing: the two parts around the separator are the text. -/
theorem eq_append_of_cut {separator text before after : List Char}
    (h : cut separator text = some (before, after)) : text = before ++ separator ++ after := by
  induction text generalizing before with
  | nil =>
    simp only [cut] at h
    split at h <;> simp_all
  | cons c rest ih =>
    simp only [cut] at h
    split at h
    case isTrue hprefix =>
      obtain ⟨tail, htail⟩ := List.isPrefixOf_iff_prefix.mp hprefix
      simp only [Option.some.injEq, Prod.mk.injEq] at h
      obtain ⟨rfl, rfl⟩ := h
      simp [← htail]
    case isFalse =>
      obtain ⟨⟨front, back⟩, hrest, hpair⟩ := Option.map_eq_some_iff.mp h
      simp only [Prod.mk.injEq] at hpair
      obtain ⟨rfl, rfl⟩ := hpair
      simp [ih hrest]

end CopysetWatch.Text
