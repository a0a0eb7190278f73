import CopysetWatch.Json.Strings
import Mathlib.Data.Char

/-!
# Strings that are written

Every character of a text is read back from what it is written as, whether this is the character
itself, a letter behind a backslash or an escaped number. So a text between quotation marks is read
back, and what stands behind it is left.
-/

namespace CopysetWatch.Json

/-- The digits of hexadecimal numbers are read back. -/
theorem hexValue?_digitChar : ∀ d < 16, hexValue? (Nat.digitChar d) = some d := by
  decide

/-- An escaped number below 32 is that character. -/
theorem hexWord?_control {c : Char} (h : c.toNat < 0x20) :
    hexWord? '0' '0' (Nat.digitChar (c.toNat / 16)) (Nat.digitChar (c.toNat % 16)) =
      some c.toNat := by
  have hzero : hexValue? '0' = some 0 := rfl
  have hhigh := hexValue?_digitChar (c.toNat / 16) (by omega)
  have hlow := hexValue?_digitChar (c.toNat % 16) (by omega)
  have hvalue : 4096 * 0 + 256 * 0 + 16 * (c.toNat / 16) + c.toNat % 16 = c.toNat := by omega
  simp only [hexWord?, hzero, hhigh, hlow, Option.bind_eq_bind, Option.bind_some, Option.pure_def,
    hvalue]

/-- The element of a number below 32 is the character of this number. -/
theorem Element.ofWord_control {c : Char} (h : c.toNat < 0x20) :
    Element.ofWord c.toNat = .char c := by
  rw [Element.ofWord, if_neg (by omega), Char.ofNat_toNat]

/-- An escaped number is read as its element. -/
theorem readElements_word {a b c d : Char} {n : Nat} (h : hexWord? a b c d = some n)
    (rest : List Char) :
    readElements ('\\' :: 'u' :: a :: b :: c :: d :: rest) =
      (readElements rest).map fun (es, after) => (.ofWord n :: es, after) := by
  rw [readElements, h]

/-- A character that needs no escape is read as it is. -/
theorem readElements_plain {c : Char} (hquote : c ≠ '"') (hslash : c ≠ '\\')
    (hcontrol : ¬c.toNat < 0x20) (rest : List Char) :
    readElements (c :: rest) =
      (readElements rest).map fun (es, after) => (.char c :: es, after) := by
  have htest : ¬(c.toNat < 0x20 ∨ c = '\\') := by simp [hcontrol, hslash]
  rw [readElements, if_neg htest]
  · exact hquote
  · exact fun _ _ _ _ _ h => absurd h hslash
  · exact fun _ _ h => absurd h hslash

/-- The writing of a character is read back. -/
theorem readElements_escapeChar (c : Char) (rest : List Char) :
    readElements (escapeChar c ++ rest) =
      (readElements rest).map fun (es, after) => (.char c :: es, after) := by
  by_cases hnamed : c ∈ ['"', '\\', '\x08', '\x0c', '\n', '\r', '\t']
  · simp only [List.mem_cons, List.not_mem_nil, or_false] at hnamed
    rcases hnamed with rfl | rfl | rfl | rfl | rfl | rfl | rfl <;> rfl
  · simp only [List.mem_cons, List.not_mem_nil, or_false, not_or] at hnamed
    obtain ⟨hquote, hslash, hother⟩ := hnamed
    by_cases hcontrol : c.toNat < 0x20
    · have hescape : escapeChar c =
          ['\\', 'u', '0', '0', Nat.digitChar (c.toNat / 16), Nat.digitChar (c.toNat % 16)] := by
        simp [escapeChar, hquote, hslash, hother, hcontrol]
      rw [hescape]
      refine (readElements_word (hexWord?_control hcontrol) rest).trans ?_
      rw [Element.ofWord_control hcontrol]
    · have hescape : escapeChar c = [c] := by
        simp [escapeChar, hquote, hslash, hother, hcontrol]
      rw [hescape]
      exact readElements_plain hquote hslash hcontrol rest

/-- The writing of a text is read back up to the quotation mark behind it. -/
theorem readElements_flatMap_escapeChar (text rest : List Char) :
    readElements (text.flatMap escapeChar ++ '"' :: rest) =
      some (text.map Element.char, rest) := by
  induction text with
  | nil => rfl
  | cons c text ih =>
    rw [List.flatMap_cons, List.append_assoc, readElements_escapeChar, ih]
    rfl

/-- Characters that all stand for themselves make up their text. -/
theorem joinElements_map_char (text : List Char) :
    joinElements (text.map Element.char) = some text := by
  induction text with
  | nil => rfl
  | cons c text ih =>
    rw [List.map_cons, joinElements, ih]
    rfl

/-- A text between quotation marks is read back. -/
theorem readString_writeString (text : String) (rest : List Char) :
    readString (text.toList.flatMap escapeChar ++ '"' :: rest) = some (some text, rest) := by
  simp only [readString, readElements_flatMap_escapeChar, Option.map_some, joinElements_map_char,
    String.ofList_toList]

end CopysetWatch.Json
