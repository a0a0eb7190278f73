import CopysetWatch.Proofs.Text.Trimming
import CopysetWatch.Text.Numeral

/-!
# Numerals of numbers

The decimal numeral of a number consists of digits, so it is a word. Reading it gives the number
back, unless this reaches the limit: the value of a numeral never falls while it is read.
-/

namespace CopysetWatch.Text

/-- A digit is not a blank. -/
theorem not_isBlank_of_isDigit {c : Char} (h : c.isDigit) : ¬isBlank c := by
  have hrange : 48 ≤ c.toNat ∧ c.toNat ≤ 57 := Char.isDigit_iff_toNat.mp h
  simp only [isBlank, Bool.or_eq_true, Bool.and_eq_true, decide_eq_true_eq, beq_iff_eq]
  omega

/-- A numeral consists of digits. -/
theorem isDigit_of_mem_repr {n : Nat} {c : Char} (hc : c ∈ n.repr.toList) : c.isDigit := by
  rw [Nat.toList_repr] at hc
  exact Nat.isDigit_of_mem_toDigits (by decide) (by decide) hc

/-- A numeral is a word. -/
theorem isWord_repr (n : Nat) : IsWord n.repr where
  ne_empty := Nat.repr_ne_empty
  not_isBlank _ hc := not_isBlank_of_isDigit (isDigit_of_mem_repr hc)

/-- The value does not fall while digits are read. -/
theorem le_ofDigitChars (digits : List Char) (value : Nat) :
    value ≤ Nat.ofDigitChars 10 digits value := by
  have hpos : 0 < 10 ^ digits.length := Nat.pow_pos (by decide)
  calc value ≤ 10 ^ digits.length * value := Nat.le_mul_of_pos_left value hpos
    _ ≤ Nat.ofDigitChars 10 digits value := by
      rw [Nat.ofDigitChars_eq_ofDigitChars_zero]
      exact Nat.le_add_right _ _

/-- Digits whose value is below the limit are read without fault. -/
theorem readDigits_eq_ok {limit value : Nat} {digits : List Char}
    (hdigits : ∀ c ∈ digits, c.isDigit) (hlimit : Nat.ofDigitChars 10 digits value < limit) :
    readDigits limit value digits = .ok (Nat.ofDigitChars 10 digits value) := by
  induction digits generalizing value with
  | nil =>
    rw [Nat.ofDigitChars_nil]
    rfl
  | cons c rest ih =>
    rw [List.forall_mem_cons] at hdigits
    rw [Nat.ofDigitChars_cons] at hlimit ⊢
    have hvalue : 10 * value + digitValue c < limit :=
      Nat.lt_of_le_of_lt (le_ofDigitChars rest _) hlimit
    rw [readDigits, if_pos hdigits.1, if_pos hvalue]
    exact ih hdigits.2 hlimit

/-- The numeral of a number below the limit is read as this number. -/
theorem readNumeral_repr {limit n : Nat} (h : n < limit) :
    readNumeral limit n.repr.toList = .ok n := by
  have hread : readDigits limit 0 n.repr.toList = .ok n := by
    have hvalue : Nat.ofDigitChars 10 n.repr.toList 0 = n := by
      rw [Nat.toList_repr, Nat.ofDigitChars_ten_toDigits]
    rw [readDigits_eq_ok (fun _ => isDigit_of_mem_repr) (by rwa [hvalue]), hvalue]
  obtain ⟨c, rest, hdigits⟩ := List.exists_cons_of_ne_nil (Nat.toDigits_ne_nil (n := n) (b := 10))
  have hsign : c ≠ '+' := by
    rintro rfl
    have hdigit : '+'.isDigit := isDigit_of_mem_repr (n := n) (by simp [hdigits])
    exact absurd hdigit (by decide)
  rw [Nat.toList_repr, hdigits] at hread ⊢
  unfold readNumeral
  split
  case h_1 heq => cases heq
  case h_2 heq => exact absurd (List.cons.inj heq).1 hsign
  case h_3 heq => exact absurd (List.cons.inj heq).1 hsign
  case h_4 => exact hread

/-- The numeral of a 64-bit number is read as this number. -/
theorem readUInt64_repr (n : UInt64) : readUInt64 n.toNat.repr.toList = .ok n := by
  rw [readUInt64, readNumeral_repr n.toNat_lt]
  exact congrArg Except.ok n.ofNat_toNat

/-- A numeral has the value of its number. -/
theorem digitsValue_repr (n : Nat) : digitsValue n.repr.toList = n := by
  have hvalue : digitsValue n.repr.toList = Nat.ofDigitChars 10 n.repr.toList 0 := rfl
  rw [hvalue, Nat.toList_repr, Nat.ofDigitChars_ten_toDigits]

/-- A numeral begins with a digit. -/
theorem exists_repr_eq_cons (n : Nat) :
    ∃ c digits, n.repr.toList = c :: digits ∧ c.isDigit := by
  have hne : n.repr.toList ≠ [] := by
    rw [Nat.toList_repr]
    exact Nat.toDigits_ne_nil
  obtain ⟨c, digits, hdigits⟩ := List.exists_cons_of_ne_nil hne
  exact ⟨c, digits, hdigits, isDigit_of_mem_repr (n := n) (by simp [hdigits])⟩

/-- Only the numeral of zero begins with a zero. -/
theorem head?_toDigits_ne_zero {n : Nat} (h : 0 < n) : (Nat.toDigits 10 n).head? ≠ some '0' := by
  induction n using Nat.strong_induction_on with
  | _ n ih =>
    rw [Nat.toDigits_eq_if (by decide)]
    split
    case isTrue hlt =>
      have hdigit : ∀ d < 10, 0 < d → [Nat.digitChar d].head? ≠ some '0' := by decide
      exact hdigit n hlt h
    case isFalse hle =>
      have hfront := ih (n / 10) (by omega) (by omega)
      rwa [List.head?_append_of_ne_nil _ Nat.toDigits_ne_nil]

/-- Digits are taken off the front of a text up to a character that is none. -/
theorem takeWhile_isDigit_append {digits rest : List Char} (hdigits : ∀ c ∈ digits, c.isDigit)
    (hrest : ∀ c ∈ rest.head?, ¬c.isDigit) :
    (digits ++ rest).takeWhile Char.isDigit = digits := by
  have hnone : rest.takeWhile Char.isDigit = [] := by
    cases rest with
    | nil => rfl
    | cons c rest => exact List.takeWhile_cons_of_neg (hrest c rfl)
  rw [List.takeWhile_append_of_pos hdigits, hnone, List.append_nil]

theorem dropWhile_isDigit_append {digits rest : List Char} (hdigits : ∀ c ∈ digits, c.isDigit)
    (hrest : ∀ c ∈ rest.head?, ¬c.isDigit) :
    (digits ++ rest).dropWhile Char.isDigit = rest := by
  have hall : rest.dropWhile Char.isDigit = rest := by
    cases rest with
    | nil => rfl
    | cons c rest => exact List.dropWhile_cons_of_neg (hrest c rfl)
  rw [List.dropWhile_append_of_pos hdigits, hall]

end CopysetWatch.Text
