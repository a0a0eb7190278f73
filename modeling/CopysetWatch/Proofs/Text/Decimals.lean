import CopysetWatch.Proofs.Text.Readings

/-!
# The decimal of a number

Many texts write the same number, with a plus sign or with zeros in front. Just one of them has
digits only and does not begin with a zero that could be left out: the one that is printed.
-/

namespace CopysetWatch.Text

/-- Digits that write a number without a zero in front that could be left out. -/
structure IsDecimal (n : Nat) (digits : List Char) : Prop extends IsDigits n digits where
  shortest : digits.head? = some '0' → digits = ['0']

/-- A digit is written for its value. -/
theorem digitChar_digitValue {c : Char} (h : c.isDigit) : Nat.digitChar (digitValue c) = c := by
  have hrange : 48 ≤ c.toNat ∧ c.toNat ≤ 57 := Char.isDigit_iff_toNat.mp h
  apply Char.toNat_inj.mp
  rw [digitValue, Nat.toNat_digitChar_of_lt_ten (by omega)]
  omega

theorem digitValue_lt {c : Char} (h : c.isDigit) : digitValue c < 10 := by
  have hrange : 48 ≤ c.toNat ∧ c.toNat ≤ 57 := Char.isDigit_iff_toNat.mp h
  rw [digitValue]
  omega

/-- Digits behind the decimal of a positive number continue it. -/
theorem toDigits_append {digits : List Char} (h : ∀ c ∈ digits, c.isDigit) {value : Nat}
    (hvalue : 0 < value) :
    Nat.toDigits 10 value ++ digits = Nat.toDigits 10 (Nat.ofDigitChars 10 digits value) := by
  induction digits generalizing value with
  | nil => rw [List.append_nil, Nat.ofDigitChars_nil]
  | cons c rest ih =>
    rw [List.forall_mem_cons] at h
    have hnext : Nat.toDigits 10 value ++ [c] = Nat.toDigits 10 (10 * value + digitValue c) := by
      rw [← Nat.toDigits_append_toDigits (by decide) hvalue (digitValue_lt h.1),
        Nat.toDigits_of_lt_base (digitValue_lt h.1), digitChar_digitValue h.1]
    rw [List.append_cons, hnext, ih h.2 (by omega), Nat.ofDigitChars_cons]
    rfl

/-- A number is printed as its decimal. -/
theorem isDecimal_repr (n : Nat) : IsDecimal n n.repr.toList where
  ne_nil := by
    obtain ⟨c, digits, hdigits, -⟩ := exists_repr_eq_cons n
    rw [hdigits]
    exact List.cons_ne_nil c digits
  isDigit _ := isDigit_of_mem_repr
  value := digitsValue_repr n
  shortest hzero := by
    rcases Nat.eq_zero_or_pos n with rfl | hpos
    · rfl
    · rw [Nat.toList_repr] at hzero
      exact absurd hzero (head?_toDigits_ne_zero hpos)

/-- A number has one decimal. -/
theorem isDecimal_iff {n : Nat} {digits : List Char} :
    IsDecimal n digits ↔ digits = n.repr.toList := by
  refine ⟨fun h => ?_, fun h => h ▸ isDecimal_repr n⟩
  obtain ⟨c, rest, rfl⟩ := List.exists_cons_of_ne_nil h.ne_nil
  obtain ⟨hc, hrest⟩ := List.forall_mem_cons.mp h.isDigit
  have hvalue : Nat.ofDigitChars 10 rest (digitValue c) = n := by
    rw [← h.value, ← Nat.zero_add (digitValue c)]
    rfl
  by_cases hzero : c = '0'
  case pos =>
    -- A zero in front stands alone, so the number is zero.
    subst hzero
    rw [← hvalue, (List.cons.inj (h.shortest rfl)).2]
    rfl
  case neg =>
    have hpos : 0 < digitValue c := by
      refine Nat.pos_of_ne_zero fun hnothing => hzero ?_
      rw [← digitChar_digitValue hc, hnothing]
      rfl
    have hall := toDigits_append hrest hpos
    rwa [Nat.toDigits_of_lt_base (digitValue_lt hc), digitChar_digitValue hc, hvalue,
      ← Nat.toList_repr] at hall

end CopysetWatch.Text
