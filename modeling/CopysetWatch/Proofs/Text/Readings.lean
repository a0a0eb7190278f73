import CopysetWatch.Proofs.Text.Numerals

/-!
# What is read as a numeral

A text writes a number with one or more digits, and may put a plus sign in front of them. Reading
accepts exactly the texts that write a number below the limit, and finds this number: a wrong
character never passes, and no value is cut to size.
-/

namespace CopysetWatch.Text

/-- One or more digits with a value. -/
structure IsDigits (n : Nat) (digits : List Char) : Prop where
  ne_nil : digits ≠ []
  isDigit : ∀ c ∈ digits, c.isDigit
  value : digitsValue digits = n

instance (n : Nat) (digits : List Char) : Decidable (IsDigits n digits) :=
  decidable_of_iff (digits ≠ [] ∧ digits.all Char.isDigit ∧ digitsValue digits = n)
    ⟨fun h => ⟨h.1, List.all_eq_true.mp h.2.1, h.2.2⟩,
      fun h => ⟨h.ne_nil, List.all_eq_true.mpr h.isDigit, h.value⟩⟩

/-- A text that writes a number, with a plus sign or without. -/
def IsNumeral (n : Nat) (text : List Char) : Prop :=
  IsDigits n text ∨ text.head? = some '+' ∧ IsDigits n text.tail

instance (n : Nat) (text : List Char) : Decidable (IsNumeral n text) :=
  inferInstanceAs (Decidable (_ ∨ _ ∧ _))

/-- Digits do not begin with a plus sign. -/
theorem IsDigits.head?_ne {n : Nat} {digits : List Char} (h : IsDigits n digits) :
    digits.head? ≠ some '+' := by
  intro hplus
  have hdigit := h.isDigit '+' (List.mem_of_mem_head? hplus)
  exact absurd hdigit (by decide)

/-- Behind digits that were read already, exactly digits are read, as long as the value stays below
the limit. -/
theorem readDigits_eq_ok_iff {limit value n : Nat} {text : List Char} (hvalue : value < limit) :
    readDigits limit value text = .ok n ↔
      (∀ c ∈ text, c.isDigit) ∧ Nat.ofDigitChars 10 text value = n ∧ n < limit := by
  constructor
  · intro h
    suffices hread : (∀ c ∈ text, c.isDigit) ∧ Nat.ofDigitChars 10 text value = n from
      ⟨hread.1, hread.2, readDigits_lt hvalue h⟩
    induction text generalizing value with
    | nil => exact ⟨by simp, Except.ok.inj h⟩
    | cons c rest ih =>
      rw [readDigits] at h
      split at h
      case isFalse => cases h
      case isTrue hdigit =>
        split at h
        case isFalse => cases h
        case isTrue hbelow =>
          obtain ⟨hrest, hsum⟩ := ih hbelow h
          rw [Nat.ofDigitChars_cons]
          exact ⟨List.forall_mem_cons.mpr ⟨hdigit, hrest⟩, hsum⟩
  · rintro ⟨hdigits, rfl, hlimit⟩
    exact readDigits_eq_ok hdigits hlimit

/-- Without a sign, a text is read from its first character on. -/
theorem readNumeral_of_head?_ne {limit : Nat} {text : List Char} (hne : text ≠ [])
    (hsign : text.head? ≠ some '+') : readNumeral limit text = readDigits limit 0 text := by
  unfold readNumeral
  split
  case h_1 => exact absurd rfl hne
  case h_2 => exact absurd rfl hsign
  case h_3 => exact absurd rfl hsign
  case h_4 => rfl

/-- A sign is passed over if something follows it. -/
theorem readNumeral_cons_plus {limit : Nat} {rest : List Char} (hne : rest ≠ []) :
    readNumeral limit ('+' :: rest) = readDigits limit 0 rest := by
  unfold readNumeral
  split
  case h_1 heq => cases heq
  case h_2 heq => exact absurd (List.cons.inj heq).2 hne
  case h_3 heq => rw [(List.cons.inj heq).2]
  case h_4 hnot => exact absurd rfl (hnot rest)

/-- From their beginning, exactly digits are read. -/
theorem readDigits_zero_eq_ok_iff {limit n : Nat} (hlimit : 0 < limit) {text : List Char}
    (hne : text ≠ []) : readDigits limit 0 text = .ok n ↔ IsDigits n text ∧ n < limit := by
  rw [readDigits_eq_ok_iff hlimit]
  constructor
  · rintro ⟨hdigits, hvalue, hbelow⟩
    exact ⟨⟨hne, hdigits, hvalue⟩, hbelow⟩
  · rintro ⟨hdigits, hbelow⟩
    exact ⟨hdigits.isDigit, hdigits.value, hbelow⟩

/-- A text is read as a number exactly if it writes this number and the number is below the
limit. -/
theorem readNumeral_eq_ok_iff {limit n : Nat} (hlimit : 0 < limit) {text : List Char} :
    readNumeral limit text = .ok n ↔ IsNumeral n text ∧ n < limit := by
  by_cases hsign : text.head? = some '+'
  case pos =>
    obtain ⟨rest, rfl⟩ := List.head?_eq_some_iff.mp hsign
    have hnumeral : IsNumeral n ('+' :: rest) ↔ IsDigits n rest :=
      ⟨fun h => (h.resolve_left fun hdigits => hdigits.head?_ne rfl).2, fun h => .inr ⟨rfl, h⟩⟩
    rw [hnumeral]
    by_cases hne : rest = []
    · subst hne
      exact ⟨fun h => (nomatch h), fun h => absurd rfl h.1.ne_nil⟩
    · rw [readNumeral_cons_plus hne, readDigits_zero_eq_ok_iff hlimit hne]
  case neg =>
    have hnumeral : IsNumeral n text ↔ IsDigits n text :=
      ⟨fun h => h.resolve_right fun hplus => hsign hplus.1, .inl⟩
    rw [hnumeral]
    by_cases hne : text = []
    · subst hne
      exact ⟨fun h => (nomatch h), fun h => absurd rfl h.1.ne_nil⟩
    · rw [readNumeral_of_head?_ne hne hsign, readDigits_zero_eq_ok_iff hlimit hne]

/-- A text is read as a number of 64 bits exactly if it writes this number. -/
theorem readUInt64_eq_ok_iff {n : UInt64} {text : List Char} :
    readUInt64 text = .ok n ↔ IsNumeral n.toNat text := by
  have hread : readNumeral UInt64.size text = .ok n.toNat ↔ IsNumeral n.toNat text := by
    rw [readNumeral_eq_ok_iff (by decide)]
    exact and_iff_left n.toNat_lt
  rw [← hread, readUInt64]
  constructor
  · intro h
    cases hvalue : readNumeral UInt64.size text with
    | error f => rw [hvalue] at h; cases h
    | ok value =>
      rw [hvalue] at h
      have hbelow : value < UInt64.size := readNumeral_lt (by decide) hvalue
      rw [← Except.ok.inj h, UInt64.toNat_ofNat_of_lt' hbelow]
  · intro h
    rw [h]
    exact congrArg Except.ok n.ofNat_toNat

end CopysetWatch.Text
