/-!
# Unsigned numerals

A numeral is an optional plus sign and at least one digit of the ASCII range; leading zeros are
allowed and a minus sign never is. Its value must stay below a limit, and reading stops at the
first character that makes the numeral wrong or its value too large.
-/

namespace CopysetWatch.Text

/-- Why a text is not a numeral below the limit. -/
inductive NumeralFault where
  | empty
  | invalidDigit
  | tooLarge
  deriving DecidableEq, Repr

/-- The wording of a numeral's fault. -/
def NumeralFault.message : NumeralFault → String
  | .empty => "cannot parse integer from empty string"
  | .invalidDigit => "invalid digit found in string"
  | .tooLarge => "number too large to fit in target type"

/-- The value of a digit of the ASCII range. -/
def digitValue (c : Char) : Nat :=
  c.toNat - 48

/-- The value of a run of digits, whatever its size. -/
def digitsValue (digits : List Char) : Nat :=
  digits.foldl (fun value c => 10 * value + digitValue c) 0

/-- The value of a run of digits after those already read. -/
def readDigits (limit : Nat) (value : Nat) : List Char → Except NumeralFault Nat
  | [] => .ok value
  | c :: rest =>
    if c.isDigit then
      if 10 * value + digitValue c < limit then
        readDigits limit (10 * value + digitValue c) rest
      else .error .tooLarge
    else .error .invalidDigit

/-- The value of an unsigned numeral below the limit. -/
def readNumeral (limit : Nat) : List Char → Except NumeralFault Nat
  | [] => .error .empty
  | ['+'] => .error .invalidDigit
  | '+' :: rest => readDigits limit 0 rest
  | text => readDigits limit 0 text

theorem readDigits_lt {limit value result : Nat} {text : List Char} (hvalue : value < limit)
    (h : readDigits limit value text = .ok result) : result < limit := by
  induction text generalizing value with
  | nil =>
    simp only [readDigits, Except.ok.injEq] at h
    omega
  | cons c rest ih =>
    simp only [readDigits] at h
    split at h
    · split at h
      · exact ih (by assumption) h
      · cases h
    · cases h

/-- A numeral that is accepted stays below the limit. -/
theorem readNumeral_lt {limit value : Nat} {text : List Char} (hlimit : 0 < limit)
    (h : readNumeral limit text = .ok value) : value < limit := by
  unfold readNumeral at h
  split at h
  · cases h
  · cases h
  · exact readDigits_lt hlimit h
  · exact readDigits_lt hlimit h

/-- The value of a numeral that fits 64 bits. -/
def readUInt64 (text : List Char) : Except NumeralFault UInt64 :=
  (readNumeral UInt64.size text).map UInt64.ofNat

end CopysetWatch.Text
