import CopysetWatch.Timestamp
import CopysetWatch.Proofs.Text.Numerals
import Mathlib.Algebra.Group.Nat.Defs

/-!
# Instants that are written

The numbers of an instant are written with as many digits as their place has room for, so each of
them is read back from its place. The instant of a year of four digits is read back as a whole.
What is read is always an instant of the calendar, whatever the offset it was written with.
-/

namespace CopysetWatch.Timestamp

/-- A number that its place has room for is written in just as many digits. -/
theorem length_padded {width n : Nat} (hwidth : 0 < width) (h : n < 10 ^ width) :
    (padded width n).length = width := by
  have hlength : n.repr.toList.length ≤ width := by
    rw [Nat.toList_repr]
    exact (Nat.length_toDigits_le_iff (by decide) hwidth).mpr h
  unfold padded
  rw [List.length_append, List.length_replicate]
  omega

theorem isDigit_of_mem_padded {width n : Nat} {c : Char} (h : c ∈ padded width n) : c.isDigit := by
  obtain h | h := List.mem_append.mp h
  · obtain rfl := List.eq_of_mem_replicate h
    decide
  · exact Text.isDigit_of_mem_repr h

/-- Zeros before a numeral do not change its value. -/
theorem digitsValue_padded (width n : Nat) : Text.digitsValue (padded width n) = n := by
  have hzeros (count : Nat) (digits : List Char) :
      Text.digitsValue (List.replicate count '0' ++ digits) = Text.digitsValue digits := by
    induction count with
    | zero => rfl
    | succ count ih => exact ih
  rw [padded, hzeros, Text.digitsValue_repr]

/-- A padded number begins with a digit. -/
theorem exists_padded_eq_cons (width n : Nat) :
    ∃ c rest, padded width n = c :: rest ∧ c.isDigit := by
  have hne : padded width n ≠ [] := by
    obtain ⟨c, digits, hdigits, -⟩ := Text.exists_repr_eq_cons n
    simp [padded, hdigits]
  obtain ⟨c, rest, hpadded⟩ := List.exists_cons_of_ne_nil hne
  exact ⟨c, rest, hpadded, isDigit_of_mem_padded (hpadded ▸ List.mem_cons_self)⟩

theorem trimStart_of_isDigit {c : Char} (h : c.isDigit) (rest : List Char) :
    Text.trimStart (c :: rest) = c :: rest :=
  List.dropWhile_cons_of_neg (Text.not_isBlank_of_isDigit h)

theorem trimStart_padded (width n : Nat) (rest : List Char) :
    Text.trimStart (padded width n ++ rest) = padded width n ++ rest := by
  obtain ⟨c, digits, hpadded, hdigit⟩ := exists_padded_eq_cons width n
  rw [hpadded]
  exact trimStart_of_isDigit hdigit _

/-- A number is read back from its place. -/
theorem readNumber_padded {width n : Nat} (hwidth : 0 < width) (h : n < 10 ^ width)
    (rest : List Char) : readNumber width (padded width n ++ rest) = some (n, rest) := by
  have hlength := length_padded hwidth h
  have hdigits : ((padded width n ++ rest).take width).takeWhile Char.isDigit = padded width n := by
    rw [List.take_left' hlength]
    exact List.takeWhile_eq_self_iff.mpr fun c => isDigit_of_mem_padded
  have hdrop : (padded width n ++ rest).drop (padded width n).length = rest :=
    List.drop_left
  rw [readNumber, hdigits]
  split
  case h_1 hnil => simp [hnil] at hlength; omega
  case h_2 => rw [digitsValue_padded, hdrop]

/-- A number of two digits is read back. -/
theorem readPair_padded {n : Nat} (h : n < 100) (rest : List Char) :
    readPair (padded 2 n ++ rest) = some (n, rest) := by
  rw [readPair, trimStart_padded]
  exact readNumber_padded (by decide) h rest

/-- A year of four digits is read back. -/
theorem readYear_padded {n : Nat} (h : n < 10000) (rest : List Char) :
    readYear (padded 4 n ++ rest) = some ((n : Int), rest) := by
  have hread := readNumber_padded (show 0 < 4 by decide) h rest
  obtain ⟨c, digits, hpadded, hdigit⟩ := exists_padded_eq_cons 4 n
  rw [readYear, trimStart_padded]
  rw [hpadded, List.cons_append] at hread ⊢
  have hne (d : Char) (hd : ¬d.isDigit) : c ≠ d := fun heq => hd (heq ▸ hdigit)
  split
  case h_1 heq => exact absurd (List.cons.inj heq).1 (hne _ (by decide))
  case h_2 heq => exact absurd (List.cons.inj heq).1 (hne _ (by decide))
  case h_3 => rw [hread]; rfl

/-- A fraction is read back, whether it has three, six or nine digits. -/
theorem readFraction_padded {width n nano : Nat} (hwidth : 0 < width) (hle : width ≤ 9)
    (hn : n < 10 ^ width) (hnano : n * 10 ^ (9 - width) = nano) :
    readFraction ('.' :: padded width n ++ ['Z']) = some (nano, ['Z']) := by
  have hlength := length_padded hwidth hn
  have hall : ∀ c ∈ padded width n, c.isDigit := fun _ => isDigit_of_mem_padded
  have hend : ∀ c ∈ (['Z'] : List Char).head?, ¬c.isDigit := by simp
  have htake : ((padded width n ++ ['Z']).take 9).takeWhile Char.isDigit = padded width n := by
    rw [List.take_append, List.take_of_length_le (by omega)]
    refine Text.takeWhile_isDigit_append hall fun c hc => ?_
    obtain rfl := List.mem_singleton.mp (List.mem_of_mem_take (List.mem_of_mem_head? hc))
    decide
  have hdrop := Text.dropWhile_isDigit_append hall hend
  rw [List.cons_append, readFraction]
  simp only [htake, hdrop]
  split
  case h_1 hnil =>
    rw [hnil] at hlength
    exact absurd hlength (Nat.ne_of_lt hwidth)
  case h_2 =>
    rw [digitsValue_padded, hlength]
    exact congrArg (fun n => some (n, ['Z'])) hnano

theorem readFraction_fractionText {nano : Nat} (h : nano < 1000000000) :
    readFraction (fractionText nano ++ ['Z']) = some (nano, ['Z']) := by
  unfold fractionText
  split
  case isTrue hzero => rw [hzero]; rfl
  split
  case isTrue hmillis => exact readFraction_padded (by decide) (by decide) (by omega) (by omega)
  split
  case isTrue hmicros => exact readFraction_padded (by decide) (by decide) (by omega) (by omega)
  case isFalse => exact readFraction_padded (by decide) (by decide) h (by omega)

theorem isValid_iff {t : Timestamp} : t.isValid ↔
    isYear t.year ∧ 1 ≤ t.month ∧ t.month ≤ 12 ∧ 1 ≤ t.day ∧ t.day ≤ daysIn t.year t.month ∧
      t.hour < 24 ∧ t.minute < 60 ∧ t.second ≤ 60 ∧ t.nano < 1000000000 := by
  simp [isValid, and_assoc]

/-- The local time of no offset is the instant itself. -/
theorem ofLocal_zero {t : Timestamp} (hhour : t.hour < 24) (hminute : t.minute < 60) :
    t.ofLocal 0 = t := by
  have hminutes : ((60 * t.hour + t.minute : Nat) : Int) - 0 = (60 * t.hour + t.minute : Nat) := by
    omega
  have hwithin : (((60 * t.hour + t.minute : Nat) : Int) % 1440).toNat =
      60 * t.hour + t.minute := by
    omega
  have hdiv : (60 * t.hour + t.minute) / 60 = t.hour := by omega
  have hmod : (60 * t.hour + t.minute) % 60 = t.minute := by omega
  simp only [ofLocal, hminutes, hwithin, hdiv, hmod]
  rw [if_neg (by omega), if_neg (by omega)]

theorem le_daysIn (year : Int) (month : Nat) : 28 ≤ daysIn year month := by
  unfold daysIn
  grind

theorem daysIn_le (year : Int) (month : Nat) : daysIn year month ≤ 31 := by
  unfold daysIn
  grind

theorem skipMark_cons {mark : Char} (h : Text.isBlank mark = false) (rest : List Char) :
    skipMark mark (mark :: rest) = some rest := by
  have htrim : Text.trimStart (mark :: rest) = mark :: rest :=
    List.dropWhile_cons_of_neg (by simp [h])
  rw [skipMark, htrim]
  exact if_pos rfl

/-- An instant of the calendar whose year has at most four digits and no sign. -/
structure IsOrdinary (t : Timestamp) : Prop where
  valid : t.isValid
  nonneg : 0 ≤ t.year
  le : t.year ≤ 9999

/-- **An instant of a year of four digits is read back from its text.** -/
theorem IsOrdinary.parse_text {t : Timestamp} (h : t.IsOrdinary) : parse t.text = some t := by
  obtain ⟨hvalid, hfrom, hto⟩ := h
  obtain ⟨year, month, day, hour, minute, second, nano⟩ := t
  dsimp only at hfrom hto
  obtain ⟨n, rfl⟩ := Int.eq_ofNat_of_zero_le hfrom
  have hyear : yearText (n : Int) = padded 4 n := by
    rw [yearText, if_neg (by omega), if_neg (by omega)]
    rfl
  obtain ⟨hinYears, -, hmonth, -, hday, hhour, hminute, hsecond, hnano⟩ := isValid_iff.mp hvalid
  dsimp only at hmonth hday hhour hminute hsecond hnano
  have hday31 := daysIn_le n month
  have hyear10000 : n < 10000 := by omega
  have hmonth100 : month < 100 := by omega
  have hday100 : day < 100 := by omega
  have hhour100 : hour < 100 := by omega
  have hminute100 : minute < 100 := by omega
  have hsecond100 : second < 100 := by omega
  have hdash := fun rest => skipMark_cons (show Text.isBlank '-' = false by decide) rest
  have hcolon := fun rest => skipMark_cons (show Text.isBlank ':' = false by decide) rest
  have hseparator (rest : List Char) : skipSeparator ('T' :: rest) = some rest := rfl
  have hoffset : readOffset (Text.trimStart ['Z']) = some (0, []) := rfl
  have hclock :
      (⟨n, month, day, hour, minute, second, nano⟩ : Timestamp).ofLocal 0 =
        ⟨n, month, day, hour, minute, second, nano⟩ := ofLocal_zero hhour hminute
  rw [parse, text, String.toList_ofList, hyear]
  simp only [List.append_assoc, List.cons_append]
  -- The parts of the text are read one by one, in the order in which they were written.
  refine Option.bind_eq_some_iff.mpr ⟨_, readYear_padded hyear10000 _, ?_⟩
  refine Option.bind_eq_some_iff.mpr ⟨_, hdash _, ?_⟩
  refine Option.bind_eq_some_iff.mpr ⟨_, readPair_padded hmonth100 _, ?_⟩
  refine Option.bind_eq_some_iff.mpr ⟨_, hdash _, ?_⟩
  refine Option.bind_eq_some_iff.mpr ⟨_, readPair_padded hday100 _, ?_⟩
  refine Option.bind_eq_some_iff.mpr ⟨_, hseparator _, ?_⟩
  refine Option.bind_eq_some_iff.mpr ⟨_, readPair_padded hhour100 _, ?_⟩
  refine Option.bind_eq_some_iff.mpr ⟨_, hcolon _, ?_⟩
  refine Option.bind_eq_some_iff.mpr ⟨_, readPair_padded hminute100 _, ?_⟩
  refine Option.bind_eq_some_iff.mpr ⟨_, hcolon _, ?_⟩
  refine Option.bind_eq_some_iff.mpr ⟨_, readPair_padded hsecond100 _, ?_⟩
  refine Option.bind_eq_some_iff.mpr ⟨_, readFraction_fractionText hnano, ?_⟩
  refine Option.bind_eq_some_iff.mpr ⟨_, hoffset, ?_⟩
  dsimp only
  rw [hclock, hvalid, hinYears]
  rfl

/-! ### What is read is an instant -/

/-- The next day is one of the calendar, if its year is. -/
theorem isValid_nextDay {t : Timestamp} (h : t.isValid) (hyear : isYear t.nextDay.year) :
    t.nextDay.isValid := by
  rw [isValid_iff] at h ⊢
  refine ⟨hyear, ?_⟩
  have hfirst := le_daysIn
  unfold nextDay
  grind

/-- The day before is one of the calendar, if its year is. -/
theorem isValid_previousDay {t : Timestamp} (h : t.isValid) (hyear : isYear t.previousDay.year) :
    t.previousDay.isValid := by
  rw [isValid_iff] at h ⊢
  refine ⟨hyear, ?_⟩
  have hlast := le_daysIn t.year
  have hdecember : daysIn (t.year - 1) 12 = 31 := rfl
  unfold previousDay
  grind

/-- On a day of the calendar, every time of day is an instant. -/
theorem isValid_atTime {t : Timestamp} {hour minute : Nat} (h : t.isValid) (hhour : hour < 24)
    (hminute : minute < 60) : isValid { t with hour := hour, minute := minute } := by
  rw [isValid_iff] at h ⊢
  obtain ⟨hyear, hmonth, hmonth', hday, hday', -, -, hrest⟩ := h
  exact ⟨hyear, hmonth, hmonth', hday, hday', hhour, hminute, hrest⟩

/-- The instant of a local time is one of the calendar, if its year is. -/
theorem isValid_ofLocal {t : Timestamp} {ahead : Int} (h : t.isValid)
    (hyear : isYear (t.ofLocal ahead).year) : (t.ofLocal ahead).isValid := by
  unfold ofLocal at hyear ⊢
  refine isValid_atTime ?_ (by omega) (Nat.mod_lt _ (by decide))
  dsimp only at hyear
  split at hyear
  case isTrue hbefore =>
    rw [if_pos hbefore]
    exact isValid_previousDay h hyear
  case isFalse hbefore =>
    rw [if_neg hbefore]
    split at hyear
    case isTrue hafter =>
      rw [if_pos hafter]
      exact isValid_nextDay h hyear
    case isFalse hafter =>
      rw [if_neg hafter]
      exact h

/-- **Whatever instant is read is one of the calendar.** -/
theorem isValid_of_parse {text : String} {t : Timestamp} (h : parse text = some t) :
    t.isValid := by
  obtain ⟨⟨year, _⟩, -, h⟩ := Option.bind_eq_some_iff.mp h
  obtain ⟨_, -, h⟩ := Option.bind_eq_some_iff.mp h
  obtain ⟨⟨month, _⟩, -, h⟩ := Option.bind_eq_some_iff.mp h
  obtain ⟨_, -, h⟩ := Option.bind_eq_some_iff.mp h
  obtain ⟨⟨day, _⟩, -, h⟩ := Option.bind_eq_some_iff.mp h
  obtain ⟨_, -, h⟩ := Option.bind_eq_some_iff.mp h
  obtain ⟨⟨hour, _⟩, -, h⟩ := Option.bind_eq_some_iff.mp h
  obtain ⟨_, -, h⟩ := Option.bind_eq_some_iff.mp h
  obtain ⟨⟨minute, _⟩, -, h⟩ := Option.bind_eq_some_iff.mp h
  obtain ⟨_, -, h⟩ := Option.bind_eq_some_iff.mp h
  obtain ⟨⟨second, _⟩, -, h⟩ := Option.bind_eq_some_iff.mp h
  obtain ⟨⟨nano, _⟩, -, h⟩ := Option.bind_eq_some_iff.mp h
  obtain ⟨⟨ahead, _⟩, -, h⟩ := Option.bind_eq_some_iff.mp h
  dsimp only at h
  split at h
  case isFalse => cases h
  case isTrue hcond =>
    obtain rfl := Option.some.inj h
    obtain ⟨⟨-, hvalid⟩, hyear⟩ := by simpa only [Bool.and_eq_true] using hcond
    exact isValid_ofLocal hvalid hyear

end CopysetWatch.Timestamp
