import CopysetWatch.Duration
import CopysetWatch.Proofs.Text.Readings

/-!
# Durations and their units

A text writes a duration with digits and, if it is not in seconds, a unit behind them, with blanks
around it or without. Every other text is refused. What is read is the duration that is written, as
long as its milliseconds or seconds fit 64 bits; minutes and hours beyond that are not refused but
make the reader panic.
-/

namespace CopysetWatch

namespace Text

/-- A trimmed text does not end with a blank. -/
theorem not_isBlank_of_mem_getLast?_trim {text : List Char} {c : Char}
    (hc : c ∈ (trim text).getLast?) : ¬isBlank c :=
  not_of_mem_getLast?_rdropWhile hc

/-- A text that does not end with a blank is trimmed by taking off its leading blanks. -/
theorem trim_eq_dropWhile {text : List Char} (hlast : ∀ c ∈ text.getLast?, ¬isBlank c) :
    trim text = text.dropWhile isBlank := by
  refine List.rdropWhile_eq_self_iff.mpr fun hne => ?_
  obtain ⟨blanks, hsplit⟩ := List.dropWhile_suffix isBlank (l := text)
  refine hlast _ ?_
  calc text.getLast? = (blanks ++ text.dropWhile isBlank).getLast? := by rw [hsplit]
    _ = (text.dropWhile isBlank).getLast? := List.getLast?_append_of_ne_nil _ hne
    _ = some ((text.dropWhile isBlank).getLast hne) := List.getLast?_eq_some_getLast hne

end Text

/-- A unit in which durations are written. -/
inductive TimeUnit where
  | millisecond
  | second
  | minute
  | hour
  deriving DecidableEq

namespace TimeUnit

/-- How a unit is written. -/
def sign : TimeUnit → List Char
  | .millisecond => ['m', 's']
  | .second => ['s']
  | .minute => ['m']
  | .hour => ['h']

/-- The nanoseconds of a unit. -/
def nanos : TimeUnit → Nat
  | .millisecond => 1000000
  | .second => 1000000000
  | .minute => 60 * 1000000000
  | .hour => 60 * 60 * 1000000000

/-- So many of a unit. -/
def times (u : TimeUnit) (n : Nat) : Duration :=
  ⟨n * u.nanos⟩

/-- How many milliseconds a millisecond is, and how many seconds any other unit. -/
def scale : TimeUnit → Nat
  | .millisecond | .second => 1
  | .minute => 60
  | .hour => 3600

theorem ofSeconds_minutes (n : Nat) : Duration.ofSeconds (n * 60) = minute.times n := by
  simp only [Duration.ofSeconds, times, nanos, Nat.mul_assoc]

theorem ofSeconds_hours (n : Nat) : Duration.ofSeconds (n * 3600) = hour.times n := by
  simp only [Duration.ofSeconds, times, nanos, Nat.mul_assoc]

/-- The unit of a text is one of the four, and so many of it are read if they fit 64 bits when they
are counted in milliseconds or seconds. -/
theorem ofUnit_sign (u : TimeUnit) (text : String) (count : UInt64) :
    Duration.ofUnit text count u.sign =
      if count.toNat * u.scale < UInt64.size then .value (u.times count.toNat) else .panic := by
  have hcount : count.toNat * 1 < UInt64.size := by
    rw [Nat.mul_one]
    exact count.toNat_lt
  cases u with
  | millisecond | second => exact (if_pos hcount).symm
  | minute =>
    rw [← ofSeconds_minutes]
    rfl
  | hour =>
    rw [← ofSeconds_hours]
    rfl

/-- A text that is none of the four is no unit. -/
theorem ofUnit_of_ne_sign {unit : List Char} (h : ∀ u : TimeUnit, unit ≠ u.sign) (text : String)
    (count : UInt64) :
    Duration.ofUnit text count unit = .fault (.unknownUnit (String.ofList unit) text) := by
  unfold Duration.ofUnit
  split_ifs with hmillis hsecond hminute hhour
  exacts [absurd hmillis (h .millisecond), absurd hsecond (h .second),
    absurd hminute (h .minute), absurd hhour (h .hour), rfl]

end TimeUnit

namespace Duration

open Text (IsDigits)

/-- A text writes so many of a unit, where digits alone count seconds. -/
inductive Writes (n : Nat) : TimeUnit → List Char → Prop where
  | bare {digits : List Char} (h : IsDigits n digits) : Writes n .second digits
  | withUnit (u : TimeUnit) {digits blanks : List Char} (h : IsDigits n digits)
      (hblanks : ∀ c ∈ blanks, Text.isBlank c) : Writes n u (digits ++ blanks ++ u.sign)

/-- What a unit is made of is neither a digit nor a blank. -/
theorem not_isDigit_of_mem_sign (u : TimeUnit) :
    ∀ c ∈ u.sign, ¬c.isDigit ∧ ¬Text.isBlank c := by
  have hall : u.sign.all fun c => !c.isDigit && !Text.isBlank c := by cases u <;> decide
  simpa using hall

/-- A text that writes a duration is cut into its digits and its unit. -/
theorem Writes.split {n : Nat} {u : TimeUnit} {body : List Char} (h : Writes n u body) :
    IsDigits n (body.takeWhile Char.isDigit) ∧
      unitAfter (body.dropWhile Char.isDigit) = u.sign := by
  cases h with
  | bare h =>
    rw [← List.append_nil body, Text.takeWhile_isDigit_append h.isDigit (by simp),
      Text.dropWhile_isDigit_append h.isDigit (by simp)]
    exact ⟨h, rfl⟩
  | @withUnit _ digits blanks h hblanks =>
    have hend : ∀ c ∈ (blanks ++ u.sign).head?, ¬c.isDigit := by
      intro c hc
      rcases List.mem_append.mp (List.mem_of_mem_head? hc) with hblank | hsign
      · exact fun hdigit => Text.not_isBlank_of_isDigit hdigit (hblanks c hblank)
      · exact (not_isDigit_of_mem_sign u c hsign).1
    have hsome : (blanks ++ u.sign).isEmpty = false := by cases u <;> simp [TimeUnit.sign]
    have hunit : unitAfter (blanks ++ u.sign) = u.sign := by
      rw [unitAfter, hsome, if_neg Bool.false_ne_true, Text.trim_append_left hblanks]
      exact Text.trim_of_forall_not_isBlank fun c hc => (not_isDigit_of_mem_sign u c hc).2
    rw [List.append_assoc, Text.takeWhile_isDigit_append h.isDigit hend,
      Text.dropWhile_isDigit_append h.isDigit hend]
    exact ⟨h, hunit⟩

/-- A text that is cut into digits and a unit writes a duration, if it does not end with a blank. -/
theorem writes_of_split {n : Nat} {u : TimeUnit} {body : List Char}
    (hlast : ∀ c ∈ body.getLast?, ¬Text.isBlank c)
    (hdigits : IsDigits n (body.takeWhile Char.isDigit))
    (hunit : unitAfter (body.dropWhile Char.isDigit) = u.sign) : Writes n u body := by
  have hsplit := List.takeWhile_append_dropWhile (p := Char.isDigit) (l := body)
  generalize body.takeWhile Char.isDigit = digits at hdigits hsplit
  generalize body.dropWhile Char.isDigit = rest at hunit hsplit
  subst hsplit
  cases rest with
  | nil =>
    obtain rfl : u = .second := by
      cases u <;> first | rfl | cases hunit
    rw [List.append_nil]
    exact .bare hdigits
  | cons c rest =>
    have hrest : Text.trim (c :: rest) = (c :: rest).dropWhile Text.isBlank := by
      apply Text.trim_eq_dropWhile
      rwa [List.getLast?_append_of_ne_nil _ (List.cons_ne_nil c rest)] at hlast
    have hsign : (c :: rest).dropWhile Text.isBlank = u.sign := hrest.symm.trans hunit
    rw [← List.takeWhile_append_dropWhile (p := Text.isBlank) (l := c :: rest), hsign,
      ← List.append_assoc]
    exact .withUnit u hdigits fun c hc => List.mem_takeWhile_imp hc

/-- A text that writes so many of a unit is read, unless they do not fit 64 bits. -/
theorem parse_of_writes {text : String} {n : Nat} {u : TimeUnit}
    (hwrites : Writes n u (Text.trim text.toList)) (hn : n < UInt64.size) :
    parse text = if n * u.scale < UInt64.size then .value (u.times n) else .panic := by
  obtain ⟨hdigits, hsign⟩ := hwrites.split
  have hcount : (UInt64.ofNat n).toNat = n := UInt64.toNat_ofNat_of_lt' hn
  have hread : Text.readUInt64 ((Text.trim text.toList).takeWhile Char.isDigit) =
      .ok (.ofNat n) := by
    rw [Text.readUInt64_eq_ok_iff, hcount]
    exact .inl hdigits
  simp only [parse, hread, hsign, u.ofUnit_sign, hcount]

/-- A text that writes no number of 64 bits of any unit is refused. -/
theorem exists_parse_eq_fault {text : String}
    (hnone : ¬∃ n u, Writes n u (Text.trim text.toList) ∧ n < UInt64.size) :
    ∃ f, parse text = .fault f := by
  unfold parse
  dsimp only
  split
  case h_1 fault _ => exact ⟨_, rfl⟩
  case h_2 count hread =>
    refine ⟨_, TimeUnit.ofUnit_of_ne_sign (fun u hunit => hnone ?_) _ count⟩
    have hdigits : IsDigits count.toNat ((Text.trim text.toList).takeWhile Char.isDigit) := by
      refine (Text.readUInt64_eq_ok_iff.mp hread).resolve_right fun hplus => ?_
      have hdigit := List.mem_takeWhile_imp (List.mem_of_mem_head? hplus.1)
      exact absurd hdigit (by decide)
    exact ⟨count.toNat, u, writes_of_split (fun c => Text.not_isBlank_of_mem_getLast?_trim)
      hdigits hunit, count.toNat_lt⟩

/-- **Durations are read as they are written, as far as 64 bits go.** A text that writes a number
below 2^64 of a unit is read exactly as it is written if the number of its milliseconds or seconds
is below 2^64, and otherwise reading it panics. Every other text is refused, without a panic. -/
theorem parse_written (text : String) :
    (∀ n u, Writes n u (Text.trim text.toList) → n < UInt64.size →
      (n * u.scale < UInt64.size → parse text = .value (u.times n)) ∧
      (UInt64.size ≤ n * u.scale → parse text = .panic)) ∧
    ((¬∃ n u, Writes n u (Text.trim text.toList) ∧ n < UInt64.size) →
      ∃ f, parse text = .fault f) := by
  refine ⟨fun n u hwrites hn => ⟨fun hfits => ?_, fun hlarge => ?_⟩, exists_parse_eq_fault⟩
  · rw [parse_of_writes hwrites hn, if_pos hfits]
  · rw [parse_of_writes hwrites hn, if_neg (Nat.not_lt.mpr hlarge)]

/-- Ninety minutes are read with blanks of any kind around their unit, and a sign is refused. -/
theorem parse_written_padded :
    Writes 90 .minute (Text.trim " 90\u00a0m\t".toList) ∧
      parse " 90\u00a0m\t" = .value (.ofSeconds 5400) ∧ ∃ f, parse "+5s" = .fault f := by
  have hwrites : Writes 90 .minute (Text.trim " 90\u00a0m\t".toList) := by
    have hbody : Text.trim " 90\u00a0m\t".toList =
        ['9', '0'] ++ ['\u00a0'] ++ TimeUnit.minute.sign := by decide +kernel
    rw [hbody]
    exact .withUnit .minute (by decide) (List.forall_mem_singleton.mpr (by decide))
  have hnone : ¬∃ n u, Writes n u (Text.trim "+5s".toList) ∧ n < UInt64.size := by
    rintro ⟨n, u, hsigned, -⟩
    have hdigits : (Text.trim "+5s".toList).takeWhile Char.isDigit = [] := by decide +kernel
    exact hsigned.split.1.ne_nil hdigits
  have hread := ((parse_written " 90\u00a0m\t").1 90 .minute hwrites (by decide)).1 (by decide)
  exact ⟨hwrites, hread, (parse_written "+5s").2 hnone⟩

/-- So many minutes that their seconds do not fit 64 bits are neither read nor refused: the reader
panics. -/
theorem minutes_beyond_word_panic :
    Writes 307445734561825861 .minute (Text.trim "307445734561825861m".toList) ∧
      307445734561825861 < UInt64.size ∧ parse "307445734561825861m" = .panic := by
  have hbody : Text.trim "307445734561825861m".toList =
      "307445734561825861".toList ++ [] ++ TimeUnit.minute.sign := by decide +kernel
  refine ⟨?_, by decide, by decide +kernel⟩
  rw [hbody]
  exact .withUnit .minute (by decide +kernel) (by simp)

end Duration

end CopysetWatch
