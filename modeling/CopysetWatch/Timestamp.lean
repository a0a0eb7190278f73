import CopysetWatch.Text.Blank
import CopysetWatch.Text.Numeral

/-!
# Timestamps

An instant in coordinated universal time, by the Gregorian calendar of all years. It is written as
a date and a time joined by the letter T, with no fraction or one of three, six or nine digits, and
ends in the letter Z. In reading, blanks may stand between the numbers, a fraction may be longer
than nine digits, and the instant may be given in the time of any offset.
-/

namespace CopysetWatch

/-- An instant in coordinated universal time. The second 60 is a leap second. -/
structure Timestamp where
  year : Int
  month : Nat
  day : Nat
  hour : Nat
  minute : Nat
  second : Nat
  nano : Nat
  deriving DecidableEq, Repr, Inhabited

namespace Timestamp

/-- Whether a year has a leap day. -/
def isLeapYear (year : Int) : Bool :=
  year % 4 == 0 && (year % 100 != 0 || year % 400 == 0)

/-- The number of days of a month. -/
def daysIn (year : Int) (month : Nat) : Nat :=
  if month = 2 then (if isLeapYear year then 29 else 28)
  else if month = 4 ∨ month = 6 ∨ month = 9 ∨ month = 11 then 30
  else 31

/-- The years that instants can lie in. -/
def isYear (year : Int) : Bool :=
  -262143 ≤ year && year ≤ 262142

/-- Whether the numbers of a timestamp are those of a day and a time. -/
def isValid (t : Timestamp) : Bool :=
  isYear t.year && 1 ≤ t.month && t.month ≤ 12 && 1 ≤ t.day && t.day ≤ daysIn t.year t.month &&
    t.hour < 24 && t.minute < 60 && t.second ≤ 60 && t.nano < 1000000000

/-- The same time on the next day. -/
def nextDay (t : Timestamp) : Timestamp :=
  if t.day < daysIn t.year t.month then { t with day := t.day + 1 }
  else if t.month < 12 then { t with month := t.month + 1, day := 1 }
  else { t with year := t.year + 1, month := 1, day := 1 }

/-- The same time on the day before. -/
def previousDay (t : Timestamp) : Timestamp :=
  if 1 < t.day then { t with day := t.day - 1 }
  else if 1 < t.month then
    { t with month := t.month - 1, day := daysIn t.year (t.month - 1) }
  else { t with year := t.year - 1, month := 12, day := 31 }

/-- The instant of a local time that is so many minutes, less than a day, ahead. -/
def ofLocal (t : Timestamp) (ahead : Int) : Timestamp :=
  let minutes : Int := (60 * t.hour + t.minute : Nat) - ahead
  let day :=
    if minutes < 0 then t.previousDay else if 1440 ≤ minutes then t.nextDay else t
  let within := (minutes % 1440).toNat
  { day with hour := within / 60, minute := within % 60 }

/-- A number with at least so many digits. -/
def padded (width n : Nat) : List Char :=
  let digits := n.repr.toList
  List.replicate (width - digits.length) '0' ++ digits

/-- A year; years of five digits and those before the year zero carry their sign. -/
def yearText (year : Int) : List Char :=
  if year < 0 then '-' :: padded 4 year.natAbs
  else if 9999 < year then '+' :: padded 4 year.natAbs
  else padded 4 year.natAbs

/-- A fraction of a second in as few groups of three digits as are exact. -/
def fractionText (nano : Nat) : List Char :=
  if nano = 0 then []
  else if nano % 1000000 = 0 then '.' :: padded 3 (nano / 1000000)
  else if nano % 1000 = 0 then '.' :: padded 6 (nano / 1000)
  else '.' :: padded 9 nano

/-- The text of an instant. -/
def text (t : Timestamp) : String :=
  String.ofList (yearText t.year ++ '-' :: padded 2 t.month ++ '-' :: padded 2 t.day ++
    'T' :: padded 2 t.hour ++ ':' :: padded 2 t.minute ++ ':' :: padded 2 t.second ++
    fractionText t.nano ++ ['Z'])

/-- The number of at most so many digits at the front of a text, and what follows. -/
def readNumber (width : Nat) (text : List Char) : Option (Nat × List Char) :=
  match (text.take width).takeWhile Char.isDigit with
  | [] => none
  | digits => some (Text.digitsValue digits, text.drop digits.length)

/-- A number of one or two digits behind any blanks. -/
def readPair (text : List Char) : Option (Nat × List Char) :=
  readNumber 2 (Text.trimStart text)

/-- A year behind any blanks: four digits at most, or any number of them behind a sign. -/
def readYear (text : List Char) : Option (Int × List Char) :=
  match Text.trimStart text with
  | '-' :: rest => (readNumber rest.length rest).map fun (n, after) => (-(n : Int), after)
  | '+' :: rest => (readNumber rest.length rest).map fun (n, after) => ((n : Int), after)
  | rest => (readNumber 4 rest).map fun (n, after) => ((n : Int), after)

/-- What follows one certain character behind any blanks. -/
def skipMark (mark : Char) (text : List Char) : Option (List Char) :=
  match Text.trimStart text with
  | c :: rest => if c = mark then some rest else none
  | [] => none

/-- The billionths of a second that a fraction writes; digits behind the ninth are left out. -/
def readFraction (text : List Char) : Option (Nat × List Char) :=
  match text with
  | '.' :: rest =>
    match (rest.take 9).takeWhile Char.isDigit with
    | [] => none
    | digits =>
      some (Text.digitsValue digits * Nat.pow 10 (9 - digits.length), rest.dropWhile Char.isDigit)
  | _ => some (0, text)

/-- The number that exactly two digits write. -/
def readTwoDigits (text : List Char) : Option (Nat × List Char) :=
  match text with
  | a :: b :: rest =>
    if a.isDigit && b.isDigit then some (Text.digitsValue [a, b], rest) else none
  | _ => none

/-- The minutes that a sign, two digits of hours and two of minutes write. -/
def readSignedOffset (text : List Char) : Option (Int × List Char) := do
  let (negative, unsigned) ← match text with
    | '+' :: rest => some (false, rest)
    | '-' :: rest => some (true, rest)
    | '\u2212' :: rest => some (true, rest)
    | _ => none
  let (hours, rest) ← readTwoDigits unsigned
  let (minutes, rest) ← readTwoDigits (rest.dropWhile fun c => c == ':' || Text.isBlank c)
  let total := 60 * hours + minutes
  if minutes < 60 ∧ total < 1440 then
    return (if negative then -(total : Int) else (total : Int), rest)
  else none

/-- The minutes that local time is ahead: a sign and digits, the letter Z, or the three letters of
coordinated universal time. -/
def readOffset (text : List Char) : Option (Int × List Char) :=
  match text with
  | 'Z' :: rest => some (0, rest)
  | 'z' :: rest => some (0, rest)
  | a :: b :: c :: rest =>
    if a.toUpper = 'U' ∧ b.toUpper = 'T' ∧ c.toUpper = 'C' then some (0, rest)
    else readSignedOffset text
  | _ => readSignedOffset text

/-- What follows the character between the date and the time. -/
def skipSeparator (text : List Char) : Option (List Char) :=
  match text with
  | c :: rest => if c = 'T' ∨ c = 't' ∨ c = ' ' then some rest else none
  | [] => none

/-- The instant that a text writes. -/
def parse (text : String) : Option Timestamp := do
  let (year, rest) ← readYear text.toList
  let (month, rest) ← readPair (← skipMark '-' rest)
  let (day, rest) ← readPair (← skipMark '-' rest)
  let (hour, rest) ← readPair (← skipSeparator rest)
  let (minute, rest) ← readPair (← skipMark ':' rest)
  let (second, rest) ← readPair (← skipMark ':' rest)
  let (nano, rest) ← readFraction rest
  let (ahead, rest) ← readOffset (Text.trimStart rest)
  let clock : Timestamp := ⟨year, month, day, hour, minute, second, nano⟩
  let instant := clock.ofLocal ahead
  if (Text.trimStart rest).isEmpty && clock.isValid && isYear instant.year then
    return instant
  else none

end Timestamp

end CopysetWatch
