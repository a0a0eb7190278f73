import CopysetWatch.Outcome
import CopysetWatch.Text.Blank
import CopysetWatch.Text.Numeral
import CopysetWatch.Text.Quoted

/-!
# Durations

A duration is a length of time in nanoseconds. In a configuration it is written as digits and a
unit out of milliseconds, seconds, minutes and hours; a bare number counts seconds. Written back,
it is in whole seconds where that is exact to the millisecond, and in milliseconds otherwise.
Minutes and hours are turned into seconds of 64 bits, and where these do not fit, reading panics.
-/

namespace CopysetWatch

/-- A length of time. -/
structure Duration where
  /-- The length in nanoseconds. -/
  nanos : Nat
  deriving DecidableEq, Repr, Inhabited

/-- Why a text is not a duration. -/
inductive DurationFault where
  /-- The digits before the unit are no number. -/
  | badNumber (text : String) (fault : Text.NumeralFault)
  /-- The unit is none of the four. -/
  | unknownUnit (unit text : String)
  deriving DecidableEq, Repr

/-- The wording of a duration's fault. -/
def DurationFault.message : DurationFault → String
  | .badNumber text fault => "invalid duration " ++ Text.quote text ++ ": " ++ fault.message
  | .unknownUnit unit text =>
    "unknown duration unit " ++ Text.quote unit ++ " in " ++ Text.quote text

namespace Duration

/-- So many milliseconds. -/
def ofMillis (millis : Nat) : Duration :=
  ⟨millis * 1000000⟩

/-- So many seconds. -/
def ofSeconds (seconds : Nat) : Duration :=
  ⟨seconds * 1000000000⟩

/-- The whole milliseconds of a duration. -/
def millis (d : Duration) : Nat :=
  d.nanos / 1000000

/-- Whether a duration has no length at all. -/
def isZero (d : Duration) : Bool :=
  d.nanos == 0

/-- The text of a duration, to the millisecond. -/
def text (d : Duration) : String :=
  if d.millis % 1000 = 0 then (d.millis / 1000).repr ++ "s" else d.millis.repr ++ "ms"

/-- So many times so many seconds, as far as the seconds fit 64 bits. -/
def ofScaled (count : UInt64) (scale : Nat) : Outcome DurationFault Duration :=
  if count.toNat * scale < UInt64.size then .value (ofSeconds (count.toNat * scale)) else .panic

/-- So many of a unit, in a text that is named where there is no such unit. -/
def ofUnit (text : String) (count : UInt64) (unit : List Char) :
    Outcome DurationFault Duration :=
  if unit = ['m', 's'] then .value (ofMillis count.toNat)
  else if unit = ['s'] then .value (ofSeconds count.toNat)
  else if unit = ['m'] then ofScaled count 60
  else if unit = ['h'] then ofScaled count 3600
  else .fault (.unknownUnit (String.ofList unit) text)

/-- The unit that follows the digits, which is the second where nothing follows. -/
def unitAfter (rest : List Char) : List Char :=
  if rest.isEmpty then ['s'] else Text.trim rest

/-- The duration that a text writes. -/
def parse (text : String) : Outcome DurationFault Duration :=
  let body := Text.trim text.toList
  match Text.readUInt64 (body.takeWhile Char.isDigit) with
  | .error fault => .fault (.badNumber (String.ofList body) fault)
  | .ok count =>
    ofUnit (String.ofList body) count (unitAfter (body.dropWhile Char.isDigit))

end Duration

end CopysetWatch
