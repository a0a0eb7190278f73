import CopysetWatch.Text.Numeral

/-!
# Places in a JSON text

A report of a fault gives the line and the column of the text behind the wording. A wording that
already ends in such a place is reported without it, so a name never passes for a place.
-/

namespace CopysetWatch.Json

/-- Whether some characters are the digits of a number of 64 bits. -/
def isCoordinate (digits : List Char) : Bool :=
  digits.all Char.isDigit && (Text.readUInt64 digits).toOption.isSome

/-- What follows an opening, if a text begins with it. -/
def behind? (opening : String) (text : List Char) : Option (List Char) :=
  if opening.toList.isPrefixOf text then some (text.drop opening.length) else none

/-- Whether a text is the place of a fault and nothing else. -/
def isPlace (text : List Char) : Bool :=
  match behind? " at line " text with
  | none => false
  | some rest =>
    match behind? " column " (rest.dropWhile Char.isDigit) with
    | none => false
    | some column => isCoordinate (rest.takeWhile Char.isDigit) && isCoordinate column

/-- A wording without the place at its end. -/
def withoutPlace : List Char → List Char
  | [] => []
  | c :: rest => if isPlace (c :: rest) then [] else c :: withoutPlace rest

end CopysetWatch.Json
