import CopysetWatch.Json.Basic
import CopysetWatch.Json.Strings
import CopysetWatch.Text.Numeral

/-!
# Reading and writing JSON

A value is written without any blanks. In reading, blanks may stand around every token. What
follows a value is given back, unless the text is no JSON up to there; then everything behind the
fault is left out.
-/

namespace CopysetWatch.Json

/-- Whether a character may stand between two tokens. -/
def isSpace (c : Char) : Bool :=
  c == ' ' || c == '\n' || c == '\t' || c == '\r'

/-- The text from its next token on. -/
def skipSpaces (text : List Char) : List Char :=
  text.dropWhile isSpace

/-- The digits at the front of a text, of which there has to be one, and what follows. -/
def readDigits (text : List Char) : Option (List Char × List Char) :=
  match text.takeWhile Char.isDigit with
  | [] => none
  | digits => some (digits, text.dropWhile Char.isDigit)

/-- The digits before a fraction or an exponent: a zero stands alone. -/
def readWhole (text : List Char) : Option (List Char × List Char) :=
  match readDigits text with
  | some ('0' :: _ :: _, _) => none
  | other => other

/-- What follows the fraction of a number, with whether there is one. -/
def readFraction (text : List Char) : Option (Bool × List Char) :=
  match text with
  | '.' :: rest => (readDigits rest).map fun (_, after) => (true, after)
  | _ => some (false, text)

/-- What follows the exponent of a number, with whether there is one. -/
def readExponent (text : List Char) : Option (Bool × List Char) :=
  match text with
  | c :: rest =>
    if c = 'e' ∨ c = 'E' then
      let unsigned := match rest with
        | '+' :: digits => digits
        | '-' :: digits => digits
        | digits => digits
      (readDigits unsigned).map fun (_, after) => (true, after)
    else some (false, text)
  | [] => some (false, [])

/-- The number at the front of a text, and what follows. -/
def readNumber (text : List Char) : Option (Option Nat × List Char) := do
  let (negative, unsigned) := match text with
    | '-' :: rest => (true, rest)
    | _ => (false, text)
  let (whole, afterWhole) ← readWhole unsigned
  let (fractional, afterFraction) ← readFraction afterWhole
  let (exponential, after) ← readExponent afterFraction
  let plain := !negative && !fractional && !exponential
  return (if plain then some (Text.digitsValue whole) else none, after)

mutual

/-- The value at the front of a text, read in so many steps at most, and what follows. -/
def readValue : Nat → List Char → Json × Option (List Char)
  | 0, _ => (.broken, none)
  | steps + 1, text =>
    match skipSpaces text with
    | '"' :: rest =>
      match readString rest with
      | some (content, after) => (.string content, some after)
      | none => (.broken, none)
    | '[' :: rest =>
      match skipSpaces rest with
      | ']' :: after => (.array .closed, some after)
      | _ =>
        match readItems steps rest with
        | (items, after) => (.array items, after)
    | '{' :: rest =>
      match skipSpaces rest with
      | '}' :: after => (.object .closed, some after)
      | _ =>
        match readMembers steps rest with
        | (members, after) => (.object members, after)
    | 'n' :: 'u' :: 'l' :: 'l' :: after => (.null, some after)
    | 't' :: 'r' :: 'u' :: 'e' :: after => (.bool true, some after)
    | 'f' :: 'a' :: 'l' :: 's' :: 'e' :: after => (.bool false, some after)
    | other =>
      match readNumber other with
      | some (value, after) => (.number value, some after)
      | none => (.broken, none)

/-- The items of an array from the next one on, and what follows the array. -/
def readItems : Nat → List Char → Json.Items × Option (List Char)
  | 0, _ => (.cut, none)
  | steps + 1, text =>
    match readValue steps text with
    | (head, none) => (.cons head .cut, none)
    | (head, some rest) =>
      match skipSpaces rest with
      | ']' :: after => (.cons head .closed, some after)
      | ',' :: more =>
        match skipSpaces more with
        | ']' :: _ => (.cons head .cut, none)
        | _ =>
          match readItems steps more with
          | (tail, after) => (.cons head tail, after)
      | _ => (.cons head .cut, none)

/-- The members of an object from the next one on, and what follows the object. -/
def readMembers : Nat → List Char → Json.Members × Option (List Char)
  | 0, _ => (.cut, none)
  | steps + 1, text =>
    match skipSpaces text with
    | '"' :: keyed =>
      match readString keyed with
      | none => (.cut, none)
      | some (key, afterKey) =>
        match skipSpaces afterKey with
        | ':' :: valued =>
          match readValue steps valued with
          | (value, none) => (.cons key value .cut, none)
          | (value, some rest) =>
            match skipSpaces rest with
            | '}' :: after => (.cons key value .closed, some after)
            | ',' :: more =>
              match readMembers steps more with
              | (tail, after) => (.cons key value tail, after)
            | _ => (.cons key value .cut, none)
        | _ => (.cons key .broken .cut, none)
    | _ => (.cut, none)

end

/-- The value that a text begins with, and whether nothing but blanks follows. -/
def read (text : String) : Json × Bool :=
  match readValue (2 * text.toList.length + 2) text.toList with
  | (value, none) => (value, false)
  | (value, some rest) => (value, (skipSpaces rest).isEmpty)

mutual

/-- The text of a value. -/
def write : Json → List Char
  | .null => "null".toList
  | .bool true => "true".toList
  | .bool false => "false".toList
  | .number (some n) => n.repr.toList
  | .number none => []
  | .string (some text) => writeString text
  | .string none => []
  | .array items => '[' :: writeItems items
  | .object members => '{' :: writeMembers members
  | .broken => []

/-- The text of the items of an array, up to the bracket that closes it. -/
def writeItems : Json.Items → List Char
  | .closed => [']']
  | .cut => []
  | .cons head tail => write head ++ separateItems tail

/-- The text of the items that follow another one. -/
def separateItems : Json.Items → List Char
  | .closed => [']']
  | .cut => []
  | .cons head tail => ',' :: write head ++ separateItems tail

/-- The text of the members of an object, up to the brace that closes it. -/
def writeMembers : Json.Members → List Char
  | .closed => ['}']
  | .cut => []
  | .cons key value tail =>
    (key.map writeString).getD [] ++ ':' :: write value ++ separateMembers tail

/-- The text of the members that follow another one. -/
def separateMembers : Json.Members → List Char
  | .closed => ['}']
  | .cut => []
  | .cons key value tail =>
    ',' :: (key.map writeString).getD [] ++ ':' :: write value ++ separateMembers tail

end

/-- The text of a value. -/
def text (j : Json) : String :=
  String.ofList j.write

end CopysetWatch.Json
