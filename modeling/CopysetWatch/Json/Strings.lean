/-!
# JSON strings

How a text is written between quotation marks and read again. Only quotation marks, backslashes
and control characters are escaped in writing; in reading, every escape of the format counts, and
two escaped surrogates that form a pair are one character.
-/

namespace CopysetWatch.Json

/-- The value of a hexadecimal digit. -/
def hexValue? (c : Char) : Option Nat :=
  if '0' ≤ c ∧ c ≤ '9' then some (c.toNat - 48)
  else if 'a' ≤ c ∧ c ≤ 'f' then some (c.toNat - 87)
  else if 'A' ≤ c ∧ c ≤ 'F' then some (c.toNat - 55)
  else none

/-- The number that four hexadecimal digits write. -/
def hexWord? (a b c d : Char) : Option Nat := do
  return 4096 * (← hexValue? a) + 256 * (← hexValue? b) + 16 * (← hexValue? c) + (← hexValue? d)

/-- One element of a string: a character, or half of a surrogate pair. -/
inductive Element where
  | char (c : Char)
  | surrogate (unit : Nat)
  deriving DecidableEq, Repr

/-- The element that an escaped number stands for. -/
def Element.ofWord (n : Nat) : Element :=
  if 0xD800 ≤ n ∧ n ≤ 0xDFFF then .surrogate n else .char (Char.ofNat n)

/-- The character that a letter behind a backslash stands for. -/
def escaped? (c : Char) : Option Char :=
  match c with
  | '"' => some '"'
  | '\\' => some '\\'
  | '/' => some '/'
  | 'b' => some '\x08'
  | 'f' => some '\x0c'
  | 'n' => some '\n'
  | 'r' => some '\r'
  | 't' => some '\t'
  | _ => none

/-- The elements of a string up to the quotation mark that closes it, and what follows. -/
def readElements : List Char → Option (List Element × List Char)
  | [] => none
  | '"' :: rest => some ([], rest)
  | '\\' :: 'u' :: a :: b :: c :: d :: rest =>
    match hexWord? a b c d with
    | none => none
    | some n => (readElements rest).map fun (es, after) => (.ofWord n :: es, after)
  | '\\' :: c :: rest =>
    match escaped? c with
    | none => none
    | some e => (readElements rest).map fun (es, after) => (.char e :: es, after)
  | c :: rest =>
    if c.toNat < 0x20 ∨ c = '\\' then none
    else (readElements rest).map fun (es, after) => (.char c :: es, after)

/-- The text of some elements, if all surrogates stand in pairs. -/
def joinElements : List Element → Option (List Char)
  | [] => some []
  | .char c :: rest => (joinElements rest).map (c :: ·)
  | .surrogate high :: .surrogate low :: rest =>
    if high < 0xDC00 ∧ 0xDC00 ≤ low then
      (joinElements rest).map
        (Char.ofNat (0x10000 + 1024 * (high - 0xD800) + (low - 0xDC00)) :: ·)
    else none
  | .surrogate _ :: _ => none

/-- The text of a string up to the quotation mark that closes it, and what follows. -/
def readString (text : List Char) : Option (Option String × List Char) :=
  (readElements text).map fun (es, after) => ((joinElements es).map String.ofList, after)

/-- One character inside a string. -/
def escapeChar (c : Char) : List Char :=
  if c = '"' then ['\\', '"']
  else if c = '\\' then ['\\', '\\']
  else if c = '\x08' then ['\\', 'b']
  else if c = '\x0c' then ['\\', 'f']
  else if c = '\n' then ['\\', 'n']
  else if c = '\r' then ['\\', 'r']
  else if c = '\t' then ['\\', 't']
  else if c.toNat < 0x20 then
    ['\\', 'u', '0', '0', Nat.digitChar (c.toNat / 16), Nat.digitChar (c.toNat % 16)]
  else [c]

/-- A text between quotation marks. -/
def writeString (text : String) : List Char :=
  '"' :: text.toList.flatMap escapeChar ++ ['"']

end CopysetWatch.Json
