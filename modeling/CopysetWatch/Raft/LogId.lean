import CopysetWatch.Text.Numeral
import CopysetWatch.Text.Pieces

/-!
# Log positions

The last log entry of a replica is written as a term and an index, in either order and with or
without parentheses. Other keys are allowed beside them, and a repeated key counts by its last
value, but no part may lack its equals sign and no term or index may be anything but a numeral.
-/

namespace CopysetWatch.Raft

/-- The position of a log entry. -/
structure LogId where
  term : UInt64
  index : UInt64
  deriving DecidableEq, Repr, Inhabited

namespace LogId

/-- The values of a key, in order, if each of them is a numeral. -/
def numeralsOf (key : List Char) (parts : List (List Char × List Char)) : Option (List UInt64) :=
  (parts.filter fun part => Text.trim part.1 == key).mapM fun part =>
    (Text.readUInt64 (Text.trim part.2)).toOption

/-- The text between the parentheses, which may be absent. -/
def body (text : List Char) : List Char :=
  Text.dropTrailing ')' ((Text.trim text).dropWhile (· == '('))

/-- The keys and values of a comma-separated text, if every part has an equals sign. -/
def parts (text : List Char) : Option (List (List Char × List Char)) :=
  (Text.pieces (· == ',') text).mapM (Text.cut ['='])

/-- The log position that a text writes. -/
def parse (text : String) : Option LogId := do
  let found ← parts (body text.toList)
  let terms ← numeralsOf "term".toList found
  let indexes ← numeralsOf "index".toList found
  return ⟨← terms.getLast?, ← indexes.getLast?⟩

end LogId

end CopysetWatch.Raft
