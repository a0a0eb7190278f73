import CopysetWatch.Raft.Record

/-!
# Status pages

A chunk server reports all its replicas on one page. A line in square brackets opens the block of
a copyset, the lines below it are its fields, and what stands before the first block is ignored.
-/

namespace CopysetWatch.Raft.StatusPage

/-- What one line of a page says. -/
inductive Line where
  /-- The block of another copyset begins. -/
  | header (groupId : String)
  | field (key value : String)
  /-- The line says nothing. -/
  | silent
  deriving DecidableEq, Repr

/-- The trimmed text between square brackets, if a line stands in them. -/
def bracketed : List Char → Option (List Char)
  | '[' :: rest => if rest.getLast? = some ']' then some (Text.trim rest.dropLast) else none
  | _ => none

/-- The key and the value of a line; a key may have nothing behind its colon. -/
def keyed (line : List Char) : Option (List Char × List Char) :=
  match Text.cut [':', ' '] line with
  | some (key, value) => some (Text.trim key, Text.trim value)
  | none => if line.getLast? = some ':' then some (Text.trim line.dropLast, []) else none

/-- What a trimmed line says. -/
def Line.read (line : List Char) : Line :=
  match bracketed line with
  | some id => .header (String.ofList id)
  | none =>
    match keyed line with
    | some (key, value) => .field (String.ofList key) (String.ofList value)
    | none => .silent

/-- The blocks that a sequence of lines forms behind the block that is open. -/
def blocksAfter (current : Option Fields) : List Line → List Fields
  | [] => current.toList
  | .header id :: rest =>
    current.toList ++ blocksAfter (some ((∅ : Fields).insert "groupId" id)) rest
  | .field key value :: rest =>
    blocksAfter (current.map fun fields => fields.insert key value) rest
  | .silent :: rest => blocksAfter current rest

/-- The lines of a page. -/
def linesOf (text : String) : List Line :=
  (Text.trimmedLines text.toList).map Line.read

/-- The fields of each block of a page. -/
def parse (text : String) : List Fields :=
  blocksAfter none (linesOf text)

end CopysetWatch.Raft.StatusPage
