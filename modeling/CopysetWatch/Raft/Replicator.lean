import CopysetWatch.Text.Numeral
import CopysetWatch.Text.Pieces

/-!
# Replicators

A leader reports for each follower how far replication has come: the next index to send and how
many entries are in flight, or that a snapshot is being installed. A line is read word by word,
and the first word that decides it ends the reading. How far a follower lags behind is computed in
64-bit arithmetic, and computing it panics where that overflows.
-/

namespace CopysetWatch.Raft

/-- How far a leader has come with one follower. -/
inductive Replicator where
  /-- The follower is receiving a snapshot. -/
  | installingSnapshot
  | replicating (nextIndex flying : UInt64)
  /-- The line could not be understood. -/
  | malformed (line : String)
  deriving DecidableEq, Repr, Inhabited

namespace Replicator

/-- What the words of a line say, after the next index and the flying count found so far. -/
def ofWords (line : String) (nextIndex : Option UInt64) (flying : UInt64) :
    List (List Char) → Replicator
  | [] =>
    match nextIndex with
    | some index => .replicating index flying
    | none => .malformed line
  | word :: rest =>
    match Text.cut ['='] word with
    | none =>
      if Text.mentions "snapshot".toList word then .installingSnapshot
      else ofWords line nextIndex flying rest
    | some (key, value) =>
      if key = "next_index".toList then
        match Text.readUInt64 value with
        | .ok index => ofWords line (some index) flying rest
        | .error _ => .malformed line
      else if key = "flying_append_entries_size".toList then
        match Text.readUInt64 value with
        | .ok count => ofWords line nextIndex count rest
        | .error _ => .malformed line
      else ofWords line nextIndex flying rest

/-- The replication progress that a line reports. -/
def parse (line : String) : Replicator :=
  ofWords line none 0 (Text.words line.toList)

/-- How many entries the follower lacks of the log up to an index, in 64-bit arithmetic; entries
in flight are not acknowledged yet. It is what is computed where no step on the way overflows. -/
def gap (lastIndex : UInt64) : Replicator → Option Int64
  | .replicating nextIndex flying =>
    some (lastIndex.toInt64 - (nextIndex.toInt64 - 1 - flying.toInt64))
  | _ => none

/-- Whether a number fits a signed word of 64 bits. -/
def fitsWord (n : Int) : Bool :=
  Int64.minValue.toInt ≤ n && n ≤ Int64.maxValue.toInt

/-- Whether computing the gap up to an index overflows, at the first, the second or the last of
its three subtractions. -/
def overflows (lastIndex : UInt64) : Replicator → Bool
  | .replicating nextIndex flying =>
    let next := nextIndex.toInt64.toInt
    let acknowledged := next - 1 - flying.toInt64.toInt
    !(fitsWord (next - 1) && fitsWord acknowledged &&
      fitsWord (lastIndex.toInt64.toInt - acknowledged))
  | _ => false

end Replicator

end CopysetWatch.Raft
