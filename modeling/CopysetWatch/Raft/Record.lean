import CopysetWatch.Fault
import CopysetWatch.Raft.LogId
import CopysetWatch.Raft.Replicator
import CopysetWatch.Raft.State

/-!
# Raft records

A chunk server reports each of its replicas as a set of named texts. A record is what they say:
only the copyset and the state have to be there, and everything else may be absent or unreadable.
-/

namespace CopysetWatch.Raft

/-- The named texts that a chunk server reports for one replica. -/
abbrev Fields :=
  Std.ExtTreeMap String String

/-- The status of one replica of a copyset. -/
structure Record where
  groupId : GroupId
  state : State
  /-- The replica's own address and raft index. -/
  peerId : Option String
  /-- The configured peers, each with its raft index. -/
  peers : List String
  /-- The leader the replica knows of. -/
  leader : Option String
  /-- The last log entry, absent where it is not reported or unreadable. -/
  lastLogId : Option LogId
  replicators : List Replicator
  deriving DecidableEq, Repr, Inhabited

namespace Record

/-- The address that a follower without a leader reports as its leader. -/
def noLeader : String :=
  "0.0.0.0:0:0"

/-- A text without the blanks around it. -/
def trimmed (text : String) : String :=
  String.ofList (Text.trim text.toList)

/-- The copyset a set of fields is about. -/
def groupIdOf (fields : Fields) : Except Fault GroupId :=
  match fields["groupId"]? with
  | none => .error (.raftStatus "missing groupId")
  | some text =>
    match GroupId.parse text with
    | .ok id => .ok id
    | .error fault => .error (.raftStatus ("invalid groupId: " ++ fault.message))

/-- The state a set of fields names. -/
def stateOf (fields : Fields) (id : GroupId) : Except Fault State :=
  match fields["state"]? with
  | none => .error (.raftStatus ("missing state for group " ++ id.text))
  | some text =>
    if (Text.trim text.toList).isEmpty then
      .error (.raftStatus ("missing state for group " ++ id.text))
    else .ok (.parse text)

/-- The peers a set of fields names, divided by blanks. -/
def peersOf (fields : Fields) : List String :=
  match fields["peers"]? with
  | none => []
  | some text => (Text.words text.toList).map String.ofList

/-- The leader a set of fields names, if it names one. -/
def leaderOf (fields : Fields) : Option String :=
  (fields["leader"]?.map trimmed).filter fun leader => !leader.isEmpty && leader != noLeader

/-- Whether a field holds the progress of a replicator. -/
def isReplicatorKey (key : String) : Bool :=
  "replicator_".toList.isPrefixOf key.toList

/-- The replicators of a set of fields, in the order of their keys. -/
def replicatorsOf (fields : Fields) : List Replicator :=
  (fields.toList.filter fun field => isReplicatorKey field.1).map fun field => .parse field.2

/-- The record that a set of fields describes. -/
def parse (fields : Fields) : Except Fault Record := do
  let id ← groupIdOf fields
  let state ← stateOf fields id
  return {
    groupId := id
    state := state
    peerId := fields["peer_id"]?.map trimmed
    peers := peersOf fields
    leader := leaderOf fields
    lastLogId := fields["last_log_id"]?.bind LogId.parse
    replicators := replicatorsOf fields }

/-- Whether the replica leads its group. -/
def isLeader (record : Record) : Bool :=
  record.state == .leader

/-- Whether the replica follows without knowing whom. -/
def isLeaderlessFollower (record : Record) : Bool :=
  record.state == .follower && record.leader.isNone

end Record

end CopysetWatch.Raft
