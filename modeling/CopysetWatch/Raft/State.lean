import CopysetWatch.Text.Blank

/-!
# Raft states

The role a replica plays in its raft group. A state name that is not known is kept as it is, so
that an unusual replica can be reported by the word it used.
-/

namespace CopysetWatch.Raft

/-- The role of a replica in its raft group. -/
inductive State where
  | leader
  | follower
  | transferring
  | candidate
  | error
  | uninitialized
  | shutting
  | shutdown
  /-- A state that is none of the named ones. -/
  | other (name : String)
  deriving DecidableEq, Repr, Inhabited

namespace State

/-- The states that have a name of their own. -/
def named : List State :=
  [.leader, .follower, .transferring, .candidate, .error, .uninitialized, .shutting, .shutdown]

/-- The name of a state. -/
def name : State → String
  | .leader => "LEADER"
  | .follower => "FOLLOWER"
  | .transferring => "TRANSFERRING"
  | .candidate => "CANDIDATE"
  | .error => "ERROR"
  | .uninitialized => "UNINITIALIZED"
  | .shutting => "SHUTTING"
  | .shutdown => "SHUTDOWN"
  | .other name => name

/-- The state that a trimmed name stands for. -/
def ofName (name : String) : State :=
  (named.find? fun state => state.name == name).getD (.other name)

/-- The state that a text names; blanks around the name are ignored. -/
def parse (text : String) : State :=
  ofName (String.ofList (Text.trim text.toList))

/-- Whether a state is one of the named ones. -/
def isNamed : State → Bool
  | .other _ => false
  | _ => true

/-- Whether the group is in the middle of changing its leader. -/
def isElecting (state : State) : Bool :=
  state == .transferring || state == .candidate

end State

end CopysetWatch.Raft
