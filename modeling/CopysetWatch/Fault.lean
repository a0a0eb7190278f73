import CopysetWatch.GroupId
import CopysetWatch.Text.Quoted

/-!
# Faults

Everything that can go wrong, by cause. A fault of a single remote party can be retried; a fault
of consistency carries the copysets on which the metadata service and the chunk servers disagree.
-/

namespace CopysetWatch

/-- Why an operation failed. -/
inductive Fault where
  /-- A request to the gateway or a probe failed. -/
  | gateway (reason : String)
  /-- No answer came within so many milliseconds. -/
  | timeout (millis : UInt64)
  /-- A chunk server could not be asked. -/
  | unreachable (address : String)
  /-- The gateway lists another number of copysets than was observed. -/
  | countMismatch (expected observed : Nat) (missing unexpected : List GroupId)
  /-- The gateway lists as many copysets as were observed, but not the same ones. -/
  | setMismatch (missing unexpected : List GroupId)
  /-- A raft status names no copyset or no state. -/
  | raftStatus (reason : String)
  /-- The rule of an alert has no meaning for its kind. -/
  | invalidRule (kind rule : String)
  | unknownAlertKind (name : String)
  | alertStore (reason : String)
  | notification (reason : String)
  /-- A configuration could not be read or has the wrong form. -/
  | config (reason : String)
  /-- A setting has a value that is not allowed. -/
  | invalidConfig (field reason : String)
  | serialization (reason : String)
  | io (reason : String)
  | internal (reason : String)
  deriving DecidableEq, Repr, Inhabited

namespace Fault

/-- A list of group ids inside a message. -/
def groupIdsText (ids : List GroupId) : String :=
  if ids.isEmpty then "none" else "[" ++ ", ".intercalate (ids.map GroupId.text) ++ "]"

/-- The copysets that are missing and unexpected, inside a message. -/
def differenceText (missing unexpected : List GroupId) : String :=
  "(missing: " ++ groupIdsText missing ++ ", unexpected: " ++ groupIdsText unexpected ++ ")"

/-- The wording of a fault. -/
def message : Fault → String
  | .gateway reason => "Gateway request failed: " ++ reason
  | .timeout millis => "Request timeout after " ++ millis.toNat.repr ++ "ms"
  | .unreachable address => "Chunk server unreachable: " ++ address
  | .countMismatch expected observed missing unexpected =>
    "Copyset count mismatch: gateway reports " ++ expected.repr ++ ", chunk servers report " ++
      observed.repr ++ " " ++ differenceText missing unexpected
  | .setMismatch missing unexpected =>
    "Copyset set mismatch " ++ differenceText missing unexpected
  | .raftStatus reason => "Malformed raft status: " ++ reason
  | .invalidRule kind rule => "Invalid rule for alert " ++ kind ++ ": " ++ Text.quote rule
  | .unknownAlertKind name => "Unknown alert kind: " ++ name
  | .alertStore reason => "Alert store error: " ++ reason
  | .notification reason => "Notification failed: " ++ reason
  | .config reason => "Configuration error: " ++ reason
  | .invalidConfig field reason => "Invalid configuration: " ++ field ++ ": " ++ reason
  | .serialization reason => "Serialization error: " ++ reason
  | .io reason => "IO error: " ++ reason
  | .internal reason => "Internal error: " ++ reason

/-- Whether the same request may succeed when it is made again. -/
def isRetryable : Fault → Bool
  | .gateway _ | .timeout _ | .unreachable _ => true
  | _ => false

/-- Whether the gateway and the chunk servers disagree on the copysets there are. -/
def isConsistencyFault : Fault → Bool
  | .countMismatch .. | .setMismatch .. => true
  | _ => false

/-- The copysets a fault of consistency is about, missing ones first. -/
def offending : Fault → List GroupId
  | .countMismatch _ _ missing unexpected | .setMismatch missing unexpected =>
    missing ++ unexpected
  | _ => []

end Fault

end CopysetWatch
