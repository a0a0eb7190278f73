import CopysetWatch.Check.Standing
import CopysetWatch.Gateway
import CopysetWatch.Registry

/-!
# Evidence of a health check

Everything a health check has to ask before it can judge. All chunk servers are asked for their
raft status first. The copysets of a server that cannot be asked are rebuilt from where the
metadata service places them; the servers that reported followers without a leader are looked up
in that placement once more; and last comes the metadata service's list of all copysets. A fault
or a panic on this way ends the check, except that of a chunk server asked for its own status.

Leaders are judged while the servers are gone through in the order of their addresses, between
the questions about those that could not be asked. What a judgement amounts to is told elsewhere;
here counts that it may overflow, which ends the check at its server.
-/

namespace CopysetWatch.Check

/-- What became of asking a chunk server for its raft status. -/
inductive Testimony where
  /-- It could not be asked. -/
  | unreachable
  /-- It answered with nothing that belongs to a copyset. -/
  | silent
  | records (records : List Raft.Record)
  deriving DecidableEq, Repr, Inhabited

namespace Testimony

/-- The testimony that an answer amounts to; fields that are no record are left out. -/
def ofAnswer : Except Fault (List Raft.Fields) → Testimony
  | .error _ => .unreachable
  | .ok answer =>
    match answer.filterMap fun fields => (Raft.Record.parse fields).toOption with
    | [] => .silent
    | record :: others => .records (record :: others)

/-- The records of a testimony. -/
def recordList : Testimony → List Raft.Record
  | .records rs => rs
  | _ => []

end Testimony

/-- The testimonies of all servers by address, in ascending order; of two answers of one server
the later one counts. -/
def testimonies (heard : List (Arrival String (List Raft.Fields))) : List (String × Testimony) :=
  (heard.foldl (fun (found : Std.ExtTreeMap String Testimony) a =>
    found.insert a.target (.ofAnswer a.result)) ∅).toList

/-- The servers that could not be asked. -/
def unreachableServers (found : List (String × Testimony)) : List String :=
  (found.filter fun entry => entry.2 == .unreachable).map Prod.fst

/-- Which server reported which copyset. -/
def reportsOf (found : List (String × Testimony)) : Reports := fun address id =>
  match found.lookup address with
  | some testimony => testimony.recordList.any fun record => record.groupId == id
  | none => false

/-- Whether judging the records of a server overflows, given what all servers reported. -/
def Testimony.overflows (settings : CheckSettings) (reports : Reports) (t : Testimony) : Bool :=
  t.recordList.any fun record => record.isLeader && leaderOverflows settings reports record

/-- Whether judging the records of some server overflows. -/
def overflowsSomewhere (settings : CheckSettings) (found : List (String × Testimony)) : Bool :=
  found.any fun entry => entry.2.overflows settings (reportsOf found)

/-- The servers before the first one whose records overflow. -/
def beforeOverflow (settings : CheckSettings) (found : List (String × Testimony)) :
    List (String × Testimony) :=
  found.takeWhile fun entry => !entry.2.overflows settings (reportsOf found)

/-- A follower without a leader: the server that reported it, its copyset and its peers. -/
structure Candidate where
  address : String
  groupId : GroupId
  peers : List String
  deriving DecidableEq, Repr, Inhabited

/-- The followers without a leader that one server reported. -/
def candidatesOf (entry : String × Testimony) : List Candidate :=
  (entry.2.recordList.filter Raft.Record.isLeaderlessFollower).map fun record =>
    ⟨entry.1, record.groupId, record.peers⟩

/-- The followers without a leader, in the order of their servers. -/
def candidates (found : List (String × Testimony)) : List Candidate :=
  found.flatMap candidatesOf

/-- The servers that reported a follower without a leader. -/
def candidateServers (found : List (String × Testimony)) : List String :=
  (found.filter fun entry => !(candidatesOf entry).isEmpty).map Prod.fst

/-- The locations by pool, in ascending order of the pools. -/
def byPool (locations : List Location) : List (UInt32 × List UInt32) :=
  (Std.ExtTreeSet.ofList (locations.map Location.pool)).toList.map fun pool =>
    (pool, (locations.filter (·.pool == pool)).map Location.copyset)

/-- A copyset that a server should hold, with the addresses of its replicas. -/
structure Hosted where
  groupId : GroupId
  peers : List String
  deriving DecidableEq, Repr, Inhabited

/-- The hosted copysets that the members of one pool amount to. -/
def hostedIn (pool : UInt32) (members : List Members) : List Hosted :=
  members.map fun m => ⟨.pack pool m.copyset, m.peers.map PeerEndpoint.address⟩

/-- The copysets of a server as the metadata service has them. -/
def rebuild (settings : CheckSettings) (gateway : Nat → Gateway) (address : String) :
    Inquiry (List Hosted) := do
  let locations ← Inquiry.ask fun m => (gateway m).assignments address
  let answers ← Inquiry.gatherAll settings.gatewayTimeout
    (fun m (group : UInt32 × List UInt32) => (gateway m).members group.1 group.2)
    (byPool locations)
  return answers.flatMap fun answer => hostedIn answer.1.1 answer.2

/-- The copysets of several servers, asked for one server after the other. -/
def rebuildAll (settings : CheckSettings) (gateway : Nat → Gateway) :
    List String → Inquiry (List (String × List Hosted))
  | [] => return []
  | address :: rest => do
    let hosted ← rebuild settings gateway address
    let others ← rebuildAll settings gateway rest
    return (address, hosted) :: others

/-- Everything that a health check judges by. -/
structure Evidence where
  /-- The testimony of each server, in ascending order of the addresses. -/
  testimonies : List (String × Testimony)
  /-- The rebuilt copysets of each server that could not be asked. -/
  rebuilt : List (String × List Hosted)
  /-- Where the metadata service places the servers that reported candidates. -/
  placement : List (String × List Location)
  /-- The copysets that the metadata service lists. -/
  listing : List ScanStatus
  deriving Repr, Inhabited

namespace Evidence

/-- The rebuilt copysets of a server. -/
def hostedBy (e : Evidence) (address : String) : List Hosted :=
  (e.rebuilt.lookup address).getD []

/-- Whether the metadata service still places a copyset on a server. -/
def isPlacedOn (e : Evidence) (address : String) (id : GroupId) : Bool :=
  ((e.placement.lookup address).getD []).any fun location => location.groupId == id

/-- Which server reported which copyset. -/
def reports (e : Evidence) : Reports :=
  reportsOf e.testimonies

end Evidence

/-- Asks for what is left when the unreachable servers are rebuilt: where the servers with
candidates belong, and the list of all copysets. -/
def collectRest (settings : CheckSettings) (gateway : Nat → Gateway)
    (found : List (String × Testimony)) (rebuilt : List (String × List Hosted)) :
    Inquiry Evidence := do
  let placement ← Inquiry.gatherAll settings.gatewayTimeout (fun m => (gateway m).assignments)
    (candidateServers found)
  let listing ← Inquiry.ask fun m => (gateway m).copysets
  return { testimonies := found, rebuilt, placement, listing }

/-- Asks for what the testimonies of the servers leave open, unless judging one of them overflows on
the way. -/
def collectBeyond (settings : CheckSettings) (gateway : Nat → Gateway)
    (found : List (String × Testimony)) : Inquiry Evidence := do
  let rebuilt ← rebuildAll settings gateway (unreachableServers (beforeOverflow settings found))
  if overflowsSomewhere settings found then Inquiry.ofEnding .panic
  else collectRest settings gateway found rebuilt

/-- Asks for everything that a health check judges by. -/
def collect (settings : CheckSettings) (gateway : Nat → Gateway) : Inquiry Evidence := do
  let servers ← Inquiry.ask fun m => (gateway m).servers
  let heard ← Inquiry.gather settings.raftTimeout (fun m => (gateway m).raftStatus)
    (servers.map ChunkServer.address)
  collectBeyond settings gateway (testimonies heard)

end CopysetWatch.Check
