import CopysetWatch.Gateway
import CopysetWatch.Simulation.Timeline

/-!
# View of a cluster

A cluster described piece by piece, so that the pieces may disagree: servers that report copysets
nobody lists, memberships that are out of date, servers that cannot be reached. On top of that,
answers can be late, fail or never come.
-/

namespace CopysetWatch

/-- What a gateway answers from. -/
structure ClusterView where
  /-- The chunk servers that are listed. -/
  servers : List ChunkServer := []
  /-- The copysets placed on each server. -/
  resident : String → List Location := fun _ => []
  /-- The replicas of each copyset that is known. -/
  members : GroupId → Option (List PeerEndpoint) := fun _ => none
  /-- The copysets that are listed. -/
  copysets : List ScanStatus := []
  /-- What each server reports about its replicas, if it can be reached. -/
  raft : String → Option (List Raft.Fields) := fun _ => none
  /-- How late each server's report is, in milliseconds. -/
  raftDelay : String → Nat := fun _ => 0
  failsListing : Bool := false
  failsCopysets : Bool := false
  /-- How late the placement of each server is. -/
  residentDelay : String → Nat := fun _ => 0
  /-- Whether the placement of each server fails. -/
  residentFails : String → Bool := fun _ => false
  /-- How late the memberships of each pool are. -/
  membersDelay : UInt32 → Nat := fun _ => 0
  /-- Whether asking each server for its report ends in a panic. -/
  raftPanics : String → Bool := fun _ => false

namespace ClusterView

instance : Inhabited ClusterView := ⟨{}⟩

/-- Lists one more chunk server. -/
def addServer (v : ClusterView) (server : ChunkServer) : ClusterView :=
  { v with servers := v.servers ++ [server] }

/-- Places copysets on a server. -/
def setResident (v : ClusterView) (address : String) (locations : List Location) : ClusterView :=
  { v with resident := fun a => if a = address then locations else v.resident a }

/-- Sets the replicas of a copyset. -/
def setMembers (v : ClusterView) (location : Location) (peers : List PeerEndpoint) :
    ClusterView :=
  { v with members := fun id => if id = location.groupId then some peers else v.members id }

/-- Lists one more copyset. -/
def addCopyset (v : ClusterView) (status : ScanStatus) : ClusterView :=
  { v with copysets := v.copysets ++ [status] }

/-- Replaces the scan outcome of a copyset wherever it is listed. -/
def setScan (v : ClusterView) (id : GroupId) (lastScan : UInt64) (consistent : Bool) :
    ClusterView :=
  { v with copysets := v.copysets.map fun s =>
      if s.groupId = id then { s with lastScan, consistent } else s }

/-- Lists a copyset no longer. -/
def removeCopyset (v : ClusterView) (id : GroupId) : ClusterView :=
  { v with copysets := v.copysets.filter fun s => s.groupId != id }

/-- Sets what a server reports, or that it cannot be reached. -/
def setRaft (v : ClusterView) (address : String) (answer : Option (List Raft.Fields)) :
    ClusterView :=
  { v with raft := fun a => if a = address then answer else v.raft a }

/-- Makes the report of a server late. -/
def setRaftDelay (v : ClusterView) (address : String) (delay : Nat) : ClusterView :=
  { v with raftDelay := fun a => if a = address then delay else v.raftDelay a }

/-- Makes the placement of a server late. -/
def setResidentDelay (v : ClusterView) (address : String) (delay : Nat) : ClusterView :=
  { v with residentDelay := fun a => if a = address then delay else v.residentDelay a }

/-- Makes the placement of a server fail. -/
def setResidentFails (v : ClusterView) (address : String) : ClusterView :=
  { v with residentFails := fun a => if a = address then true else v.residentFails a }

/-- Makes the memberships of a pool late. -/
def setMembersDelay (v : ClusterView) (pool : UInt32) (delay : Nat) : ClusterView :=
  { v with membersDelay := fun p => if p = pool then delay else v.membersDelay p }

/-- Makes asking a server for its report end in a panic. -/
def setRaftPanics (v : ClusterView) (address : String) : ClusterView :=
  { v with raftPanics := fun a => if a = address then true else v.raftPanics a }

/-- The listed chunk servers. -/
def listServers (v : ClusterView) : Except Fault (List ChunkServer) :=
  if v.failsListing then .error (.gateway "list chunk servers failed") else .ok v.servers

/-- The listed copysets. -/
def listCopysets (v : ClusterView) : Except Fault (List ScanStatus) :=
  if v.failsCopysets then .error (.gateway "list copysets failed") else .ok v.copysets

/-- The placement of a server. -/
def assignments (v : ClusterView) (address : String) : Except Fault (List Location) :=
  if v.residentFails address then .error (.gateway ("resident " ++ address ++ " failed"))
  else .ok (v.resident address)

/-- The replicas of a copyset. -/
def membersOf (v : ClusterView) (pool copyset : UInt32) : Except Fault Members :=
  match v.members (.pack pool copyset) with
  | some peers => .ok ⟨copyset, peers⟩
  | none => .error (.gateway ("copyset " ++ copyset.toNat.repr ++ " not found in pool " ++
      pool.toNat.repr))

/-- The replicas of some copysets of a pool, up to the first that is not known. -/
def membersOfAll (v : ClusterView) (pool : UInt32) : List UInt32 → Except Fault (List Members)
  | [] => .ok []
  | copyset :: rest =>
    match v.membersOf pool copyset with
    | .error f => .error f
    | .ok m => (v.membersOfAll pool rest).map (m :: ·)

/-- What becomes of asking a server for its report. The report is the one at the moment of
asking, however late it comes. -/
def raftReply (v : ClusterView) (address : String) : Reply (List Raft.Fields) :=
  if v.raftPanics address then ⟨0, .panic⟩
  else
    ⟨v.raftDelay address,
      match v.raft address with
      | some records => .value records
      | none => .fault (.unreachable address)⟩

/-- The gateway to a cluster whose view changes over time, as it answers at a moment by a clock. A
late placement or membership is the one at the moment of the answer. -/
def gateway (clock : Clock) (views : Nat → ClusterView) (moment : Nat) : Gateway where
  servers := .now (views moment).listServers
  assignments address :=
    let delay := clock.wait ((views moment).residentDelay address)
    ⟨delay, .ofExcept ((views (moment + delay)).assignments address)⟩
  members pool copysets :=
    let delay := clock.wait ((views moment).membersDelay pool)
    ⟨delay, .ofExcept ((views (moment + delay)).membersOfAll pool copysets)⟩
  copysets := .now (views moment).listCopysets
  raftStatus address := ((views moment).raftReply address).on clock

end ClusterView

end CopysetWatch
