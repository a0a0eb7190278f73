import CopysetWatch.GroupId
import CopysetWatch.Text.Pieces

/-!
# The parts of a cluster

The metadata service lists chunk servers and copysets, places copysets on chunk servers, and
names the peers that replicate each copyset. A chunk server is known by its address, an ip and a
port; a raft peer is the same address with a raft index behind it.
-/

namespace CopysetWatch

/-- The status of a chunk server as the metadata service records it. -/
inductive OnlineStatus where
  | online
  | offline
  | unstable
  deriving DecidableEq, Repr, Inhabited

/-- The name of an online status. -/
def OnlineStatus.name : OnlineStatus → String
  | .online => "online"
  | .offline => "offline"
  | .unstable => "unstable"

/-- A chunk server as the metadata service lists it. -/
structure ChunkServer where
  address : String
  status : OnlineStatus
  deriving DecidableEq, Repr, Inhabited

/-- Where a copyset belongs: a logical pool and a number within it. -/
structure Location where
  pool : UInt32
  copyset : UInt32
  deriving DecidableEq, Repr, Inhabited

/-- The group id of a location. -/
def Location.groupId (l : Location) : GroupId :=
  .pack l.pool l.copyset

/-- A host that holds a replica. -/
structure PeerEndpoint where
  ip : String
  port : UInt16
  deriving DecidableEq, Repr, Inhabited

/-- The address of the chunk server on a host. -/
def PeerEndpoint.address (peer : PeerEndpoint) : String :=
  peer.ip ++ ":" ++ peer.port.toNat.repr

/-- The chunk server of a raft peer: what stands before the second colon, or everything where
there are fewer than two. -/
def serverAddress (peer : String) : String :=
  match Text.cut [':'] peer.toList with
  | none => peer
  | some (ip, rest) =>
    match Text.cut [':'] rest with
    | none => peer
    | some (port, _) => String.ofList (ip ++ ':' :: port)

/-- The configured replicas of one copyset of a pool. -/
structure Members where
  copyset : UInt32
  peers : List PeerEndpoint
  deriving DecidableEq, Repr, Inhabited

/-- A copyset as the metadata service lists it, with the outcome of its last scan. -/
structure ScanStatus where
  pool : UInt32
  copyset : UInt32
  /-- The second of the last completed scan, zero before the first one. -/
  lastScan : UInt64
  consistent : Bool
  deriving DecidableEq, Repr, Inhabited

namespace ScanStatus

/-- The group id of a listed copyset. -/
def groupId (s : ScanStatus) : GroupId :=
  .pack s.pool s.copyset

/-- A copyset is inconsistent only if it has been scanned and its replicas disagreed. -/
def isInconsistent (s : ScanStatus) : Bool :=
  s.lastScan != 0 && !s.consistent

end ScanStatus

/-- The copyset health of a whole cluster in three numbers. -/
structure HealthSnapshot where
  healthy : Bool
  total : UInt32
  unhealthy : UInt32
  deriving DecidableEq, Repr, Inhabited

end CopysetWatch
