import CopysetWatch.Cluster
import CopysetWatch.Classification
import CopysetWatch.Json.Format

/-!
# Formats of the parts of a cluster

How chunk servers, copysets and their health are written as JSON.
-/

namespace CopysetWatch

open Json

/-- Group ids, as numbers. -/
def GroupId.format : Format GroupId where
  encode id := Format.uint64.encode id.raw
  decode j := (Format.uint64.decode j).map GroupId.mk

/-- Online statuses, by name. -/
def OnlineStatus.format : Format OnlineStatus :=
  .oneOf ([.online, .offline, .unstable].map fun s => (OnlineStatus.name s, s))

/-- The fields of a chunk server. -/
def ChunkServer.fields : List Field :=
  [.of "address" Format.text, .of "online_status" OnlineStatus.format]

/-- Chunk servers. -/
def ChunkServer.format : Format ChunkServer where
  encode s := .ofMembers [("address", Format.text.encode s.address),
    ("online_status", OnlineStatus.format.encode s.status)]
  decode j := do
    let found ← Field.find fields j
    return {
      address := ← Field.get found "address" Format.text
      status := ← Field.get found "online_status" OnlineStatus.format }

/-- The fields of a location. -/
def Location.fields : List Field :=
  [.of "pool_id" Format.uint32, .of "copyset_id" Format.uint32]

/-- Locations. -/
def Location.format : Format Location where
  encode l := .ofMembers [("pool_id", Format.uint32.encode l.pool),
    ("copyset_id", Format.uint32.encode l.copyset)]
  decode j := do
    let found ← Field.find fields j
    return {
      pool := ← Field.get found "pool_id" Format.uint32
      copyset := ← Field.get found "copyset_id" Format.uint32 }

/-- The fields of a peer endpoint. -/
def PeerEndpoint.fields : List Field :=
  [.of "host_ip" Format.text, .of "port" Format.uint16]

/-- Peer endpoints. -/
def PeerEndpoint.format : Format PeerEndpoint where
  encode p := .ofMembers [("host_ip", Format.text.encode p.ip),
    ("port", Format.uint16.encode p.port)]
  decode j := do
    let found ← Field.find fields j
    return {
      ip := ← Field.get found "host_ip" Format.text
      port := ← Field.get found "port" Format.uint16 }

/-- The fields of the members of a copyset. -/
def Members.fields : List Field :=
  [.of "copyset_id" Format.uint32, .of "peers" (Format.list PeerEndpoint.format)]

/-- Members of copysets. -/
def Members.format : Format Members where
  encode m := .ofMembers [("copyset_id", Format.uint32.encode m.copyset),
    ("peers", (Format.list PeerEndpoint.format).encode m.peers)]
  decode j := do
    let found ← Field.find fields j
    return {
      copyset := ← Field.get found "copyset_id" Format.uint32
      peers := ← Field.get found "peers" (Format.list PeerEndpoint.format) }

/-- The fields of a listed copyset. -/
def ScanStatus.fields : List Field :=
  [.of "pool_id" Format.uint32, .of "copyset_id" Format.uint32,
    .of "last_scan_sec" Format.uint64, .of "last_scan_consistent" Format.bool]

/-- Listed copysets. -/
def ScanStatus.format : Format ScanStatus where
  encode s := .ofMembers [("pool_id", Format.uint32.encode s.pool),
    ("copyset_id", Format.uint32.encode s.copyset),
    ("last_scan_sec", Format.uint64.encode s.lastScan),
    ("last_scan_consistent", Format.bool.encode s.consistent)]
  decode j := do
    let found ← Field.find fields j
    return {
      pool := ← Field.get found "pool_id" Format.uint32
      copyset := ← Field.get found "copyset_id" Format.uint32
      lastScan := ← Field.get found "last_scan_sec" Format.uint64
      consistent := ← Field.get found "last_scan_consistent" Format.bool }

/-- The fields of a health snapshot. -/
def HealthSnapshot.fields : List Field :=
  [.of "healthy" Format.bool, .of "copysetTotal" Format.uint32,
    .of "copysetUnhealthy" Format.uint32]

/-- Health snapshots. -/
def HealthSnapshot.format : Format HealthSnapshot where
  encode s := .ofMembers [("healthy", Format.bool.encode s.healthy),
    ("copysetTotal", Format.uint32.encode s.total),
    ("copysetUnhealthy", Format.uint32.encode s.unhealthy)]
  decode j := do
    let found ← Field.find fields j
    return {
      healthy := ← Field.get found "healthy" Format.bool
      total := ← Field.get found "copysetTotal" Format.uint32
      unhealthy := ← Field.get found "copysetUnhealthy" Format.uint32 }

namespace Classification

/-- The classes that are written by name alone. -/
def named : List (String × Classification) :=
  [("total", .total), ("healthy", .healthy), ("no_leader", .problem .noLeader),
    ("peers_insufficient", .problem .peersInsufficient),
    ("log_index_gap_too_big", .problem .logIndexGapTooBig),
    ("installing_snapshot", .problem .installingSnapshot),
    ("minority_peer_offline", .problem .minorityPeerOffline),
    ("majority_peer_offline", .problem .majorityPeerOffline),
    ("parse_error", .problem .parseError), ("inconsistent", .problem .inconsistent)]

/-- The variant that carries the name of a state. -/
def otherStateKey : String :=
  "other_state"

/-- Classes: the named ones by name, and one after a state as an object with its name. -/
def format : Format Classification where
  encode
    | .problem (.otherState name) => .ofMembers [(otherStateKey, .ofText name)]
    | c => .ofText (((named.find? fun entry => entry.2 = c).map Prod.fst).getD "")
  decode j := do
    let (name, content) ← Format.decodeVariant j
    if name = otherStateKey then
      match content with
      | (some carried, rest) =>
        let state ← Format.text.decode carried
        match rest with
        | .closed => return .problem (.otherState state)
        | _ => .fault .malformed
      | (none, _) => .fault .malformed
    else
      match named.lookup name with
      | some c => Format.decodeBare c content
      | none => .fault (.unknownVariant name (named.map Prod.fst ++ [otherStateKey]))

end Classification

end CopysetWatch
