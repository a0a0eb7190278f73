import CopysetWatch.Check.Settings
import CopysetWatch.Cluster
import CopysetWatch.Raft.Record
import CopysetWatch.Registry

/-!
# Standing of a copyset

How one account of a copyset is judged. Peers are judged by how many of their chunk servers
reported the copyset. A leader's record is judged by the number of its peers, then by its peers,
then by whether it can be read, and last by how far its followers lag behind. That comparison of
logs panics where its arithmetic overflows, and what is judged here counts only where it does not.
-/

namespace CopysetWatch.Check

/-- How many peers have a chunk server that did not report the copyset; a peer that is listed
twice counts twice. -/
def offlineCount (reports : Reports) (id : GroupId) (peers : List String) : Nat :=
  (peers.filter fun peer => !reports (serverAddress peer) id).length

/-- The problem of a copyset as far as its peers show: half of them or fewer may be offline
before the majority is. -/
def peerStanding (reports : Reports) (id : GroupId) (peers : List String) : Option Problem :=
  if offlineCount reports id peers = 0 then none
  else if offlineCount reports id peers < (peers.length + 2) / 2 then some .minorityPeerOffline
  else some .majorityPeerOffline

/-- The problem of the first replicator that is not plainly replicating. -/
def replicatorStanding : List Raft.Replicator → Option Problem
  | [] => none
  | .installingSnapshot :: _ => some .installingSnapshot
  | .malformed _ :: _ => some .parseError
  | .replicating .. :: rest => replicatorStanding rest

/-- The widest gap between the log up to an index and a follower; a follower that is ahead has
no gap. -/
def widestGap (lastIndex : UInt64) (replicators : List Raft.Replicator) : Int64 :=
  replicators.foldl (fun widest replicator =>
    match replicator.gap lastIndex with
    | some gap => if widest < gap then gap else widest
    | none => widest) 0

/-- The problem of a copyset as far as its followers' logs show. -/
def logStanding (margin lastIndex : UInt64) (replicators : List Raft.Replicator) :
    Option Problem :=
  match replicatorStanding replicators with
  | some p => some p
  | none =>
    if margin.toInt64 < widestGap lastIndex replicators then some .logIndexGapTooBig else none

/-- Whether comparing the followers' logs overflows before a replicator decides. -/
def logOverflows (lastIndex : UInt64) : List Raft.Replicator → Bool
  | [] => false
  | .replicating next flying :: rest =>
    Raft.Replicator.overflows lastIndex (.replicating next flying) || logOverflows lastIndex rest
  | _ :: _ => false

/-- The problem of a copyset as its leader's record shows it. -/
def leaderStanding (settings : CheckSettings) (reports : Reports) (record : Raft.Record) :
    Option Problem :=
  if record.peers.length < settings.replicationFactor.toNat then some .peersInsufficient
  else
    match peerStanding reports record.groupId record.peers with
    | some p => some p
    | none =>
      match record.lastLogId with
      | none => some .parseError
      | some last => logStanding settings.logGapMargin last.index record.replicators

/-- Whether judging a leader's record overflows, which it can only where nothing else decides
before its followers' logs are compared. -/
def leaderOverflows (settings : CheckSettings) (reports : Reports) (record : Raft.Record) : Bool :=
  settings.replicationFactor.toNat ≤ record.peers.length &&
    (peerStanding reports record.groupId record.peers).isNone &&
    record.lastLogId.any fun last => logOverflows last.index record.replicators

end CopysetWatch.Check
