import CopysetWatch.Cluster
import CopysetWatch.Inquiry
import CopysetWatch.Raft.Record

/-!
# Gateway

The gateway is how a cluster is seen: what the metadata service says about chunk servers and
copysets, and what each chunk server says about its replicas. It is given as it answers the
questions asked at one moment; every answer may take its time, fail or panic.
-/

namespace CopysetWatch

/-- The answers to the questions asked at one moment. -/
structure Gateway where
  /-- The chunk servers of the cluster. -/
  servers : Reply (List ChunkServer)
  /-- The copysets that the metadata service places on a chunk server. -/
  assignments : String → Reply (List Location)
  /-- The configured replicas of some copysets of a pool. -/
  members : UInt32 → List UInt32 → Reply (List Members)
  /-- Every copyset of the cluster with the outcome of its last scan. -/
  copysets : Reply (List ScanStatus)
  /-- What a chunk server reports about its replicas. -/
  raftStatus : String → Reply (List Raft.Fields)

end CopysetWatch
