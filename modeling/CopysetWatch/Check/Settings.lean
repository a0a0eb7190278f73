import CopysetWatch.Duration

/-!
# Settings of a health check

How long a health check waits for its answers, how many replicas it expects, and how far a
follower may lag behind its leader.
-/

namespace CopysetWatch

/-- The settings of a health check. -/
structure CheckSettings where
  /-- How long a chunk server may take to report its raft status. -/
  raftTimeout : Duration := .ofSeconds 5
  /-- How long the gateway may take for each request of a group. -/
  gatewayTimeout : Duration := .ofSeconds 5
  /-- How many replicas a healthy copyset has at least. -/
  replicationFactor : UInt64 := 3
  /-- The widest gap between a leader's log and a follower's that is tolerated. -/
  logGapMargin : UInt64 := 1000
  deriving DecidableEq, Repr, Inhabited

end CopysetWatch
