import CopysetWatch.StableSort

/-!
# Alert kinds

What an alert can be about: the health of the copysets, the capacity that is used, and for each
service whether it has exactly one leader and whether all its endpoints can be reached.
-/

namespace CopysetWatch.Alert

/-- How urgent an alert is. -/
inductive Severity where
  /-- Degraded. -/
  | warning
  /-- Data may be unavailable. -/
  | critical
  deriving DecidableEq, Repr, Inhabited

/-- The name of a severity. -/
def Severity.name : Severity → String
  | .warning => "warning"
  | .critical => "critical"

/-- The more urgent one of two severities. -/
def Severity.max : Severity → Severity → Severity
  | .warning, s => s
  | .critical, _ => .critical

/-- A service whose endpoints are watched. -/
inductive Service where
  | etcd
  | mds
  | snapshotClone
  deriving DecidableEq, Repr, Inhabited

namespace Service

/-- All services, in their order. -/
def all : List Service :=
  [.etcd, .mds, .snapshotClone]

/-- The name of a service. -/
def name : Service → String
  | .etcd => "etcd"
  | .mds => "mds"
  | .snapshotClone => "snapshot_clone"

end Service

/-- What an alert is about. -/
inductive Kind where
  | clusterHealth
  | clusterCapacity
  /-- A service that does not have exactly one leader. -/
  | leader (service : Service)
  /-- A service with endpoints that cannot be reached. -/
  | offline (service : Service)
  deriving DecidableEq, Repr, Inhabited

namespace Kind

/-- All kinds, service by service. -/
def all : List Kind :=
  [.clusterHealth, .clusterCapacity, .leader .etcd, .offline .etcd, .leader .mds, .offline .mds,
    .leader .snapshotClone, .offline .snapshotClone]

/-- All kinds in their order, in which every question of leadership comes before every question
of reachability. -/
def ordered : List Kind :=
  [.clusterHealth, .clusterCapacity] ++ Service.all.map leader ++ Service.all.map offline

/-- The place of a kind in the order. -/
def rank (kind : Kind) : Nat :=
  ordered.idxOf kind

/-- The name under which a kind is stored. -/
def name : Kind → String
  | .clusterHealth => "cluster_health"
  | .clusterCapacity => "cluster_capacity"
  | .leader service => service.name ++ "_leader"
  | .offline service => service.name ++ "_offline"

/-- The kind of a name. -/
def ofName? (name : String) : Option Kind :=
  all.find? fun kind => kind.name == name

/-- How urgent an alert of a kind is. -/
def severity : Kind → Severity
  | .clusterHealth | .leader _ => .critical
  | .clusterCapacity | .offline _ => .warning

/-- The kinds in their order. -/
def sort (kinds : List Kind) : List Kind :=
  stableSort (fun a b => decide (a.rank ≤ b.rank)) kinds

/-- The most urgent severity among some kinds. -/
def maxSeverity? (kinds : List Kind) : Option Severity :=
  kinds.foldl (fun found kind => some (kind.severity.max (found.getD .warning))) none

theorem ofName?_name (kind : Kind) : ofName? kind.name = some kind := by
  cases kind with
  | clusterHealth => decide
  | clusterCapacity => decide
  | leader service => cases service <;> decide
  | offline service => cases service <;> decide

end Kind

end CopysetWatch.Alert
