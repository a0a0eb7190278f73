import CopysetWatch.Alert.Kind
import CopysetWatch.Check.Judgement

/-!
# Metrics

What a monitor publishes about itself. A completed health check sets five gauges of its cluster,
and a failed one only counts. Emitted alerts and evaluations that decided nothing are counted by
cluster and kind.
-/

namespace CopysetWatch

/-- A published number: what it counts or measures, for which cluster and which alert kind. -/
inductive Series where
  | copysetsTotal (cluster : String)
  | copysetsUnhealthy (cluster : String)
  | checkHealthy (cluster : String)
  | serviceExceptions (cluster : String)
  | loadExceptions (cluster : String)
  | checksFailed (cluster : String)
  | alertsEmitted (cluster : String) (kind : Alert.Kind)
  | evaluationsFailed (cluster : String) (kind : Alert.Kind)
  deriving DecidableEq, Repr

namespace Series

/-- A series name with its label for the cluster. -/
def clusterText (name cluster : String) : String :=
  name ++ "\x7bcluster=" ++ cluster ++ "\x7d"

/-- A series name with its labels for the cluster and the kind. -/
def kindText (name cluster : String) (kind : Alert.Kind) : String :=
  name ++ "\x7bcluster=" ++ cluster ++ ",kind=" ++ kind.name ++ "\x7d"

/-- The name of a series with its labels. -/
def text : Series → String
  | .copysetsTotal cluster => clusterText "cairn_copysets_total" cluster
  | .copysetsUnhealthy cluster => clusterText "cairn_copysets_unhealthy" cluster
  | .checkHealthy cluster => clusterText "cairn_copyset_check_healthy" cluster
  | .serviceExceptions cluster => clusterText "cairn_chunkservers_service_exception" cluster
  | .loadExceptions cluster => clusterText "cairn_chunkservers_load_exception" cluster
  | .checksFailed cluster => clusterText "cairn_copyset_check_failed_total" cluster
  | .alertsEmitted cluster kind => kindText "cairn_alerts_emitted_total" cluster kind
  | .evaluationsFailed cluster kind =>
    kindText "cairn_alert_evaluations_failed_total" cluster kind

end Series

/-- The numbers published so far, each series once. -/
structure Metrics where
  entries : List (Series × Nat) := []
  deriving DecidableEq, Repr, Inhabited

namespace Metrics

/-- The number published under a series. -/
def get? (m : Metrics) (s : Series) : Option Nat :=
  m.entries.lookup s

/-- Publishes a number in place of any under the same series. -/
def set (m : Metrics) (s : Series) (value : Nat) : Metrics :=
  ⟨(s, value) :: m.entries.filter (·.1 != s)⟩

/-- Counts one more under a series. -/
def count (m : Metrics) (s : Series) : Metrics :=
  m.set s ((m.get? s).getD 0 + 1)

/-- Publishes what a health check of a cluster came to. -/
def recordCheck (m : Metrics) (cluster : String) : Except Fault Registry → Metrics
  | .error _ => m.count (.checksFailed cluster)
  | .ok r =>
    ((((m.set (.copysetsTotal cluster) r.totalCount).set
      (.copysetsUnhealthy cluster) r.unhealthyCount).set
      (.checkHealthy cluster) (if r.isHealthy then 1 else 0)).set
      (.serviceExceptions cluster) r.serviceExceptions.size).set
      (.loadExceptions cluster) r.loadExceptions.size

/-- The published numbers with the names of their series, in the order of the names. -/
def listing (m : Metrics) : List (String × Nat) :=
  stableSort (fun a b => !decide (b.1 < a.1)) (m.entries.map fun entry => (entry.1.text, entry.2))

end Metrics

end CopysetWatch
