import CopysetWatch.Alert.Settings

/-!
# Alert store

The store keeps the settings of the alert kinds by cluster and the alerts that were emitted. It
can be made to fail, either when settings are loaded or when alerts are emitted; a failed
emission leaves no alert behind.
-/

namespace CopysetWatch.Alert

/-- An alert that was emitted. -/
structure Emission where
  cluster : String
  kind : Kind
  severity : Severity
  message : String
  deriving DecidableEq, Repr, Inhabited

/-- The emission of a message of a kind, as urgent as the kind. -/
def Emission.of (cluster : String) (kind : Kind) (message : String) : Emission :=
  ⟨cluster, kind, kind.severity, message⟩

/-- Emissions by kind, and those of a kind by message. -/
def Emission.sort (emissions : List Emission) : List Emission :=
  stableSort (fun a b => decide (a.kind.rank < b.kind.rank) ||
    (a.kind.rank == b.kind.rank && !decide (b.message < a.message))) emissions

/-- Stored settings and emitted alerts. -/
structure Store where
  /-- The records of each cluster, in the order in which they were put. -/
  settings : String → List SettingsRecord := fun _ => []
  /-- The alerts, in the order in which they were emitted. -/
  emissions : List Emission := []
  failsLoads : Bool := false
  failsEmissions : Bool := false

namespace Store

instance : Inhabited Store := ⟨{}⟩

/-- Sets the records of one cluster. -/
def withRecords (s : Store) (cluster : String) (records : List SettingsRecord) : Store :=
  { s with settings := fun c => if c = cluster then records else s.settings c }

/-- Stores a record in place of any of the same kind. -/
def put (s : Store) (cluster : String) (record : SettingsRecord) : Store :=
  s.withRecords cluster ((s.settings cluster).filter (·.kind != record.kind) ++ [record])

/-- Forgets what is stored for a kind. -/
def remove (s : Store) (cluster : String) (kind : Kind) : Store :=
  s.withRecords cluster ((s.settings cluster).filter (·.kind != kind.name))

/-- The records of a cluster. -/
def load (s : Store) (cluster : String) : Except Fault (List SettingsRecord) :=
  if s.failsLoads then .error (.alertStore "alert config unavailable")
  else .ok (s.settings cluster)

/-- Whether an alert that is emitted now is stored. -/
def accepts (s : Store) : Bool :=
  !s.failsEmissions

/-- Adds an alert to the emitted ones. -/
def add (s : Store) (e : Emission) : Store :=
  { s with emissions := s.emissions ++ [e] }

/-- Emits an alert. -/
def emit (s : Store) (e : Emission) : Except Fault Store :=
  if s.accepts then .ok (s.add e)
  else .error (.notification ("could not deliver " ++ e.kind.name ++ " alert"))

/-- The alerts of a kind, in the order in which they were emitted. -/
def emissionsOf (s : Store) (kind : Kind) : List Emission :=
  s.emissions.filter (·.kind == kind)

end Store

end CopysetWatch.Alert
