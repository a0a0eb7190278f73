import CopysetWatch.Alert.Kind
import CopysetWatch.Duration
import CopysetWatch.Fault

/-!
# Settings of alerts

Each alert kind runs by its own settings: whether it is enabled, how long it waits between two
evaluations, how many problems make an alert, and a rule that only the capacity kind reads. Settings
come from the last valid record that is stored for the kind, or from the defaults of the monitor
where there is none.
-/

namespace CopysetWatch.Alert

/-- The settings that are stored for one alert kind of a cluster. -/
structure SettingsRecord where
  /-- The name of the alert kind, which need not be a known one. -/
  kind : String
  enabled : Bool
  intervalSecs : UInt64
  triggerTimes : UInt32
  rule : String
  deriving DecidableEq, Repr, Inhabited

/-- What a monitor uses for the alert kinds without stored settings, and how often it reloads
the stored ones. -/
structure Defaults where
  reloadInterval : Duration := .ofSeconds 60
  intervalSecs : UInt64 := 60
  triggerTimes : UInt32 := 3
  /-- The used percentage from which on capacity is a problem. -/
  capacityRule : String := "80"
  deriving DecidableEq, Repr, Inhabited

/-- The settings that one alert kind runs by. -/
structure Settings where
  enabled : Bool
  interval : Duration
  triggerTimes : UInt32
  rule : String
  deriving DecidableEq, Repr, Inhabited

namespace Settings

/-- The settings of a kind with nothing stored. -/
def ofDefaults (kind : Kind) (d : Defaults) : Settings where
  enabled := true
  interval := .ofSeconds d.intervalSecs.toNat
  triggerTimes := d.triggerTimes
  rule := if kind = .clusterCapacity then d.capacityRule else ""

/-- The settings that a record holds, unless its interval or its trigger count is zero. -/
def ofRecord (r : SettingsRecord) : Except Fault Settings :=
  if r.intervalSecs = 0 then
    .error (.invalidConfig (r.kind ++ ".interval_secs") "Alert interval must be non-zero")
  else if r.triggerTimes = 0 then
    .error (.invalidConfig (r.kind ++ ".trigger_times") "Trigger times must be non-zero")
  else .ok ⟨r.enabled, .ofSeconds r.intervalSecs.toNat, r.triggerTimes, r.rule⟩

/-- The settings that a record holds for a kind, if it is a valid record of that kind. -/
def ofRecordFor? (kind : Kind) (r : SettingsRecord) : Option Settings :=
  if Kind.ofName? r.kind = some kind then (ofRecord r).toOption else none

/-- The settings that a kind runs by when these records are stored. -/
def inForce (d : Defaults) (stored : List SettingsRecord) (kind : Kind) : Settings :=
  ((stored.filterMap (ofRecordFor? kind)).getLast?).getD (ofDefaults kind d)

/-- How many milliseconds an alert kind waits between two evaluations. The clock rounds a shorter
wait up to one; no interval that comes from valid defaults or from a record is that short. -/
def wait (s : Settings) : Nat :=
  max 1 s.interval.millis

end Settings

end CopysetWatch.Alert
