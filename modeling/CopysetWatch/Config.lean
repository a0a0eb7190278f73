import CopysetWatch.Alert.Settings
import CopysetWatch.Check.Settings
import CopysetWatch.Json.Format

/-!
# Configuration

What a monitor is told at its start: the cluster, the settings of the health check, the defaults
of the alerts, and how to log. A configuration is read from JSON, where everything but the cluster
may be left out, and is valid if it names a cluster and has no zero where a time or a count is
needed.
-/

namespace CopysetWatch

open Json

/-- How to log. -/
structure Logging where
  level : String := "info"
  json : Bool := false
  deriving DecidableEq, Repr, Inhabited

/-- The configuration of a monitor. -/
structure Config where
  /-- The name of the cluster that is monitored. -/
  cluster : String := "default"
  check : CheckSettings := {}
  alerting : Alert.Defaults := {}
  logging : Logging := {}
  deriving DecidableEq, Repr, Inhabited

/-- The fields of the settings of a health check. -/
def CheckSettings.fields : List Field :=
  [.of "raft_status_timeout" Format.duration, .of "gateway_timeout" Format.duration,
    .of "replication_factor" Format.uint64, .of "log_gap_margin" Format.uint64]

/-- Settings of a health check. -/
def CheckSettings.format : Format CheckSettings where
  encode s := .ofMembers [("raft_status_timeout", Format.duration.encode s.raftTimeout),
    ("gateway_timeout", Format.duration.encode s.gatewayTimeout),
    ("replication_factor", Format.uint64.encode s.replicationFactor),
    ("log_gap_margin", Format.uint64.encode s.logGapMargin)]
  decode j := do
    let found ← Field.find fields j
    return {
      raftTimeout := ← Field.get found "raft_status_timeout" Format.duration
      gatewayTimeout := ← Field.get found "gateway_timeout" Format.duration
      replicationFactor := ← Field.get found "replication_factor" Format.uint64
      logGapMargin := ← Field.get found "log_gap_margin" Format.uint64 }

/-- The fields of the defaults of alerts. -/
def Alert.Defaults.fields : List Field :=
  [.of "reload_interval" Format.duration, .of "default_interval_secs" Format.uint64,
    .of "default_trigger_times" Format.uint32, .of "capacity_rule" Format.text]

/-- Defaults of alerts. -/
def Alert.Defaults.format : Format Alert.Defaults where
  encode d := .ofMembers [("reload_interval", Format.duration.encode d.reloadInterval),
    ("default_interval_secs", Format.uint64.encode d.intervalSecs),
    ("default_trigger_times", Format.uint32.encode d.triggerTimes),
    ("capacity_rule", Format.text.encode d.capacityRule)]
  decode j := do
    let found ← Field.find fields j
    return {
      reloadInterval := ← Field.get found "reload_interval" Format.duration
      intervalSecs := ← Field.get found "default_interval_secs" Format.uint64
      triggerTimes := ← Field.get found "default_trigger_times" Format.uint32
      capacityRule := ← Field.get found "capacity_rule" Format.text }

/-- The fields of the way to log. -/
def Logging.fields : List Field :=
  [.of "log_level" Format.text, .of "json_logs" Format.bool]

/-- Ways to log. -/
def Logging.format : Format Logging where
  encode l := .ofMembers [("log_level", Format.text.encode l.level),
    ("json_logs", Format.bool.encode l.json)]
  decode j := do
    let found ← Field.find fields j
    return {
      level := ← Field.get found "log_level" Format.text
      json := ← Field.get found "json_logs" Format.bool }

namespace Config

/-- Cluster names, each as a record of its own. -/
def clusterFormat : Format String where
  encode name := .ofMembers [("name", Format.text.encode name)]
  decode j := do
    let found ← Field.find [.of "name" Format.text] j
    Field.get found "name" Format.text

/-- The fields of a configuration. -/
def fields : List Field :=
  [.of "cluster" clusterFormat, .optional "checker" CheckSettings.format,
    .optional "alerting" Alert.Defaults.format, .optional "observability" Logging.format]

/-- Configurations. -/
def format : Format Config where
  encode c := .ofMembers [("cluster", clusterFormat.encode c.cluster),
    ("checker", CheckSettings.format.encode c.check),
    ("alerting", Alert.Defaults.format.encode c.alerting),
    ("observability", Logging.format.encode c.logging)]
  decode j := do
    let found ← Field.find fields j
    return {
      cluster := ← Field.get found "cluster" clusterFormat
      check := ← Field.getD found "checker" CheckSettings.format {}
      alerting := ← Field.getD found "alerting" Alert.Defaults.format {}
      logging := ← Field.getD found "observability" Logging.format {} }

/-- The configuration of a development cluster, with short times. -/
def development : Config where
  cluster := "dev-cluster"
  check := { raftTimeout := .ofSeconds 2, gatewayTimeout := .ofSeconds 2 }
  alerting := { reloadInterval := .ofSeconds 10, intervalSecs := 10, triggerTimes := 1 }
  logging := { level := "debug" }

/-- Refuses a configuration that no monitor can run by, for the first reason in order. -/
def validate (c : Config) : Except Fault Unit :=
  if (Text.trim c.cluster.toList).isEmpty then
    .error (.invalidConfig "cluster.name" "Cluster name must not be empty")
  else if c.check.raftTimeout.isZero then
    .error (.invalidConfig "checker.raft_status_timeout" "Timeout must be non-zero")
  else if c.check.gatewayTimeout.isZero then
    .error (.invalidConfig "checker.gateway_timeout" "Timeout must be non-zero")
  else if c.check.replicationFactor = 0 then
    .error (.invalidConfig "checker.replication_factor" "Replication factor must be non-zero")
  else if c.alerting.intervalSecs = 0 then
    .error (.invalidConfig "alerting.default_interval_secs" "Alert interval must be non-zero")
  else if c.alerting.triggerTimes = 0 then
    .error (.invalidConfig "alerting.default_trigger_times" "Trigger times must be non-zero")
  else if c.alerting.reloadInterval.isZero then
    .error (.invalidConfig "alerting.reload_interval" "Reload interval must be non-zero")
  else .ok ()

/-- A configuration that is valid. -/
def validated (c : Config) : Except Fault Config :=
  match c.validate with
  | .ok () => .ok c
  | .error f => .error f

/-- The configuration that a text writes, whether valid or not. -/
def parse (text : String) : Outcome Fault Config :=
  match format.parse text with
  | .value c => .value c
  | .fault f => .fault (.serialization f.message)
  | .panic => .panic

/-- The valid configuration that a file of these bytes holds, if there is a file. -/
def ofFile (content : Option ByteArray) : Outcome Fault Config :=
  match content with
  | none => .fault (.config "Failed to read config file: No such file or directory (os error 2)")
  | some bytes =>
    match String.fromUTF8? bytes with
    | none => .fault (.config "Failed to read config file: stream did not contain valid UTF-8")
    | some text =>
      match format.parse text with
      | .fault f => .fault (.config ("Failed to parse config: " ++ f.message))
      | .panic => .panic
      | .value c => .ofExcept c.validated

end Config

end CopysetWatch
