import CopysetWatch.Alert.Store
import CopysetWatch.Json.Format
import CopysetWatch.Timestamp

/-!
# Formats of alerts

How alerts and the settings stored for them are written as JSON.
-/

namespace CopysetWatch.Alert

open Json

/-- Severities, by name. -/
def Severity.format : Format Severity :=
  .oneOf ([.warning, .critical].map fun s => (Severity.name s, s))

/-- Services, by name. -/
def Service.format : Format Service :=
  .oneOf (Service.all.map fun s => (s.name, s))

/-- Alert kinds, as texts. -/
def Kind.format : Format Kind where
  encode kind := .ofText kind.name
  decode j := do
    let name ← Format.text.decode j
    match Kind.ofName? name with
    | some kind => return kind
    | none => .fault (.unknownAlertKind name)

/-- The fields of a settings record. -/
def SettingsRecord.fields : List Field :=
  [.of "kind" Format.text, .of "enabled" Format.bool, .of "interval_secs" Format.uint64,
    .of "trigger_times" Format.uint32, .optional "rule" Format.text]

/-- Settings records, in which the rule may be left out. -/
def SettingsRecord.format : Format SettingsRecord where
  encode r := .ofMembers [("kind", Format.text.encode r.kind),
    ("enabled", Format.bool.encode r.enabled),
    ("interval_secs", Format.uint64.encode r.intervalSecs),
    ("trigger_times", Format.uint32.encode r.triggerTimes),
    ("rule", Format.text.encode r.rule)]
  decode j := do
    let found ← Field.find fields j
    return {
      kind := ← Field.get found "kind" Format.text
      enabled := ← Field.get found "enabled" Format.bool
      intervalSecs := ← Field.get found "interval_secs" Format.uint64
      triggerTimes := ← Field.get found "trigger_times" Format.uint32
      rule := ← Field.getD found "rule" Format.text "" }

end CopysetWatch.Alert

namespace CopysetWatch.Timestamp

open Json

/-- Instants, as texts. -/
def format : Format Timestamp where
  encode t := .ofText t.text
  decode j := do
    let written ← Format.text.decode j
    match Timestamp.parse written with
    | some t => return t
    | none => .fault .malformed

end CopysetWatch.Timestamp

namespace CopysetWatch.Alert

open Json

/-- An emitted alert with the instant at which it fired. -/
structure FiredAlert extends Emission where
  firedAt : Timestamp
  deriving DecidableEq, Repr, Inhabited

/-- The fields of a fired alert. -/
def FiredAlert.fields : List Field :=
  [.of "cluster" Format.text, .of "kind" Kind.format, .of "severity" Severity.format,
    .of "message" Format.text, .of "fired_at" Timestamp.format]

/-- Fired alerts. -/
def FiredAlert.format : Format FiredAlert where
  encode a := .ofMembers [("cluster", Format.text.encode a.cluster),
    ("kind", Kind.format.encode a.kind), ("severity", Severity.format.encode a.severity),
    ("message", Format.text.encode a.message), ("fired_at", Timestamp.format.encode a.firedAt)]
  decode j := do
    let found ← Field.find fields j
    return {
      cluster := ← Field.get found "cluster" Format.text
      kind := ← Field.get found "kind" Kind.format
      severity := ← Field.get found "severity" Severity.format
      message := ← Field.get found "message" Format.text
      firedAt := ← Field.get found "fired_at" Timestamp.format }

end CopysetWatch.Alert
