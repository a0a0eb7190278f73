import CopysetWatch.Proofs.Formats

/-!
# Writing and reading

Reading undoes writing, for every type that is written as JSON and every value of it, apart from
durations and instants that have no text of their own. So a text that is read at all has a normal
form: the text of what it is read as, which is read as the same value and is its own normal form.
-/

namespace CopysetWatch

open Json

namespace Json.Format

variable {α : Type}

/-- The normal form of a text: the text of what it is read as. -/
def normalize (f : Format α) (text : String) : Outcome DecodeFault String :=
  (f.parse text).map f.print

theorem normalize_of_parse {f : Format α} {text : String} {a : α} (h : f.parse text = .value a) :
    f.normalize text = .value (f.print a) := by
  rw [normalize, h]
  rfl

end Json.Format

/-- The types that are written as JSON. -/
inductive DataType where
  | groupId
  | onlineStatus
  | chunkServer
  | location
  | peerEndpoint
  | members
  | scanStatus
  | healthSnapshot
  | classification
  | severity
  | service
  | kind
  | settingsRecord
  | firedAlert
  | checkSettings
  | defaults
  | logging
  | config
  deriving DecidableEq, Repr

namespace DataType

/-- The values of a type. -/
def Value : DataType → Type
  | groupId => GroupId
  | onlineStatus => OnlineStatus
  | chunkServer => ChunkServer
  | location => Location
  | peerEndpoint => PeerEndpoint
  | members => Members
  | scanStatus => ScanStatus
  | healthSnapshot => HealthSnapshot
  | classification => Classification
  | severity => Alert.Severity
  | service => Alert.Service
  | kind => Alert.Kind
  | settingsRecord => Alert.SettingsRecord
  | firedAlert => Alert.FiredAlert
  | checkSettings => CheckSettings
  | defaults => Alert.Defaults
  | logging => Logging
  | config => Config

/-- The format of a type. -/
def format : (t : DataType) → Format t.Value
  | groupId => GroupId.format
  | onlineStatus => OnlineStatus.format
  | chunkServer => ChunkServer.format
  | location => Location.format
  | peerEndpoint => PeerEndpoint.format
  | members => Members.format
  | scanStatus => ScanStatus.format
  | healthSnapshot => HealthSnapshot.format
  | classification => Classification.format
  | severity => Alert.Severity.format
  | service => Alert.Service.format
  | kind => Alert.Kind.format
  | settingsRecord => Alert.SettingsRecord.format
  | firedAlert => Alert.FiredAlert.format
  | checkSettings => CheckSettings.format
  | defaults => Alert.Defaults.format
  | logging => Logging.format
  | config => Config.format

/-- The durations of a value are ones that some text writes, and its instant is an ordinary one.
Most types have neither. -/
def IsOrdinary : (t : DataType) → t.Value → Prop
  | firedAlert, (a : Alert.FiredAlert) => a.firedAt.IsOrdinary
  | checkSettings, (s : CheckSettings) => s.IsWritten
  | defaults, (d : Alert.Defaults) => d.IsWritten
  | config, (c : Config) => c.IsWritten
  | _, _ => True

/-- The instant of a value, if it has one, lies in a year of four digits. -/
def IsDated : (t : DataType) → t.Value → Prop
  | firedAlert, (a : Alert.FiredAlert) => 0 ≤ a.firedAt.year ∧ a.firedAt.year ≤ 9999
  | _, _ => True

/-- An ordinary value is restored by the format of its type. -/
theorem format_restores {t : DataType} {v : t.Value} (h : t.IsOrdinary v) :
    t.format.Restores v := by
  cases t with
  | groupId => exact GroupId.format_restores v
  | onlineStatus => exact OnlineStatus.format_restores v
  | chunkServer => exact ChunkServer.format_restores v
  | location => exact Location.format_restores v
  | peerEndpoint => exact PeerEndpoint.format_restores v
  | members => exact Members.format_restores v
  | scanStatus => exact ScanStatus.format_restores v
  | healthSnapshot => exact HealthSnapshot.format_restores v
  | classification => exact Classification.format_restores v
  | severity => exact Alert.Severity.format_restores v
  | service => exact Alert.Service.format_restores v
  | kind => exact Alert.Kind.format_restores v
  | settingsRecord => exact Alert.SettingsRecord.format_restores v
  | firedAlert => exact Alert.FiredAlert.format_restores h
  | checkSettings => exact CheckSettings.IsWritten.restores h
  | defaults => exact Alert.Defaults.IsWritten.restores h
  | logging => exact Logging.format_restores v
  | config => exact Config.IsWritten.restores h

/-- Whatever a text is read as is an ordinary value, unless its instant lies in another year. -/
theorem isOrdinary_of_parse {t : DataType} {text : String} {v : t.Value}
    (h : t.format.parse text = .value v) (hdated : t.IsDated v) : t.IsOrdinary v := by
  obtain ⟨j, hdecode⟩ := Format.exists_decode_of_parse h
  cases t with
  | firedAlert => exact ⟨Alert.FiredAlert.isValid_of_decode hdecode, hdated.1, hdated.2⟩
  | checkSettings => exact CheckSettings.isWritten_of_decode hdecode
  | defaults => exact Alert.Defaults.isWritten_of_decode hdecode
  | config => exact Config.isWritten_of_decode hdecode
  | _ => trivial

end DataType

namespace Config

/-- The configuration in a file is the one that its text writes, if this is valid. -/
theorem ofFile_toUTF8 {text : String} {c : Config} (h : format.parse text = .value c) :
    ofFile (some text.toUTF8) = .ofExcept c.validated := by
  have htext : String.fromUTF8? text.toUTF8 = some text := dif_pos text.isValidUTF8
  simp only [ofFile, htext, h]

end Config

/-- **Reading undoes writing.** Every ordinary value is read back from its text. The normal form of
a text that is read is read as the same value and is its own normal form, and a file with the
normal form of a configuration is accepted or refused just as one with the text itself. -/
theorem roundTrip :
    (∀ (t : DataType) (v : t.Value), t.IsOrdinary v →
      t.format.parse (t.format.print v) = .value v) ∧
    (∀ (t : DataType) (text : String) (v : t.Value), t.format.parse text = .value v → t.IsDated v →
      ∃ normal, t.format.normalize text = .value normal ∧ t.format.parse normal = .value v ∧
        t.format.normalize normal = .value normal) ∧
    (∀ c : Config, c.IsWritten →
      (Config.format.parse (Config.format.print c)).map Config.validate = .value c.validate ∧
        Config.ofFile (some (Config.format.print c).toUTF8) = .ofExcept c.validated) ∧
    ∀ (text : String) (c : Config), Config.format.parse text = .value c →
      Config.ofFile (some (Config.format.print c).toUTF8) = Config.ofFile (some text.toUTF8) := by
  have hrestored (t : DataType) (v : t.Value) (hv : t.IsOrdinary v) :
      t.format.parse (t.format.print v) = .value v := (DataType.format_restores hv).parse_print
  refine ⟨hrestored, fun t text v h hdated => ?normal, fun c hc => ?config, fun text c h => ?file⟩
  case normal =>
    have hprinted := hrestored t v (DataType.isOrdinary_of_parse h hdated)
    exact ⟨_, Format.normalize_of_parse h, hprinted, Format.normalize_of_parse hprinted⟩
  case config =>
    have hprinted := hc.restores.parse_print
    exact ⟨congrArg (Outcome.map Config.validate) hprinted, Config.ofFile_toUTF8 hprinted⟩
  case file =>
    obtain ⟨j, hdecode⟩ := Format.exists_decode_of_parse h
    have hprinted := (Config.isWritten_of_decode hdecode).restores.parse_print
    rw [Config.ofFile_toUTF8 hprinted, Config.ofFile_toUTF8 h]

/-- An alert with a quote, a line break and a foreign letter is read back, and so is a valid
configuration with a timeout of one and a half seconds. -/
theorem roundTrip_alert_and_config :
    let alert : Alert.FiredAlert :=
      { cluster := "north \"1\"", kind := .leader .mds, severity := .critical,
        message := "no\nleader \u4e2d", firedAt := ⟨2024, 2, 29, 23, 59, 59, 120000000⟩ }
    let config : Config := { cluster := "north", check := { raftTimeout := .ofMillis 1500 } }
    Alert.FiredAlert.format.parse (Alert.FiredAlert.format.print alert) = .value alert ∧
      Config.format.parse (Config.format.print config) = .value config ∧
      Config.ofFile (some (Config.format.print config).toUTF8) = .value config :=
  ⟨roundTrip.1 .firedAlert _ ⟨rfl, by decide, by decide⟩,
    roundTrip.1 .config _ ⟨⟨⟨"1500ms", rfl⟩, ⟨"5s", rfl⟩⟩, ⟨"60s", rfl⟩⟩,
    (roundTrip.2.2.1 _ ⟨⟨⟨"1500ms", rfl⟩, ⟨"5s", rfl⟩⟩, ⟨"60s", rfl⟩⟩).2⟩

end CopysetWatch
