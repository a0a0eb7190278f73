import CopysetWatch.Config
import CopysetWatch.Format.Alert
import CopysetWatch.Format.Cluster
import CopysetWatch.Proofs.Durations
import CopysetWatch.Proofs.Json.Formats
import CopysetWatch.Proofs.Timestamps

/-!
# The formats restore what they write

Every type that a monitor reads or writes as JSON has a format that restores its values: an object
holds each field of its record once, and the names of an enumeration tell its variants apart. Only
durations and instants are not all restored, for their texts are not exact for all of them.
-/

namespace CopysetWatch

open Json

/-! ### Parts of a cluster -/

theorem GroupId.format_restores (id : GroupId) : format.Restores id where
  whole := rfl
  decode := congrArg (Outcome.map GroupId.mk) (Format.restores_uint64 id.raw).decode

theorem OnlineStatus.format_restores (s : OnlineStatus) : format.Restores s :=
  Format.restores_oneOf ⟨s.name, by cases s <;> decide⟩

theorem ChunkServer.format_restores (s : ChunkServer) : format.Restores s := by
  have haddress := Format.restores_text s.address
  have hstatus := s.status.format_restores
  have h : Field.AreOf fields _ :=
    ⟨.cons (haddress.of "address") (.cons (hstatus.of "online_status") .nil), by decide⟩
  refine Format.restores_of_record rfl (fun _ => rfl) h ?_
  simp only [h.get haddress "address" (by simp), h.get hstatus "online_status" (by simp)]
  rfl

theorem Location.format_restores (l : Location) : format.Restores l := by
  have hpool := Format.restores_uint32 l.pool
  have hcopyset := Format.restores_uint32 l.copyset
  have h : Field.AreOf fields _ :=
    ⟨.cons (hpool.of "pool_id") (.cons (hcopyset.of "copyset_id") .nil), by decide⟩
  refine Format.restores_of_record rfl (fun _ => rfl) h ?_
  simp only [h.get hpool "pool_id" (by simp), h.get hcopyset "copyset_id" (by simp)]
  rfl

theorem PeerEndpoint.format_restores (p : PeerEndpoint) : format.Restores p := by
  have hip := Format.restores_text p.ip
  have hport := Format.restores_uint16 p.port
  have h : Field.AreOf fields _ :=
    ⟨.cons (hip.of "host_ip") (.cons (hport.of "port") .nil), by decide⟩
  refine Format.restores_of_record rfl (fun _ => rfl) h ?_
  simp only [h.get hip "host_ip" (by simp), h.get hport "port" (by simp)]
  rfl

theorem Members.format_restores (m : Members) : format.Restores m := by
  have hcopyset := Format.restores_uint32 m.copyset
  have hpeers := Format.restores_list fun p (_ : p ∈ m.peers) => p.format_restores
  have h : Field.AreOf fields _ :=
    ⟨.cons (hcopyset.of "copyset_id") (.cons (hpeers.of "peers") .nil), by decide⟩
  refine Format.restores_of_record rfl (fun _ => rfl) h ?_
  simp only [h.get hcopyset "copyset_id" (by simp), h.get hpeers "peers" (by simp)]
  rfl

theorem ScanStatus.format_restores (s : ScanStatus) : format.Restores s := by
  have hpool := Format.restores_uint32 s.pool
  have hcopyset := Format.restores_uint32 s.copyset
  have hlast := Format.restores_uint64 s.lastScan
  have hconsistent := Format.restores_bool s.consistent
  have h : Field.AreOf fields _ :=
    ⟨.cons (hpool.of "pool_id") (.cons (hcopyset.of "copyset_id")
      (.cons (hlast.of "last_scan_sec") (.cons (hconsistent.of "last_scan_consistent") .nil))),
      by decide⟩
  refine Format.restores_of_record rfl (fun _ => rfl) h ?_
  simp only [h.get hpool "pool_id" (by simp), h.get hcopyset "copyset_id" (by simp),
    h.get hlast "last_scan_sec" (by simp), h.get hconsistent "last_scan_consistent" (by simp)]
  rfl

theorem HealthSnapshot.format_restores (s : HealthSnapshot) : format.Restores s := by
  have hhealthy := Format.restores_bool s.healthy
  have htotal := Format.restores_uint32 s.total
  have hunhealthy := Format.restores_uint32 s.unhealthy
  have h : Field.AreOf fields _ :=
    ⟨.cons (hhealthy.of "healthy") (.cons (htotal.of "copysetTotal")
      (.cons (hunhealthy.of "copysetUnhealthy") .nil)), by decide⟩
  refine Format.restores_of_record rfl (fun _ => rfl) h ?_
  simp only [h.get hhealthy "healthy" (by simp), h.get htotal "copysetTotal" (by simp),
    h.get hunhealthy "copysetUnhealthy" (by simp)]
  rfl

/-- A class that is written by name alone is restored. -/
theorem Classification.restores_of_named {c : Classification} {name : String}
    (hencode : format.encode c = .ofText name) (hother : name ≠ otherStateKey)
    (hlookup : named.lookup name = some c) : format.Restores c where
  whole := hencode ▸ rfl
  decode := by
    have hread : Format.decodeVariant (.ofText name) = .value (name, none, .closed) := rfl
    rw [hencode]
    simp only [format, hread, bind, Outcome.bind, if_neg hother, hlookup]
    rfl

/-- The class after a state is restored with the name of the state, whatever this is. -/
theorem Classification.format_restores (c : Classification) : format.Restores c := by
  cases c with
  | total => exact restores_of_named rfl (by decide) rfl
  | healthy => exact restores_of_named rfl (by decide) rfl
  | problem p =>
    cases p with
    | otherState name => exact ⟨⟨rfl, rfl, trivial⟩, rfl⟩
    | _ => exact restores_of_named rfl (by decide) rfl

/-! ### Alerts -/

theorem Alert.Severity.format_restores (s : Alert.Severity) : format.Restores s :=
  Format.restores_oneOf ⟨s.name, by cases s <;> decide⟩

theorem Alert.Service.format_restores (s : Alert.Service) : format.Restores s :=
  Format.restores_oneOf ⟨s.name, by cases s <;> decide⟩

theorem Alert.Kind.format_restores (kind : Alert.Kind) : format.Restores kind where
  whole := rfl
  decode := by
    have hread : Format.text.decode (.ofText kind.name) = .value kind.name := rfl
    simp only [format, hread, bind, Outcome.bind, ofName?_name]
    rfl

theorem Alert.SettingsRecord.format_restores (r : Alert.SettingsRecord) : format.Restores r := by
  have hkind := Format.restores_text r.kind
  have henabled := Format.restores_bool r.enabled
  have hinterval := Format.restores_uint64 r.intervalSecs
  have htrigger := Format.restores_uint32 r.triggerTimes
  have hrule := Format.restores_text r.rule
  have h : Field.AreOf fields _ :=
    ⟨.cons (hkind.of "kind") (.cons (henabled.of "enabled") (.cons (hinterval.of "interval_secs")
      (.cons (htrigger.of "trigger_times") (.cons (hrule.optional "rule") .nil)))), by decide⟩
  refine Format.restores_of_record rfl (fun _ => rfl) h ?_
  simp only [h.get hkind "kind" (by simp), h.get henabled "enabled" (by simp),
    h.get hinterval "interval_secs" (by simp), h.get htrigger "trigger_times" (by simp),
    h.getD hrule "rule" (by simp)]
  rfl

theorem Timestamp.format_restores {t : Timestamp} (ht : t.IsOrdinary) : format.Restores t where
  whole := rfl
  decode := by
    have hread : Format.text.decode (.ofText t.text) = .value t.text := rfl
    simp only [format, hread, bind, Outcome.bind, ht.parse_text]
    rfl

theorem Timestamp.isValid_of_decode {j : Json} {t : Timestamp} (h : format.decode j = .value t) :
    t.isValid := by
  obtain ⟨text, -, hparse⟩ := Outcome.bind_eq_value_iff.mp h
  split at hparse
  case h_1 t' ht' =>
    obtain rfl := Outcome.value.inj hparse
    exact isValid_of_parse ht'
  case h_2 => cases hparse

theorem Alert.FiredAlert.format_restores {a : Alert.FiredAlert} (ha : a.firedAt.IsOrdinary) :
    format.Restores a := by
  have hcluster := Format.restores_text a.cluster
  have hkind := a.kind.format_restores
  have hseverity := a.severity.format_restores
  have hmessage := Format.restores_text a.message
  have hfired := Timestamp.format_restores ha
  have h : Field.AreOf fields _ :=
    ⟨.cons (hcluster.of "cluster") (.cons (hkind.of "kind") (.cons (hseverity.of "severity")
      (.cons (hmessage.of "message") (.cons (hfired.of "fired_at") .nil)))), by decide⟩
  refine Format.restores_of_record rfl (fun _ => rfl) h ?_
  simp only [h.get hcluster "cluster" (by simp), h.get hkind "kind" (by simp),
    h.get hseverity "severity" (by simp), h.get hmessage "message" (by simp),
    h.get hfired "fired_at" (by simp)]
  rfl

theorem Alert.FiredAlert.isValid_of_decode {j : Json} {a : Alert.FiredAlert}
    (h : format.decode j = .value a) : a.firedAt.isValid := by
  obtain ⟨found, -, h⟩ := Outcome.bind_eq_value_iff.mp h
  obtain ⟨cluster, -, h⟩ := Outcome.bind_eq_value_iff.mp h
  obtain ⟨kind, -, h⟩ := Outcome.bind_eq_value_iff.mp h
  obtain ⟨severity, -, h⟩ := Outcome.bind_eq_value_iff.mp h
  obtain ⟨message, -, h⟩ := Outcome.bind_eq_value_iff.mp h
  obtain ⟨firedAt, hfired, h⟩ := Outcome.bind_eq_value_iff.mp h
  obtain rfl := Outcome.value.inj h
  obtain ⟨j, hdecode⟩ := Field.exists_decode_of_get hfired
  exact Timestamp.isValid_of_decode hdecode

/-! ### Configurations -/

theorem Duration.isWritten_of_decode {j : Json} {d : Duration}
    (h : Format.duration.decode j = .value d) : d.IsWritten := by
  obtain ⟨text, -, hparse⟩ := Outcome.bind_eq_value_iff.mp h
  split at hparse
  case h_1 d' hd' =>
    obtain rfl := Outcome.value.inj hparse
    exact ⟨text, hd'⟩
  case h_2 => cases hparse
  case h_3 => cases hparse

/-- The timeouts of a health check are ones that some text writes. -/
structure CheckSettings.IsWritten (s : CheckSettings) : Prop where
  raft : s.raftTimeout.IsWritten
  gateway : s.gatewayTimeout.IsWritten

theorem CheckSettings.IsWritten.restores {s : CheckSettings} (hs : s.IsWritten) :
    format.Restores s := by
  have hraft := Format.restores_duration hs.raft.parse_text
  have hgateway := Format.restores_duration hs.gateway.parse_text
  have hfactor := Format.restores_uint64 s.replicationFactor
  have hmargin := Format.restores_uint64 s.logGapMargin
  have h : Field.AreOf fields _ :=
    ⟨.cons (hraft.of "raft_status_timeout") (.cons (hgateway.of "gateway_timeout")
      (.cons (hfactor.of "replication_factor") (.cons (hmargin.of "log_gap_margin") .nil))),
      by decide⟩
  refine Format.restores_of_record rfl (fun _ => rfl) h ?_
  simp only [h.get hraft "raft_status_timeout" (by simp),
    h.get hgateway "gateway_timeout" (by simp), h.get hfactor "replication_factor" (by simp),
    h.get hmargin "log_gap_margin" (by simp)]
  rfl

theorem CheckSettings.isWritten_of_decode {j : Json} {s : CheckSettings}
    (h : format.decode j = .value s) : s.IsWritten := by
  obtain ⟨found, -, h⟩ := Outcome.bind_eq_value_iff.mp h
  obtain ⟨raft, hraft, h⟩ := Outcome.bind_eq_value_iff.mp h
  obtain ⟨gateway, hgateway, h⟩ := Outcome.bind_eq_value_iff.mp h
  obtain ⟨factor, -, h⟩ := Outcome.bind_eq_value_iff.mp h
  obtain ⟨margin, -, h⟩ := Outcome.bind_eq_value_iff.mp h
  obtain rfl := Outcome.value.inj h
  obtain ⟨_, hraft⟩ := Field.exists_decode_of_get hraft
  obtain ⟨_, hgateway⟩ := Field.exists_decode_of_get hgateway
  exact ⟨Duration.isWritten_of_decode hraft, Duration.isWritten_of_decode hgateway⟩

/-- The time between two reloads is one that some text writes. -/
def Alert.Defaults.IsWritten (d : Alert.Defaults) : Prop :=
  d.reloadInterval.IsWritten

theorem Alert.Defaults.IsWritten.restores {d : Alert.Defaults} (hd : d.IsWritten) :
    format.Restores d := by
  have hreload := Format.restores_duration hd.parse_text
  have hinterval := Format.restores_uint64 d.intervalSecs
  have htrigger := Format.restores_uint32 d.triggerTimes
  have hrule := Format.restores_text d.capacityRule
  have h : Field.AreOf fields _ :=
    ⟨.cons (hreload.of "reload_interval") (.cons (hinterval.of "default_interval_secs")
      (.cons (htrigger.of "default_trigger_times") (.cons (hrule.of "capacity_rule") .nil))),
      by decide⟩
  refine Format.restores_of_record rfl (fun _ => rfl) h ?_
  simp only [h.get hreload "reload_interval" (by simp),
    h.get hinterval "default_interval_secs" (by simp),
    h.get htrigger "default_trigger_times" (by simp), h.get hrule "capacity_rule" (by simp)]
  rfl

theorem Alert.Defaults.isWritten_of_decode {j : Json} {d : Alert.Defaults}
    (h : format.decode j = .value d) : d.IsWritten := by
  obtain ⟨found, -, h⟩ := Outcome.bind_eq_value_iff.mp h
  obtain ⟨reload, hreload, h⟩ := Outcome.bind_eq_value_iff.mp h
  obtain ⟨interval, -, h⟩ := Outcome.bind_eq_value_iff.mp h
  obtain ⟨trigger, -, h⟩ := Outcome.bind_eq_value_iff.mp h
  obtain ⟨rule, -, h⟩ := Outcome.bind_eq_value_iff.mp h
  obtain rfl := Outcome.value.inj h
  obtain ⟨_, hreload⟩ := Field.exists_decode_of_get hreload
  exact Duration.isWritten_of_decode hreload

theorem Logging.format_restores (l : Logging) : format.Restores l := by
  have hlevel := Format.restores_text l.level
  have hjson := Format.restores_bool l.json
  have h : Field.AreOf fields _ :=
    ⟨.cons (hlevel.of "log_level") (.cons (hjson.of "json_logs") .nil), by decide⟩
  refine Format.restores_of_record rfl (fun _ => rfl) h ?_
  simp only [h.get hlevel "log_level" (by simp), h.get hjson "json_logs" (by simp)]
  rfl

namespace Config

theorem clusterFormat_restores (name : String) : clusterFormat.Restores name := by
  have hname := Format.restores_text name
  have h : Field.AreOf [.of "name" Format.text] _ := ⟨.cons (hname.of "name") .nil, by decide⟩
  exact Format.restores_of_record rfl (fun _ => rfl) h (h.get hname "name" (by simp))

/-- All durations of a configuration are ones that some text writes. -/
structure IsWritten (c : Config) : Prop where
  check : c.check.IsWritten
  alerting : c.alerting.IsWritten

theorem IsWritten.restores {c : Config} (hc : c.IsWritten) : format.Restores c := by
  have hcluster := clusterFormat_restores c.cluster
  have hcheck := hc.check.restores
  have halerting := hc.alerting.restores
  have hlogging := c.logging.format_restores
  have h : Field.AreOf fields _ :=
    ⟨.cons (hcluster.of "cluster") (.cons (hcheck.optional "checker")
      (.cons (halerting.optional "alerting") (.cons (hlogging.optional "observability") .nil))),
      by decide⟩
  refine Format.restores_of_record rfl (fun _ => rfl) h ?_
  simp only [h.get hcluster "cluster" (by simp), h.getD hcheck "checker" (by simp),
    h.getD halerting "alerting" (by simp), h.getD hlogging "observability" (by simp)]
  rfl

/-- What is left out of a configuration is written as its default, so every configuration that is
read is restored. -/
theorem isWritten_of_decode {j : Json} {c : Config} (h : format.decode j = .value c) :
    c.IsWritten := by
  obtain ⟨found, -, h⟩ := Outcome.bind_eq_value_iff.mp h
  obtain ⟨cluster, -, h⟩ := Outcome.bind_eq_value_iff.mp h
  obtain ⟨check, hcheck, h⟩ := Outcome.bind_eq_value_iff.mp h
  obtain ⟨alerting, halerting, h⟩ := Outcome.bind_eq_value_iff.mp h
  obtain ⟨logging, -, h⟩ := Outcome.bind_eq_value_iff.mp h
  obtain rfl := Outcome.value.inj h
  constructor
  case check =>
    obtain rfl | ⟨_, hdecode⟩ := Field.exists_decode_of_getD hcheck
    · -- the section was left out, and its defaults are durations with texts
      exact ⟨⟨"5s", rfl⟩, ⟨"5s", rfl⟩⟩
    · exact CheckSettings.isWritten_of_decode hdecode
  case alerting =>
    obtain rfl | ⟨_, hdecode⟩ := Field.exists_decode_of_getD halerting
    · exact ⟨"60s", rfl⟩
    · exact Alert.Defaults.isWritten_of_decode hdecode

end Config

end CopysetWatch
