import CopysetWatch.Proofs.Alert.Watch

/-!
# Reloaded settings

A reload leaves every kind with the settings of the record that was put last for it and not removed
since, or with the defaults where there is no such record or no valid one. What the settings were
before is of no account, and neither are the records of other kinds or clusters. A reload that fails
leaves the settings alone, and none touches anything else.
-/

namespace CopysetWatch.Alert

/-! ### The record that is stored for a kind -/

namespace StoreCall

/-- Whether a call puts or removes the record of a kind name in a cluster. -/
def isAbout (cluster name : String) : StoreCall → Bool
  | .put c record => c == cluster && record.kind == name
  | .remove c kind => c == cluster && kind.name == name
  | _ => false

/-- The record that a call puts. -/
def record? : StoreCall → Option SettingsRecord
  | .put _ record => some record
  | _ => none

end StoreCall

/-- The record that was put last for a kind name in a cluster, unless it was removed since. -/
def lastPut (cluster name : String) (calls : List StoreCall) : Option SettingsRecord :=
  (calls.filter (·.isAbout cluster name)).getLast?.bind StoreCall.record?

/-- Once the records of a kind name are taken out, none of this name is left, and all of any other
name are. -/
theorem filter_kind_filter (records : List SettingsRecord) (taken name : String) :
    (records.filter (·.kind != taken)).filter (·.kind == name) =
      if taken = name then [] else records.filter (·.kind == name) := by
  rw [List.filter_filter]
  split
  case isTrue hsame =>
    rw [hsame, List.filter_eq_nil_iff]
    simp
  case isFalse hother =>
    apply List.filter_congr
    intro record _
    by_cases hname : record.kind = name
    · simp [hname, Ne.symm hother]
    · simp [hname]

/-- After a call about a kind name, its record is the one that the call puts, and after any other
call it is what it was. -/
theorem filter_settings_apply (c : StoreCall) (s : Store) (cluster name : String) :
    ((c.apply s).settings cluster).filter (·.kind == name) =
      if c.isAbout cluster name then c.record?.toList
      else (s.settings cluster).filter (·.kind == name) := by
  cases c with
  | put other record =>
    simp only [StoreCall.apply, Store.put, Store.withRecords, StoreCall.isAbout]
    by_cases hcluster : cluster = other
    · subst hcluster
      rw [if_pos rfl, List.filter_append, filter_kind_filter]
      by_cases hname : record.kind = name <;> simp [hname, StoreCall.record?]
    · simp [hcluster, Ne.symm hcluster]
  | remove other kind =>
    simp only [StoreCall.apply, Store.remove, Store.withRecords, StoreCall.isAbout]
    by_cases hcluster : cluster = other
    · subst hcluster
      rw [if_pos rfl, filter_kind_filter]
      by_cases hname : kind.name = name <;> simp [hname, StoreCall.record?]
    · simp [hcluster, Ne.symm hcluster]
  | failLoads fails => rfl
  | failEmissions fails => rfl

/-- What is stored for a kind name is the record that was put last for it. -/
theorem filter_settings_after (cluster name : String) (calls : List StoreCall) :
    (((({} : Store).after calls).settings cluster).filter (·.kind == name)) =
      (lastPut cluster name calls).toList := by
  induction calls using List.reverseRecOn with
  | nil => rfl
  | append_singleton calls c ih =>
    have hafter : ({} : Store).after (calls ++ [c]) = c.apply (({} : Store).after calls) :=
      List.foldl_concat ..
    rw [hafter, filter_settings_apply, ih]
    unfold lastPut
    rw [List.filter_append]
    cases habout : c.isAbout cluster name with
    | true => simp [habout]
    | false => simp [habout]

/-! ### The settings in force -/

/-- A kind is known by its name. -/
theorem Kind.ofName?_eq_some_iff {name : String} {kind : Kind} :
    ofName? name = some kind ↔ name = kind.name := by
  constructor
  · intro h
    have hname := List.find?_some h
    exact (beq_iff_eq.mp hname).symm
  · rintro rfl
    exact ofName?_name kind

namespace Settings

/-- These are the settings of a kind for which a record or none is stored: those of the record if it
has an interval and a number of trigger times, and the defaults otherwise. -/
structure AreOf (s : Settings) (d : Defaults) (kind : Kind) (stored : Option SettingsRecord) :
    Prop where
  recorded : ∀ r, stored = some r → r.intervalSecs ≠ 0 → r.triggerTimes ≠ 0 → ofRecord r = .ok s
  default : (∀ r, stored = some r → r.intervalSecs = 0 ∨ r.triggerTimes = 0) →
    s = ofDefaults kind d

/-- Only the records of its own name count for a kind. -/
theorem inForce_eq (d : Defaults) (stored : List SettingsRecord) (kind : Kind) :
    inForce d stored kind =
      (((stored.filter (·.kind == kind.name)).filterMap fun r =>
        (ofRecord r).toOption).getLast?).getD (ofDefaults kind d) := by
  unfold inForce
  congr 2
  rw [List.filterMap_filter]
  apply List.filterMap_congr
  intro r _
  simp only [ofRecordFor?, Kind.ofName?_eq_some_iff, beq_iff_eq]

/-- A record holds settings if it has an interval and a number of trigger times. -/
theorem exists_ofRecord_iff {r : SettingsRecord} :
    (∃ s, ofRecord r = .ok s) ↔ r.intervalSecs ≠ 0 ∧ r.triggerTimes ≠ 0 := by
  unfold ofRecord
  split
  case isTrue hinterval => simp [hinterval]
  case isFalse hinterval =>
    split
    case isTrue htimes => simp [htimes]
    case isFalse htimes => simp [hinterval, htimes]

/-- The settings in force are those of the record that is stored for the kind. -/
theorem inForce_areOf {d : Defaults} {stored : List SettingsRecord} {kind : Kind}
    {found : Option SettingsRecord} (h : stored.filter (·.kind == kind.name) = found.toList) :
    (inForce d stored kind).AreOf d kind found := by
  rw [inForce_eq, h]
  cases found with
  | none =>
    refine ⟨?_, fun _ => rfl⟩
    rintro r ⟨⟩
  | some r =>
    cases hread : ofRecord r with
    | error f =>
      have hinvalid : ¬(r.intervalSecs ≠ 0 ∧ r.triggerTimes ≠ 0) := by
        rw [← exists_ofRecord_iff, hread]
        rintro ⟨s, hs⟩
        cases hs
      refine ⟨?_, fun _ => by simp [hread, Except.toOption]⟩
      rintro _ ⟨⟩ hinterval htimes
      exact absurd ⟨hinterval, htimes⟩ hinvalid
    | ok s =>
      obtain ⟨hinterval, htimes⟩ := exists_ofRecord_iff.mp ⟨s, hread⟩
      constructor
      · rintro _ ⟨⟩ - -
        simp [hread, Except.toOption]
      · intro hinvalid
        exact ((hinvalid r rfl).elim hinterval htimes).elim

end Settings

/-! ### Reloads -/

/-- A watch is reloaded, from one state to another: either it is told to, unless it was told to
stop, or it gets to the next reload as time passes. -/
inductive Watch.Reloads (w : Watch) : Watch → Watch → Prop where
  | told (hlive : w.supervisor.nextReload.isSome) : Reloads w w (w.step .reload)
  | due {sight : Sight} {target due : Nat} {cut : Kind → Option Nat}
      (hdue : w.supervisor.nextReload = some due) (hle : due ≤ target) :
      Reloads w (w.runTo sight due cut) (w.step (.pass sight target cut))

/-- A reload gives the loops the stored settings if these can be loaded, and leaves the loops alone
otherwise. -/
theorem Watch.Reloads.loops_eq {w before later : Watch} (h : w.Reloads before later) :
    later.supervisor.loops =
      match before.store.load before.supervisor.cluster with
      | .error _ => before.supervisor.loops
      | .ok stored => (before.supervisor.applyStored stored).loops := by
  cases h with
  | told hlive =>
    rw [step, reload, if_pos hlive]
    simp only [Supervisor.reload]
    cases w.store.load w.supervisor.cluster <;> rfl
  | @due sight target due cut hdue hle =>
    rw [step, w.pass_of_due hdue hle]
    simp only [reloadAt, Supervisor.reloadAt, Supervisor.reload]
    cases (w.runTo sight due cut).store.load (w.runTo sight due cut).supervisor.cluster <;> rfl

theorem Store.eq_of_load_eq_ok {s : Store} {cluster : String} {stored : List SettingsRecord}
    (h : s.load cluster = .ok stored) : stored = s.settings cluster := by
  unfold load at h
  split at h
  · cases h
  · exact (Except.ok.inj h).symm

/-- Up to a reload, the supervisor goes on, and its store holds the settings that it held. -/
theorem Watch.Reloads.continues {w before later : Watch} (h : w.Reloads before later) :
    w.supervisor.Continues before.supervisor ∧ before.store.settings = w.store.settings := by
  cases h with
  | told hlive => exact ⟨.refl _, rfl⟩
  | @due sight target due cut hdue hle =>
    refine ⟨w.supervisor.continues_runLoops sight w.store.accepts due cut, ?_⟩
    rw [runTo, Store.foldl_store]
    rfl

/-- **Stored and live settings agree.** Let a supervisor start on a store that some calls have
filled, and let anything happen to it. After a reload that loads the settings, there is a context of
every kind, with the settings of the record that was put last for its kind in the cluster and not
removed since, if that record is valid, and with the defaults otherwise. A reload that cannot load
them leaves all contexts as they are, and none changes anything of a loop but the settings of its
context. -/
theorem settings_after_reload {cluster : String} {env : Environment} {d : Defaults} {now : Nat}
    {calls : List StoreCall} {v : Supervisor}
    (hstart : Supervisor.start cluster env (({} : Store).after calls) d now = .ok v)
    {occurrences : List Occurrence} {before later : Watch}
    (hreload : (Watch.after ⟨v, ({} : Store).after calls, now⟩ occurrences).Reloads before later) :
    (∀ stored, before.store.load cluster = .ok stored →
      (∀ kind, ∃ c ∈ later.supervisor.contexts, c.kind = kind) ∧
      ∀ c ∈ later.supervisor.contexts, c.settings.AreOf d c.kind
        (lastPut cluster c.kind.name (calls ++ Occurrence.calls occurrences))) ∧
    (∀ f, before.store.load cluster = .error f →
      later.supervisor.contexts = before.supervisor.contexts) ∧
    ∃ settings : AlertLoop → Settings,
      later.supervisor.loops = before.supervisor.loops.map fun l => l.apply (settings l) := by
  let w : Watch := ⟨v, ({} : Store).after calls, now⟩
  obtain ⟨hcontinues, hsettings⟩ := hreload.continues
  have hbegun := (w.continues_after occurrences).trans hcontinues
  have hcluster : before.supervisor.cluster = cluster := by
    obtain ⟨stored, -, rfl⟩ := Supervisor.start_eq_ok hstart
    exact hbegun.cluster
  have hdefaults : before.supervisor.defaults = d := by
    obtain ⟨stored, -, rfl⟩ := Supervisor.start_eq_ok hstart
    exact hbegun.defaults
  have hloops := hreload.loops_eq
  rw [hcluster] at hloops
  refine ⟨fun stored hload => ?_, fun f hload => ?_, ?_⟩
  · rw [hload] at hloops
    dsimp only [Supervisor.applyStored] at hloops
    have hkinds : later.supervisor.loops.map (·.context.kind) = Kind.ordered := by
      rw [hloops, List.map_map, ← Supervisor.kinds_start hstart]
      exact hbegun.kinds
    have hstored : stored =
        (({} : Store).after (calls ++ Occurrence.calls occurrences)).settings cluster := by
      rw [Store.eq_of_load_eq_ok hload, hsettings, w.store_after, Store.after_append]
      rfl
    constructor
    · intro kind
      obtain ⟨l, hl, hkind⟩ := List.mem_map.mp (hkinds ▸ Kind.mem_ordered kind)
      exact ⟨l.context, List.mem_map_of_mem hl, hkind⟩
    · intro c hc
      rw [Supervisor.contexts, hloops, hdefaults] at hc
      obtain ⟨l, hl, rfl⟩ := List.mem_map.mp hc
      obtain ⟨l, hl, rfl⟩ := List.mem_map.mp hl
      apply Settings.inForce_areOf
      rw [hstored]
      exact filter_settings_after cluster l.context.kind.name _
  · rw [hload] at hloops
    simp only [Supervisor.contexts, hloops]
  · cases hload : before.store.load cluster with
    | error f =>
      rw [hload] at hloops
      exact ⟨fun l => l.context.settings, hloops.trans (List.map_id _).symm⟩
    | ok stored =>
      rw [hload] at hloops
      exact ⟨_, hloops⟩

/-- A cluster's record of a kind is replaced while one of another cluster is put, and a reload takes
the replacement. -/
theorem settings_after_reload_replacement :
    let calls : List StoreCall := [.put "east" ⟨"etcd_leader", true, 5, 2, ""⟩]
    let occurrences : List Occurrence :=
      [.call (.put "east" ⟨"etcd_leader", false, 7, 1, "late"⟩),
        .call (.put "west" ⟨"etcd_leader", true, 9, 4, ""⟩)]
    ∃ v later, Supervisor.start "east" ⟨"east", {}, .ofSeconds 1⟩ (({} : Store).after calls) {} 0 =
        .ok v ∧
      (Watch.after ⟨v, ({} : Store).after calls, 0⟩ occurrences).Reloads
        (Watch.after ⟨v, ({} : Store).after calls, 0⟩ occurrences) later ∧
      ∃ c ∈ later.supervisor.contexts, c.kind = .leader .etcd ∧
        c.settings = ⟨false, .ofSeconds 7, 1, "late"⟩ := by
  intro calls occurrences
  obtain ⟨v, hstart⟩ : ∃ v, Supervisor.start "east" ⟨"east", {}, .ofSeconds 1⟩
      (({} : Store).after calls) {} 0 = .ok v := ⟨_, rfl⟩
  let w := Watch.after ⟨v, ({} : Store).after calls, 0⟩ occurrences
  have hlive : w.supervisor.nextReload.isSome := by
    obtain ⟨stored, -, rfl⟩ := Supervisor.start_eq_ok hstart
    rfl
  have hreload : w.Reloads w (w.step .reload) := .told hlive
  obtain ⟨hsettings, -, -⟩ := settings_after_reload hstart hreload
  obtain ⟨hkinds, hareOf⟩ := hsettings _ rfl
  obtain ⟨c, hc, hkind⟩ := hkinds (.leader .etcd)
  have hrecorded := (hareOf c hc).recorded ⟨"etcd_leader", false, 7, 1, "late"⟩
    (by rw [hkind]; decide) (by decide) (by decide)
  exact ⟨v, _, hstart, hreload, c, hc, hkind, (Except.ok.inj hrecorded).symm⟩

end CopysetWatch.Alert
