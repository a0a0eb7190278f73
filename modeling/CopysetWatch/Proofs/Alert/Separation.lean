import CopysetWatch.Proofs.Alert.Reloading
import CopysetWatch.Proofs.Hearing

/-!
# Kinds that do not interfere

Each kind of alerts reads the capacity, one of the services or the gateway, and the settings that
are stored for it. Two runs that agree in everything but one such item are the same for every kind
that does not read it: a slow or failing predicate, a problem or other settings of one kind never
shift or suppress what another kind does. A step lemma says this of one occurrence, and the main
statement of all runs from the same start.
-/

namespace CopysetWatch.Alert

/-! ### What a kind reads -/

/-- Something that some kinds read and the others do not. -/
inductive Item where
  /-- The capacity that is reported. -/
  | capacity
  /-- The endpoints of a service, and what they answer. -/
  | service (service : Service)
  /-- Whatever the gateway answers. -/
  | gateway
  /-- The settings that are stored for a kind. -/
  | record (kind : Kind)
  deriving DecidableEq, Repr

/-- Whether a kind reads an item. -/
def Item.isReadBy (kind : Kind) : Item → Bool
  | .capacity => kind == .clusterCapacity
  | .service s => kind == .leader s || kind == .offline s
  | .gateway => kind == .clusterHealth
  | .record other => kind == other

/-- Two sights in which everything is the same but an item. An endpoint counts for a service only
where the service has it, and as soon as this is known. -/
structure Sight.AgreeExcept (item : Item) (sight sight' : Sight) : Prop where
  gateway : item ≠ .gateway → ∀ moment, sight.gateway moment = sight'.gateway moment
  capacity : item ≠ .capacity → ∀ moment,
    (sight.probe moment).capacity = (sight'.probe moment).capacity
  endpoints : ∀ service, item ≠ .service service → ∀ moment,
    (sight.probe moment).endpoints service = (sight'.probe moment).endpoints service
  leads : ∀ service, item ≠ .service service → ∀ moment names,
    ((sight.probe moment).endpoints service).ending = .value names → ∀ name ∈ names,
      let known := moment + ((sight.probe moment).endpoints service).delay
      (sight.probe known).leads service name = (sight'.probe known).leads service name

section

variable {item : Item} {sight sight' : Sight}

/-- Of a service that is the same in both sights, the same is heard. -/
theorem Sight.AgreeExcept.hearEndpoints (h : sight.AgreeExcept item sight') {service : Service}
    (hservice : item ≠ .service service) (env : Environment) :
    Alert.hearEndpoints env sight service = Alert.hearEndpoints env sight' service := by
  funext start
  have hasked := h.endpoints service hservice start
  unfold Alert.hearEndpoints
  simp only [bind, Inquiry.bind, Inquiry.ask]
  rw [← hasked]
  cases hnames : ((sight.probe start).endpoints service).ending with
  | fault f => rfl
  | panic => rfl
  | value names =>
    dsimp only
    rw [Inquiry.gather, Inquiry.gather,
      Gather.arrivals_congr _ (h.leads service hservice start names hnames)]

/-- A kind that does not read the item comes to the same in both sights. -/
theorem Sight.AgreeExcept.evaluate (h : sight.AgreeExcept item sight') {kind : Kind}
    (hkind : item.isReadBy kind = false) (env : Environment) (rule : String) (start : Nat) :
    kind.evaluate env sight rule start = kind.evaluate env sight' rule start := by
  cases kind with
  | clusterHealth =>
    have hitem : item ≠ .gateway := by
      rintro rfl
      cases hkind
    have hgateway : sight.gateway = sight'.gateway := funext (h.gateway hitem)
    simp only [Kind.evaluate, hgateway]
  | clusterCapacity =>
    have hitem : item ≠ .capacity := by
      rintro rfl
      cases hkind
    have hcapacity := funext (h.capacity hitem)
    simp only [Kind.evaluate, hcapacity]
  | leader service =>
    have hitem : item ≠ .service service := by
      rintro rfl
      simp [Item.isReadBy] at hkind
    simp only [Kind.evaluate, h.hearEndpoints hitem]
  | offline service =>
    have hitem : item ≠ .service service := by
      rintro rfl
      simp [Item.isReadBy] at hkind
    simp only [Kind.evaluate, h.hearEndpoints hitem]

theorem Sight.AgreeExcept.step? (h : sight.AgreeExcept item sight') {l : AlertLoop}
    (hkind : item.isReadBy l.context.kind = false) (env : Environment) (accepts : Bool)
    (target : Nat) : l.step? env sight accepts target = l.step? env sight' accepts target := by
  unfold AlertLoop.step?
  simp only [h.evaluate hkind]

/-- The loop of such a kind does the same up to every moment. -/
theorem Sight.AgreeExcept.runUntil (h : sight.AgreeExcept item sight') {l : AlertLoop}
    (hkind : item.isReadBy l.context.kind = false) (env : Environment) (accepts : Bool)
    (target : Nat) :
    l.runUntil env sight accepts target = l.runUntil env sight' accepts target := by
  induction l using AlertLoop.runUntil.induct env sight accepts target with
  | case1 l hnone =>
    rw [AlertLoop.runUntil_of_none hnone,
      AlertLoop.runUntil_of_none (h.step? hkind env accepts target ▸ hnone)]
  | case2 l next deeds hsome ih =>
    have hsome' : l.step? env sight' accepts target = some (next, deeds) :=
      h.step? hkind env accepts target ▸ hsome
    have hnext := (AlertLoop.steps_of_step? hsome).isOf.1
    rw [AlertLoop.runUntil_of_some hsome, AlertLoop.runUntil_of_some hsome', ih (hnext ▸ hkind)]

theorem Sight.AgreeExcept.runSteps (h : sight.AgreeExcept item sight') {l : AlertLoop}
    (hkind : item.isReadBy l.context.kind = false) (env : Environment) (accepts : Bool)
    (target count : Nat) :
    l.runSteps env sight accepts target count = l.runSteps env sight' accepts target count := by
  induction count generalizing l with
  | zero => rfl
  | succ count ih =>
    have hstep := h.step? hkind env accepts target
    rw [AlertLoop.runSteps, AlertLoop.runSteps, ← hstep]
    cases hnext : l.step? env sight accepts target with
    | none => rfl
    | some step =>
      have hsame := (AlertLoop.steps_of_step? hnext).isOf.1
      dsimp only
      rw [ih (hsame ▸ hkind)]

/-- So it does wherever it is cut short. -/
theorem Sight.AgreeExcept.runCut (h : sight.AgreeExcept item sight') {l : AlertLoop}
    (hkind : item.isReadBy l.context.kind = false) (env : Environment) (accepts : Bool)
    (target : Nat) (cut : Option Nat) :
    l.runCut env sight accepts target cut = l.runCut env sight' accepts target cut := by
  cases cut with
  | none => exact h.runUntil hkind env accepts target
  | some count =>
    have hbefore : l.runBefore env sight accepts target =
        l.runBefore env sight' accepts target := by
      cases target with
      | zero => rfl
      | succ earlier => exact h.runUntil hkind env accepts earlier
    have hsame := (l.ran_runBefore env sight accepts target).isOf.1
    rw [AlertLoop.runCut, AlertLoop.runCut, ← hbefore]
    rw [h.runSteps (hsame ▸ hkind)]

end

/-! ### What is stored -/

/-- Whether an item is what is stored under a kind name. -/
def Item.isStoredAs (name : String) : Item → Bool
  | .record kind => kind.name == name
  | _ => false

/-- Whether a call changes nothing but an item. -/
def StoreCall.touchesOnly (item : Item) : StoreCall → Bool
  | .put _ record => item.isStoredAs record.kind
  | .remove _ kind => item.isStoredAs kind.name
  | _ => false

/-- Two stores in which everything is the same but an item, and the alerts of the kinds that read
it. -/
structure Store.AgreeExcept (item : Item) (s s' : Store) : Prop where
  settings : ∀ cluster,
    (s.settings cluster).filter (!item.isStoredAs ·.kind) =
      (s'.settings cluster).filter (!item.isStoredAs ·.kind)
  failsLoads : s.failsLoads = s'.failsLoads
  failsEmissions : s.failsEmissions = s'.failsEmissions
  emissions : ∀ kind, item.isReadBy kind = false → s.emissionsOf kind = s'.emissionsOf kind

/-- Stores that agree do so with other alerts, if those of the kinds that do not read the item are
the same. -/
theorem Store.AgreeExcept.withEmissions {item : Item} {s s' : Store} (h : s.AgreeExcept item s')
    {emissions emissions' : List Emission} (hsame : ∀ kind, item.isReadBy kind = false →
      (s.withEmissions emissions).emissionsOf kind =
        (s'.withEmissions emissions').emissionsOf kind) :
    (s.withEmissions emissions).AgreeExcept item (s'.withEmissions emissions') :=
  ⟨h.settings, h.failsLoads, h.failsEmissions, hsame⟩

/-- A kind has its name to itself. -/
theorem Kind.name_inj {kind other : Kind} : kind.name = other.name ↔ kind = other := by
  rw [← Kind.ofName?_eq_some_iff, Kind.ofName?_name, Option.some.injEq]

/-- What is left out of the records before a call is left out after it. -/
theorem Store.filter_settings_put (s : Store) (cluster other : String) (r : SettingsRecord)
    (p : SettingsRecord → Bool) :
    ((s.put cluster r).settings other).filter p =
      if other = cluster then ((s.settings cluster).filter p).filter (·.kind != r.kind) ++
        [r].filter p
      else (s.settings other).filter p := by
  unfold put withRecords
  dsimp only
  split
  · rw [List.filter_append, List.filter_comm]
  · rfl

theorem Store.filter_settings_remove (s : Store) (cluster other : String) (kind : Kind)
    (p : SettingsRecord → Bool) :
    ((s.remove cluster kind).settings other).filter p =
      if other = cluster then ((s.settings cluster).filter p).filter (·.kind != kind.name)
      else (s.settings other).filter p := by
  unfold remove withRecords
  dsimp only
  split
  · exact List.filter_comm ..
  · rfl

section

variable {item : Item} {s s' : Store}

theorem Store.AgreeExcept.symm (h : s.AgreeExcept item s') : s'.AgreeExcept item s :=
  ⟨fun cluster => (h.settings cluster).symm, h.failsLoads.symm, h.failsEmissions.symm,
    fun kind hkind => (h.emissions kind hkind).symm⟩

/-- The same call to both stores leaves the differences as they are. -/
theorem Store.AgreeExcept.apply (h : s.AgreeExcept item s') (c : StoreCall) :
    (c.apply s).AgreeExcept item (c.apply s') := by
  cases c with
  | put cluster record =>
    refine ⟨fun other => ?_, h.failsLoads, h.failsEmissions, h.emissions⟩
    simp only [StoreCall.apply, filter_settings_put, h.settings]
  | remove cluster kind =>
    refine ⟨fun other => ?_, h.failsLoads, h.failsEmissions, h.emissions⟩
    simp only [StoreCall.apply, filter_settings_remove, h.settings]
  | failLoads fails => exact ⟨h.settings, rfl, h.failsEmissions, h.emissions⟩
  | failEmissions fails => exact ⟨h.settings, h.failsLoads, rfl, h.emissions⟩

/-- Where the item is left out, nothing is stored under its name. -/
theorem filter_kind_filter_isStoredAs {name : String} (hname : item.isStoredAs name)
    (records : List SettingsRecord) :
    (records.filter (!item.isStoredAs ·.kind)).filter (·.kind != name) =
      records.filter (!item.isStoredAs ·.kind) := by
  rw [List.filter_eq_self]
  intro r hr
  have hother := (List.mem_filter.mp hr).2
  rw [bne_iff_ne]
  intro hsame
  rw [hsame, hname] at hother
  cases hother

/-- A call to one of the stores that changes nothing but the item makes no other difference. -/
theorem Store.AgreeExcept.apply_left (h : s.AgreeExcept item s') {c : StoreCall}
    (hc : c.touchesOnly item) : (c.apply s).AgreeExcept item s' := by
  refine ⟨fun other => ?_, ?_, ?_, ?_⟩
  · rw [← h.settings other]
    cases c with
    | put cluster record =>
      have hstored : item.isStoredAs record.kind := hc
      rw [StoreCall.apply, filter_settings_put, filter_kind_filter_isStoredAs hstored]
      split
      case isTrue hsame => simp [hsame, hstored]
      case isFalse => rfl
    | remove cluster kind =>
      have hstored : item.isStoredAs kind.name := hc
      rw [StoreCall.apply, filter_settings_remove, filter_kind_filter_isStoredAs hstored]
      split
      case isTrue hsame => rw [hsame]
      case isFalse => rfl
    | failLoads fails => cases hc
    | failEmissions fails => cases hc
  · cases c with
    | failLoads fails => cases hc
    | _ => exact h.failsLoads
  · cases c with
    | failEmissions fails => cases hc
    | _ => exact h.failsEmissions
  · cases c <;> exact h.emissions

/-- What is stored under the name of a kind is read by this kind. -/
theorem Item.isReadBy_of_isStoredAs {kind : Kind} (h : item.isStoredAs kind.name) :
    item.isReadBy kind := by
  cases item with
  | record other =>
    obtain rfl := Kind.name_inj.mp (beq_iff_eq.mp h)
    exact beq_self_eq_true _
  | _ => cases h

/-- What is stored for a kind that does not read the item is the same in both stores. -/
theorem Store.AgreeExcept.inForce (h : s.AgreeExcept item s') {kind : Kind}
    (hkind : item.isReadBy kind = false) (d : Defaults) (cluster : String) :
    Settings.inForce d (s.settings cluster) kind =
      Settings.inForce d (s'.settings cluster) kind := by
  have hkept (records : List SettingsRecord) : records.filter (·.kind == kind.name) =
      (records.filter (!item.isStoredAs ·.kind)).filter (·.kind == kind.name) := by
    rw [List.filter_filter]
    apply List.filter_congr
    intro r _
    by_cases hname : r.kind = kind.name
    · have hother : item.isStoredAs kind.name = false := by
        rw [← Bool.not_eq_true]
        intro hstored
        rw [Item.isReadBy_of_isStoredAs hstored] at hkind
        cases hkind
      simp [hname, hother]
    · simp [hname]
  rw [Settings.inForce_eq, Settings.inForce_eq, hkept, h.settings, ← hkept]

end

/-! ### Two runs -/

/-- Two watches in which everything is the same but an item, and what the kinds that read it are
at. -/
structure Watch.AgreeExcept (item : Item) (w w' : Watch) : Prop where
  cluster : w.supervisor.cluster = w'.supervisor.cluster
  env : w.supervisor.env = w'.supervisor.env
  defaults : w.supervisor.defaults = w'.supervisor.defaults
  nextReload : w.supervisor.nextReload = w'.supervisor.nextReload
  loopOf : ∀ kind, item.isReadBy kind = false → w.loopOf kind = w'.loopOf kind
  store : w.store.AgreeExcept item w'.store
  nodup : (w.supervisor.loops.map (·.context.kind)).Nodup
  nodup' : (w'.supervisor.loops.map (·.context.kind)).Nodup

/-- Of two lists of ticks, those of a kind that does not read an item are the same. -/
def Item.SameTicks (item : Item) (deeds deeds' : List Deed) : Prop :=
  ∀ kind, item.isReadBy kind = false →
    deeds.filter (·.kind == kind) = deeds'.filter (·.kind == kind)

theorem Item.SameTicks.append {item : Item} {deeds deeds' later later' : List Deed}
    (h : item.SameTicks deeds deeds') (hlater : item.SameTicks later later') :
    item.SameTicks (deeds ++ later) (deeds' ++ later') := by
  intro kind hkind
  rw [List.filter_append, List.filter_append, h kind hkind, hlater kind hkind]

/-- Two runs in which the same happens, but that passes of time may show another item and may cut
short the kinds that read it at another step, and that calls that change nothing but the item may
come anywhere. -/
inductive Occurrence.Alike (item : Item) : List Occurrence → List Occurrence → Prop where
  | nil : Alike item [] []
  | same (o : Occurrence) {rest rest' : List Occurrence} (h : Alike item rest rest') :
      Alike item (o :: rest) (o :: rest')
  | pass {sight sight' : Sight} (hsight : sight.AgreeExcept item sight') (target : Nat)
      {cut cut' : Kind → Option Nat}
      (hcut : ∀ kind, item.isReadBy kind = false → cut kind = cut' kind)
      {rest rest' : List Occurrence} (h : Alike item rest rest') :
      Alike item (.pass sight target cut :: rest) (.pass sight' target cut' :: rest')
  | left {c : StoreCall} (hc : c.touchesOnly item) {rest rest' : List Occurrence}
      (h : Alike item rest rest') : Alike item (.call c :: rest) rest'
  | right {c : StoreCall} (hc : c.touchesOnly item) {rest rest' : List Occurrence}
      (h : Alike item rest rest') : Alike item rest (.call c :: rest')

namespace Watch.AgreeExcept

variable {item : Item} {w w' : Watch} {cut cut' : Kind → Option Nat}

/-- Up to a moment, the loops of the kinds that do not read the item do the same in both watches. -/
theorem runTo (h : w.AgreeExcept item w') {sight sight' : Sight}
    (hsight : sight.AgreeExcept item sight') (moment : Nat)
    (hcut : ∀ kind, item.isReadBy kind = false → cut kind = cut' kind) :
    (w.runTo sight moment cut).AgreeExcept item (w'.runTo sight' moment cut') ∧
      item.SameTicks (w.deedsTo sight moment cut) (w'.deedsTo sight' moment cut') := by
  have haccepts : w.store.accepts = w'.store.accepts := by
    rw [Store.accepts, Store.accepts, h.store.failsEmissions]
  have hran : ∀ kind, item.isReadBy kind = false →
      ((w.loopOf kind).map fun l =>
          l.runCut w.supervisor.env sight w.store.accepts moment (cut l.context.kind)) =
        (w'.loopOf kind).map fun l =>
          l.runCut w'.supervisor.env sight' w'.store.accepts moment (cut' l.context.kind) := by
    intro kind hkind
    rw [h.loopOf kind hkind, h.env, haccepts]
    cases hl : w'.loopOf kind with
    -- Not by `rfl`, which would compare the two courses of a loop by running them.
    | none => rw [Option.map_none, Option.map_none]
    | some l =>
      rw [Option.map_some, Option.map_some, w'.kind_of_loopOf hl, hcut kind hkind]
      exact congrArg some (hsight.runCut (w'.kind_of_loopOf hl ▸ hkind) ..)
  have hdeeds :
      item.SameTicks (w.deedsTo sight moment cut) (w'.deedsTo sight' moment cut') := by
    intro kind hkind
    have hdone := congrArg (Option.map Prod.snd) (hran kind hkind)
    rw [Option.map_map, Option.map_map] at hdone
    rw [filter_deedsTo w h.nodup, filter_deedsTo w' h.nodup']
    exact congrArg (Option.getD · []) hdone
  refine ⟨⟨h.cluster, h.env, h.defaults, h.nextReload, fun kind hkind => ?_, ?_, ?_, ?_⟩, hdeeds⟩
  · have hnext := congrArg (Option.map Prod.fst) (hran kind hkind)
    rw [Option.map_map, Option.map_map] at hnext
    rw [loopOf_runTo, loopOf_runTo]
    exact hnext
  · have hemissions : ∀ kind, item.isReadBy kind = false →
        (w.runTo sight moment cut).store.emissionsOf kind =
          (w'.runTo sight' moment cut').store.emissionsOf kind := by
      intro kind hkind
      rw [emissionsOf_runTo, emissionsOf_runTo, h.store.emissions kind hkind, hdeeds kind hkind]
    simp only [Watch.runTo, Store.foldl_store] at hemissions ⊢
    exact h.store.withEmissions hemissions
  · exact (w.supervisor.continues_runLoops ..).kinds.symm ▸ h.nodup
  · exact (w'.supervisor.continues_runLoops ..).kinds.symm ▸ h.nodup'

/-- A reload of both watches gives the same settings to every kind that does not read the item. -/
theorem find?_reload (h : w.AgreeExcept item w') {kind : Kind}
    (hkind : item.isReadBy kind = false) :
    ((w.supervisor.reload w.store).toOption.getD w.supervisor).loops.find?
        (·.context.kind == kind) =
      ((w'.supervisor.reload w'.store).toOption.getD w'.supervisor).loops.find?
        (·.context.kind == kind) := by
  have hloop := h.loopOf kind hkind
  have hinForce := h.store.inForce hkind w'.supervisor.defaults w'.supervisor.cluster
  unfold Supervisor.reload Store.load
  rw [h.store.failsLoads]
  cases w'.store.failsLoads with
  | true => exact hloop
  | false =>
    change (w.supervisor.applyStored (w.store.settings w.supervisor.cluster)).loops.find? _ =
      (w'.supervisor.applyStored (w'.store.settings w'.supervisor.cluster)).loops.find? _
    rw [find?_applyStored, find?_applyStored, h.cluster, h.defaults, hinForce]
    exact congrArg _ hloop

/-- Watches that are reloaded at the same time still agree, whether the reload fails or not. -/
theorem reloaded (h : w.AgreeExcept item w') : Watch.AgreeExcept item
    { w with supervisor := (w.supervisor.reload w.store).toOption.getD w.supervisor }
    { w' with supervisor := (w'.supervisor.reload w'.store).toOption.getD w'.supervisor } := by
  have hcontinues := w.supervisor.continues_reload w.store
  have hcontinues' := w'.supervisor.continues_reload w'.store
  refine ⟨?_, ?_, ?_, ?_, fun kind hkind => h.find?_reload hkind, h.store, ?_, ?_⟩
  · exact hcontinues.cluster.trans (h.cluster.trans hcontinues'.cluster.symm)
  · exact hcontinues.env.trans (h.env.trans hcontinues'.env.symm)
  · exact hcontinues.defaults.trans (h.defaults.trans hcontinues'.defaults.symm)
  · simp only [Supervisor.nextReload_reload, h.nextReload]
  · exact hcontinues.kinds.symm ▸ h.nodup
  · exact hcontinues'.kinds.symm ▸ h.nodup'

theorem reloadAt (h : w.AgreeExcept item w') (moment : Nat) :
    (w.reloadAt moment).AgreeExcept item (w'.reloadAt moment) := by
  have hreloaded := h.reloaded
  refine ⟨hreloaded.cluster, hreloaded.env, hreloaded.defaults, ?_, hreloaded.loopOf, h.store,
    hreloaded.nodup, hreloaded.nodup'⟩
  simp only [Watch.reloadAt, Supervisor.reloadAt, h.defaults]

/-- So do watches in which time passes to the same moment, with the reload that may be due. -/
theorem pass (h : w.AgreeExcept item w') {sight sight' : Sight}
    (hsight : sight.AgreeExcept item sight') (target : Nat)
    (hcut : ∀ kind, item.isReadBy kind = false → cut kind = cut' kind) :
    (w.step (.pass sight target cut)).AgreeExcept item (w'.step (.pass sight' target cut')) ∧
      item.SameTicks (w.deeds (.pass sight target cut))
        (w'.deeds (.pass sight' target cut')) := by
  have hleg : w.leg target = w'.leg target := by rw [leg, leg, h.nextReload]
  obtain ⟨hran, hdeeds⟩ := h.runTo hsight (w'.leg target) hcut
  simp only [Watch.step, Watch.pass, Watch.deeds, hleg, h.nextReload]
  refine ⟨?_, hdeeds⟩
  split
  · exact hran.reloadAt _
  · exact hran

/-- So do watches to which the same happens. -/
theorem step (h : w.AgreeExcept item w') (o : Occurrence) :
    (w.step o).AgreeExcept item (w'.step o) ∧ item.SameTicks (w.deeds o) (w'.deeds o) := by
  cases o with
  | call c =>
    exact ⟨⟨h.cluster, h.env, h.defaults, h.nextReload, h.loopOf, h.store.apply c, h.nodup,
      h.nodup'⟩, fun _ _ => rfl⟩
  | reload =>
    refine ⟨?_, fun _ _ => rfl⟩
    simp only [Watch.step, Watch.reload, h.nextReload]
    split
    · exact h.reloaded
    · exact h
  | stopKind kind =>
    have hcontinues := w.supervisor.continues_stopKind kind
    have hcontinues' := w'.supervisor.continues_stopKind kind
    refine ⟨⟨h.cluster, h.env, h.defaults, h.nextReload, fun other hother => ?_, h.store,
      hcontinues.kinds.symm ▸ h.nodup, hcontinues'.kinds.symm ▸ h.nodup'⟩, fun _ _ => rfl⟩
    let signal (l : AlertLoop) : AlertLoop := if l.context.kind == kind then l.stop.2 else l
    have hkept : ∀ l, (signal l).context.kind = l.context.kind := by
      intro l
      simp only [signal]
      split
      · exact l.kind_stop
      · rfl
    exact (find?_map_of_kind hkept _ other).trans
      ((congrArg _ (h.loopOf other hother)).trans (find?_map_of_kind hkept _ other).symm)
  | pass sight target cut =>
    have hsight : sight.AgreeExcept item sight :=
      ⟨fun _ _ => rfl, fun _ _ => rfl, fun _ _ _ => rfl, fun _ _ _ _ _ _ _ => rfl⟩
    exact h.pass hsight target fun _ _ => rfl

/-- Two runs in which the same happens but for an item differ in nothing but the kinds that read
it. -/
theorem after {run run' : List Occurrence} (hrun : Occurrence.Alike item run run')
    (h : w.AgreeExcept item w') :
    (w.after run).AgreeExcept item (w'.after run') ∧
      item.SameTicks (w.ticks run) (w'.ticks run') := by
  induction hrun generalizing w w' with
  | nil => exact ⟨h, fun _ _ => rfl⟩
  | same o _ ih =>
    obtain ⟨hnext, hdeeds⟩ := h.step o
    obtain ⟨hlast, hticks⟩ := ih hnext
    exact ⟨hlast, hdeeds.append hticks⟩
  | pass hsight target hcut _ ih =>
    obtain ⟨hnext, hdeeds⟩ := h.pass hsight target hcut
    obtain ⟨hlast, hticks⟩ := ih hnext
    exact ⟨hlast, hdeeds.append hticks⟩
  | left hc _ ih =>
    exact ih ⟨h.cluster, h.env, h.defaults, h.nextReload, h.loopOf, h.store.apply_left hc, h.nodup,
      h.nodup'⟩
  | right hc _ ih =>
    exact ih ⟨h.cluster, h.env, h.defaults, h.nextReload, h.loopOf,
      (h.store.symm.apply_left hc).symm, h.nodup, h.nodup'⟩

/-- On stores that agree, supervisors start in the same way. -/
theorem of_start {cluster : String} {env : Environment} {d : Defaults} {now : Nat}
    {store store' : Store} {v : Supervisor} (hstore : store.AgreeExcept item store')
    (hstart : Supervisor.start cluster env store d now = .ok v) :
    ∃ v', Supervisor.start cluster env store' d now = .ok v' ∧
      Watch.AgreeExcept item ⟨v, store, now⟩ ⟨v', store', now⟩ := by
  obtain ⟨stored, hload, rfl⟩ := Supervisor.start_eq_ok hstart
  have hload' : store'.load cluster = .ok (store'.settings cluster) := by
    unfold Store.load at hload ⊢
    rw [← hstore.failsLoads]
    split at hload
    · cases hload
    case isFalse hloads => rw [if_neg hloads]
  obtain rfl := Store.eq_of_load_eq_ok hload
  refine ⟨{
    cluster, env
    defaults := d
    loops := Kind.ordered.map (AlertLoop.fresh cluster d (store'.settings cluster) now)
    nextReload := some (now + Supervisor.reloadWait d) }, ?_, ?_⟩
  · rw [Supervisor.start, hload']
    rfl
  · have hkinds (stored : List SettingsRecord) :
        ((Kind.ordered.map (AlertLoop.fresh cluster d stored now)).map (·.context.kind)).Nodup := by
      rw [List.map_map]
      exact (List.map_id Kind.ordered).symm ▸ (by decide)
    refine ⟨rfl, rfl, rfl, rfl, fun kind hkind => ?_, hstore, hkinds _, hkinds _⟩
    have hfresh (stored : List SettingsRecord) :
        (Kind.ordered.map (AlertLoop.fresh cluster d stored now)).find? (·.context.kind == kind) =
          (Kind.ordered.find? (· == kind)).map (AlertLoop.fresh cluster d stored now) :=
      List.find?_map
    unfold Watch.loopOf
    rw [hfresh, hfresh]
    cases hfound : Kind.ordered.find? (· == kind) with
    | none => rfl
    | some found =>
      have hsame := List.find?_some hfound
      obtain rfl := beq_iff_eq.mp hsame
      simp only [Option.map_some, AlertLoop.fresh, Supervisor.freshContext, hstore.inForce hkind]

end Watch.AgreeExcept

/-- **Kinds do not interfere.** Let two supervisors start on stores that agree in everything but an
item, and let the same happen to both, but that another item may be seen at any time and that it may
be stored at any time. Then every kind that does not read the item has its loop at the same point of
both runs, with the same counter, has made the same ticks at the same times and has stored the same
alerts. -/
theorem kinds_do_not_interfere {item : Item} {cluster : String} {env : Environment} {d : Defaults}
    {now : Nat} {store store' : Store} {v : Supervisor} (hstore : store.AgreeExcept item store')
    (hstart : Supervisor.start cluster env store d now = .ok v)
    {run run' : List Occurrence} (hrun : Occurrence.Alike item run run') :
    ∃ v', Supervisor.start cluster env store' d now = .ok v' ∧
      ∀ kind, item.isReadBy kind = false →
        (∃ l, (Watch.after ⟨v, store, now⟩ run).loopOf kind = some l ∧
          (Watch.after ⟨v', store', now⟩ run').loopOf kind = some l) ∧
        (Watch.ticks ⟨v, store, now⟩ run).filter (·.kind == kind) =
          (Watch.ticks ⟨v', store', now⟩ run').filter (·.kind == kind) ∧
        (Watch.after ⟨v, store, now⟩ run).store.emissionsOf kind =
          (Watch.after ⟨v', store', now⟩ run').store.emissionsOf kind := by
  obtain ⟨v', hstart', hagree⟩ := Watch.AgreeExcept.of_start hstore hstart
  obtain ⟨hafter, hticks⟩ := hagree.after hrun
  refine ⟨v', hstart', fun kind hkind => ⟨?_, hticks kind hkind, hafter.store.emissions kind hkind⟩⟩
  obtain ⟨l, hl⟩ := Watch.exists_loopOf hstart run kind
  exact ⟨l, hl, hafter.loopOf kind hkind ▸ hl⟩

/-- A cluster of which nothing is known but how much of its capacity is used, and that no service
has an endpoint. -/
def usedBy (percent : UInt64) : Sight where
  gateway _ := {
    servers := .now (.error (.gateway ""))
    assignments := fun _ => .now (.error (.gateway ""))
    members := fun _ _ => .now (.error (.gateway ""))
    copysets := .now (.error (.gateway ""))
    raftStatus := fun _ => .now (.error (.gateway "")) }
  probe _ := {
    capacity := .now (.ok ⟨100, percent⟩)
    endpoints := fun _ => .now (.ok [])
    leads := fun _ _ => .now (.error (.gateway "")) }

/-- Whether the capacity of a cluster is a problem or not, a service without a leader is noticed at
the same time. -/
theorem kinds_do_not_interfere_capacity :
    let env : Environment := ⟨"east", {}, .ofSeconds 1⟩
    ∃ v, Supervisor.start "east" env {} {} 0 = .ok v ∧
      let full := Watch.ticks ⟨v, {}, 0⟩ [.pass (usedBy 95) 60000 fun _ => none]
      let empty := Watch.ticks ⟨v, {}, 0⟩ [.pass (usedBy 5) 60000 fun _ => none]
      (full.filter (·.kind == .clusterCapacity)).map Deed.outcome = [.pending 1 3] ∧
        (empty.filter (·.kind == .clusterCapacity)).map Deed.outcome = [.healthy] ∧
        (full.filter (·.kind == .leader .etcd)).map Deed.outcome = [.pending 1 3] ∧
        full.filter (·.kind == .leader .etcd) = empty.filter (·.kind == .leader .etcd) := by
  intro env
  let v : Supervisor := {
    cluster := "east", env
    defaults := {}
    loops := Kind.ordered.map (AlertLoop.fresh "east" {} [] 0)
    nextReload := some (0 + Supervisor.reloadWait {}) }
  have hstart : Supervisor.start "east" env {} {} 0 = .ok v := rfl
  have hsight : (usedBy 95).AgreeExcept .capacity (usedBy 5) :=
    ⟨fun _ _ => rfl, fun h => absurd rfl h, fun _ _ _ => rfl, fun _ _ _ _ _ _ _ => rfl⟩
  have hstore : Store.AgreeExcept .capacity {} {} := ⟨fun _ => rfl, rfl, rfl, fun _ _ => rfl⟩
  have hrun : Occurrence.Alike .capacity [.pass (usedBy 95) 60000 fun _ => none]
      [.pass (usedBy 5) 60000 fun _ => none] := .pass hsight 60000 (fun _ _ => rfl) .nil
  obtain ⟨v', hstart', hsame⟩ := kinds_do_not_interfere hstore hstart hrun
  obtain rfl := Except.ok.inj (hstart.symm.trans hstart')
  have hleg : Watch.leg ⟨v, {}, 0⟩ 60000 = 60000 := by decide +kernel
  have hticks (sight : Sight) (kind : Kind) :
      (Watch.ticks ⟨v, {}, 0⟩ [.pass sight 60000 fun _ => none]).filter (·.kind == kind) =
        ((Watch.loopOf ⟨v, {}, 0⟩ kind).map fun l =>
          (l.runUntil env sight true 60000).2).getD [] := by
    rw [Watch.ticks, Watch.ticks, List.append_nil, Watch.deeds, hleg]
    exact Watch.filter_deedsTo ⟨v, {}, 0⟩ (by decide) sight 60000 _ kind
  refine ⟨v, hstart, ?_, ?_, ?_, (hsame (.leader .etcd) rfl).2.1⟩
  · rw [hticks]
    decide +kernel
  · rw [hticks]
    decide +kernel
  · rw [hticks]
    decide +kernel

end CopysetWatch.Alert
