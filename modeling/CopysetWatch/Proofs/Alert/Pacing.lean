import CopysetWatch.Proofs.Alert.Reaching
import Mathlib.Data.List.Nodup

/-!
# The pace of a monitor

A valid configuration has no zero among its defaults, and a stored record with a zero is passed over
for the defaults, so that no settings with a zero ever reach a loop, whatever is stored and whenever
it is loaded. Settings without a zero make a loop wait for a second before every tick. `KeepsPace`
says so of the ticks that are over and of the next one, and everything that can happen to a
supervisor keeps it.
-/

namespace CopysetWatch

namespace Alert

/-! ### Settings without a zero -/

/-- Settings by which a loop waits for a second or longer and an alert takes one problem or
more. -/
structure Settings.IsValid (s : Settings) : Prop where
  interval : (Duration.ofSeconds 1).nanos ≤ s.interval.nanos
  triggerTimes : 1 ≤ s.triggerTimes

/-- Defaults without a zero. -/
structure Defaults.IsValid (d : Defaults) : Prop where
  reloadInterval : d.reloadInterval.isZero = false
  intervalSecs : d.intervalSecs ≠ 0
  triggerTimes : d.triggerTimes ≠ 0

namespace Settings

theorem isValid_ofSeconds {seconds : UInt64} {times : UInt32} (hseconds : seconds ≠ 0)
    (htimes : times ≠ 0) (enabled : Bool) (rule : String) :
    IsValid ⟨enabled, .ofSeconds seconds.toNat, times, rule⟩ where
  interval := by
    have hpos : seconds.toNat ≠ 0 := fun hzero => hseconds (UInt64.toNat_inj.mp hzero)
    simp only [Duration.ofSeconds]
    omega
  triggerTimes := by
    have hpos : times.toNat ≠ 0 := fun hzero => htimes (UInt32.toNat_inj.mp hzero)
    rw [UInt32.le_iff_toNat_le]
    exact Nat.one_le_iff_ne_zero.mpr hpos

/-- The settings of a record are valid, if it holds any. -/
theorem isValid_of_ofRecord {r : SettingsRecord} {s : Settings} (h : ofRecord r = .ok s) :
    s.IsValid := by
  unfold ofRecord at h
  split at h
  case isTrue => cases h
  case isFalse hseconds =>
    split at h
    case isTrue => cases h
    case isFalse htimes =>
      cases h
      exact isValid_ofSeconds hseconds htimes r.enabled r.rule

/-- Settings in force are the defaults or those of a record. -/
theorem inForce_cases (d : Defaults) (stored : List SettingsRecord) (kind : Kind) :
    inForce d stored kind = ofDefaults kind d ∨
      ∃ r ∈ stored, ofRecord r = .ok (inForce d stored kind) := by
  unfold inForce
  cases hlast : (stored.filterMap (ofRecordFor? kind)).getLast? with
  | none => exact .inl rfl
  | some s =>
    -- The last record decides of those that hold settings for the kind.
    obtain ⟨r, hr, hread⟩ := List.mem_filterMap.mp (List.mem_of_getLast? hlast)
    refine .inr ⟨r, hr, ?_⟩
    unfold ofRecordFor? at hread
    split at hread
    case isFalse => cases hread
    case isTrue =>
      cases hrecord : ofRecord r with
      | error f => rw [hrecord] at hread; cases hread
      | ok other =>
        rw [hrecord] at hread
        exact congrArg Except.ok (Option.some.inj hread)

/-- Whatever is stored, the settings in force are valid if the defaults are. -/
theorem isValid_inForce {d : Defaults} (h : d.IsValid) (stored : List SettingsRecord)
    (kind : Kind) : (inForce d stored kind).IsValid := by
  obtain hdefault | ⟨r, -, hread⟩ := inForce_cases d stored kind
  · rw [hdefault]
    exact isValid_ofSeconds h.intervalSecs h.triggerTimes true _
  · exact isValid_of_ofRecord hread

/-- By valid settings, a loop waits for a second or longer. -/
theorem IsValid.le_wait {s : Settings} (h : s.IsValid) : 1000 ≤ s.wait := by
  have hinterval := h.interval
  simp only [Duration.ofSeconds] at hinterval
  simp only [wait, Duration.millis]
  omega

end Settings

/-! ### The pace of a loop -/

namespace AlertLoop

theorem settings_resume (l : AlertLoop) (c : Context) (now : Nat) :
    (l.resume c now).context.settings = c.settings := by
  unfold resume
  split <;> rfl

/-- The moment at which the tick under way began, or at which the next one begins. -/
def tickFrom? (l : AlertLoop) : Option Nat :=
  match l.phase with
  | .waiting due => some due
  | .evaluating began _ => some began
  | .ended | .died => none

/-- Since a moment, a loop has done some ticks at its pace: it has valid settings, each of the ticks
began a second after the moment and after the one before was over, or later, and so does the next
one. -/
structure KeepsPace (since : Nat) (l : AlertLoop) (ticks : List Deed) : Prop where
  settings : l.context.settings.IsValid
  rested : ∀ tick ∈ ticks, since + 1000 ≤ tick.began
  forward : ∀ tick ∈ ticks, tick.began ≤ tick.ended
  apart : ticks.Pairwise fun tick later => tick.ended + 1000 ≤ later.began
  next : ∀ moment, l.tickFrom? = some moment →
    since + 1000 ≤ moment ∧ ∀ tick ∈ ticks, tick.ended + 1000 ≤ moment

section

variable {since : Nat} {l next : AlertLoop} {ticks deeds : List Deed} {env : Environment}
  {sight : Sight} {accepts : Bool} {target : Nat}

/-- After a tick, a loop with valid settings waits for a second or longer, if it goes on. -/
theorem le_of_tickFrom?_resume {c : Context} (hvalid : c.settings.IsValid) {now moment : Nat}
    (h : (l.resume c now).tickFrom? = some moment) : now + 1000 ≤ moment := by
  unfold resume at h
  split at h
  · cases h
  · obtain rfl := Option.some.inj h
    exact Nat.add_le_add_left hvalid.le_wait now

/-- A loop that ends a tick and waits again keeps its pace. -/
theorem KeepsPace.resume (h : l.KeepsPace since ticks) (tick : Deed) {c : Context}
    (hvalid : c.settings.IsValid) (hfrom : l.tickFrom? = some tick.began)
    (hforward : tick.began ≤ tick.ended) :
    (l.resume c tick.ended).KeepsPace since (ticks ++ [tick]) := by
  -- What held of the moment at which the tick was to begin holds of the tick.
  obtain ⟨hrested, hapart⟩ := h.next _ hfrom
  refine ⟨(l.settings_resume c tick.ended).symm ▸ hvalid, ?_, ?_, ?_, fun moment hmoment => ?_⟩
  · exact List.forall_mem_append.mpr ⟨h.rested, by simpa using hrested⟩
  · exact List.forall_mem_append.mpr ⟨h.forward, by simpa using hforward⟩
  · simpa [List.pairwise_append] using ⟨h.apart, hapart⟩
  · have hwait := le_of_tickFrom?_resume hvalid hmoment
    refine ⟨by omega, List.forall_mem_append.mpr ⟨fun earlier hearlier => ?_, by simpa using hwait⟩⟩
    have hbefore := hapart earlier hearlier
    omega

/-- With each step, a loop keeps its pace. -/
theorem KeepsPace.step (h : l.KeepsPace since ticks)
    (hsteps : l.Steps env sight accepts target next deeds) :
    next.KeepsPace since (ticks ++ deeds) := by
  cases hsteps with
  | begins hphase hdue henabled =>
    rw [List.append_nil]
    exact ⟨h.settings, h.rested, h.forward, h.apart,
      fun moment hmoment => h.next moment (by simpa [tickFrom?, hphase] using hmoment)⟩
  | idles hphase hdue hdisabled =>
    exact h.resume (.idle l.context _) h.settings (by simp [tickFrom?, hphase, Deed.idle])
      (Nat.le_refl _)
  | @settles began rule finding hphase hend hfinding =>
    refine h.resume (.ofEvaluation env l.context accepts _ _ finding) ?_ ?_ (Nat.le_add_right ..)
    · rw [(l.context.concludes accepts finding).same.2.2]
      exact h.settings
    · simp [tickFrom?, hphase, Deed.ofEvaluation]
  | dies =>
    rw [List.append_nil]
    exact ⟨h.settings, h.rested, h.forward, h.apart, by simp [tickFrom?, die]⟩

/-- However long it runs, a loop keeps its pace. -/
theorem KeepsPace.ran (h : l.KeepsPace since ticks)
    (hran : Ran env sight accepts target l next deeds) :
    next.KeepsPace since (ticks ++ deeds) := by
  induction hran generalizing ticks with
  | nil l =>
    rw [List.append_nil]
    exact h
  | cons hstep _ ih =>
    rw [← List.append_assoc]
    exact ih (h.step hstep)

/-- Other valid settings do not change what the loop waits for. -/
theorem KeepsPace.apply (h : l.KeepsPace since ticks) {s : Settings} (hs : s.IsValid) :
    (l.apply s).KeepsPace since ticks :=
  ⟨hs, h.rested, h.forward, h.apart, h.next⟩

/-- A loop that is told to stop keeps its pace, with no tick after the one under way. -/
theorem KeepsPace.stop (h : l.KeepsPace since ticks) : l.stop.2.KeepsPace since ticks := by
  unfold AlertLoop.stop Context.stop
  cases l.context.handle.filter l.listens with
  | none => exact ⟨h.settings, h.rested, h.forward, h.apart, h.next⟩
  | some r =>
    cases hphase : l.phase with
    | evaluating began rule =>
      refine ⟨h.settings, h.rested, h.forward, h.apart, fun moment hmoment => h.next moment ?_⟩
      simpa [tickFrom?, hphase] using hmoment
    | waiting _ | ended | died =>
      exact ⟨h.settings, h.rested, h.forward, h.apart, by simp [tickFrom?, finish]⟩

/-- A loop with valid settings keeps its pace from its beginning. -/
theorem keepsPace_fresh {d : Defaults} (hd : d.IsValid) (cluster : String)
    (stored : List SettingsRecord) (now : Nat) (kind : Kind) :
    (fresh cluster d stored now kind).KeepsPace now [] := by
  have hvalid := Settings.isValid_inForce hd stored kind
  refine ⟨hvalid, by simp, by simp, .nil, fun moment hmoment => ⟨?_, by simp⟩⟩
  obtain rfl := Option.some.inj hmoment
  exact Nat.add_le_add_left hvalid.le_wait now

/-! ### What an alert is founded on -/

/-- A loop evaluates by a rule from a moment on, or it would if a tick began then. -/
def GoesBy (l : AlertLoop) (began : Nat) (rule : String) : Prop :=
  l.phase = .evaluating began rule ∨ rule = l.context.settings.rule

/-- An alert of a tick is that of a problem which its evaluation found. -/
def Founds (l : AlertLoop) (env : Environment) (sight : Sight) (tick : Deed) (e : Emission) :
    Prop :=
  ∃ rule message, l.GoesBy tick.began rule ∧
    (l.context.kind.evaluate env sight rule tick.began).finding = .value (some message) ∧
    e = .of l.context.cluster l.context.kind message

/-- An alert that is offered to the store words the problem that was found. -/
theorem exists_of_offer_conclude {c : Context} {accepts : Bool}
    {finding : Except Fault (Option String)} {e : Emission}
    (h : (c.conclude accepts finding).2.1 = some e) :
    ∃ message, finding = .ok (some message) ∧ e = .of c.cluster c.kind message := by
  have hconcludes := c.concludes accepts finding
  generalize c.conclude accepts finding = result at hconcludes h
  cases hconcludes <;> cases h
  case emitFailed.refl | emitted.refl => exact ⟨_, rfl, rfl⟩

/-- A loop after some of its steps: it goes by the same settings and by no other rule. -/
structure Proceeds (l later : AlertLoop) : Prop where
  cluster : later.context.cluster = l.context.cluster
  kind : later.context.kind = l.context.kind
  settings : later.context.settings = l.context.settings
  rule : ∀ began rule, later.phase = .evaluating began rule → l.GoesBy began rule

/-- A loop proceeds as it ends a tick that leaves its settings as they are. -/
theorem Proceeds.resume {later : AlertLoop} (h : l.Proceeds later) {c : Context}
    (hcluster : c.cluster = later.context.cluster) (hkind : c.kind = later.context.kind)
    (hsettings : c.settings = later.context.settings) (now : Nat) :
    l.Proceeds (later.resume c now) := by
  unfold AlertLoop.resume
  split
  all_goals
    exact ⟨hcluster.trans h.cluster, hkind.trans h.kind, hsettings.trans h.settings,
      fun _ _ hphase => by cases hphase⟩

/-- With each step, a loop proceeds, and its alerts are founded. -/
theorem Proceeds.step {later : AlertLoop} (h : l.Proceeds later)
    (hsteps : later.Steps env sight accepts target next deeds) :
    l.Proceeds next ∧ ∀ tick ∈ deeds, ∀ e, tick.emission = some e → l.Founds env sight tick e := by
  cases hsteps with
  | begins hphase hdue henabled =>
    refine ⟨⟨h.cluster, h.kind, h.settings, ?_⟩, by simp⟩
    rintro began rule ⟨⟩
    exact .inr (congrArg Settings.rule h.settings)
  | idles hphase hdue hdisabled => exact ⟨h.resume rfl rfl rfl _, by simp [Deed.idle]⟩
  | @settles began rule finding hphase hend hfinding =>
    obtain ⟨hcluster, hkind, hsettings⟩ := (later.context.concludes accepts finding).same
    refine ⟨h.resume hcluster hkind hsettings _, ?_⟩
    simp only [List.mem_singleton, forall_eq]
    intro e he
    obtain ⟨message, rfl, rfl⟩ :=
      exists_of_offer_conclude (Deed.offer_of_emission_ofEvaluation he)
    refine ⟨rule, message, h.rule began rule hphase, ?_, ?_⟩
    · rw [← h.kind]
      exact Outcome.returned?_eq_some_iff.mp hfinding
    · rw [h.cluster, h.kind]
  | dies => exact ⟨⟨h.cluster, h.kind, h.settings, fun _ _ hphase => by cases hphase⟩, by simp⟩

/-- However long a loop runs, its alerts are founded. -/
theorem founds_of_mem_ran (hran : Ran env sight accepts target l next deeds) {tick : Deed}
    (htick : tick ∈ deeds) {e : Emission} (he : tick.emission = some e) :
    l.Founds env sight tick e := by
  have hbegins : l.Proceeds l := ⟨rfl, rfl, rfl, fun _ _ => .inl⟩
  exact (hran.induction l.Proceeds
    (fun tick => ∀ e, tick.emission = some e → l.Founds env sight tick e)
    (fun _ _ _ h hsteps => h.step hsteps) hbegins).2 tick htick e he

end

end AlertLoop

/-! ### The pace of a supervisor -/

/-- Since a moment, a supervisor has done some ticks at its pace: it has a loop for each kind, and
each of them has kept its pace. -/
structure Supervisor.KeepsPace (since : Nat) (v : Supervisor) (ticks : List Deed) : Prop where
  kinds : v.contexts.map Context.kind = Kind.ordered
  defaults : v.defaults.IsValid
  loops : ∀ l ∈ v.loops, l.KeepsPace since (ticks.filter (·.kind == l.context.kind))

theorem Kind.nodup_ordered : ordered.Nodup := by
  decide

namespace Supervisor.KeepsPace

variable {since : Nat} {v : Supervisor} {w : Watch} {ticks : List Deed}

theorem kinds_loops (h : v.KeepsPace since ticks) :
    v.loops.map (·.context.kind) = Kind.ordered := by
  rw [← h.kinds, contexts, List.map_map]
  rfl

theorem nodup (h : v.KeepsPace since ticks) : (v.loops.map (·.context.kind)).Nodup := by
  rw [h.kinds_loops]
  exact Kind.nodup_ordered

/-- A supervisor keeps its pace if it goes on and its loops keep theirs. -/
theorem of_continues (h : v.KeepsPace since ticks) {later : Supervisor} (hlater : v.Continues later)
    {more : List Deed} (hloops : ∀ l ∈ later.loops,
      l.KeepsPace since (more.filter (·.kind == l.context.kind))) :
    later.KeepsPace since more where
  kinds := by
    have hkinds := hlater.kinds.trans h.kinds_loops
    rw [contexts, List.map_map]
    exact hkinds
  defaults := by
    rw [hlater.defaults]
    exact h.defaults
  loops := hloops

theorem reload (h : v.KeepsPace since ticks) (store : Store) :
    ((v.reload store).toOption.getD v).KeepsPace since ticks := by
  refine h.of_continues (v.continues_reload store) ?_
  unfold Supervisor.reload
  cases store.load v.cluster with
  | error f => exact h.loops
  | ok stored =>
    refine List.forall_mem_map.mpr fun l hl => ?_
    exact (h.loops l hl).apply (Settings.isValid_inForce h.defaults stored l.context.kind)

theorem reloadAt (h : v.KeepsPace since ticks) (store : Store) (now : Nat) :
    (v.reloadAt store now).KeepsPace since ticks :=
  h.of_continues (v.continues_reloadAt store now) (h.reload store).loops

theorem stopKind (h : v.KeepsPace since ticks) (kind : Kind) :
    (v.stopKind kind).2.KeepsPace since ticks := by
  refine h.of_continues (v.continues_stopKind kind) (List.forall_mem_map.mpr fun l hl => ?_)
  split
  · rw [l.kind_stop]
    exact (h.loops l hl).stop
  · exact h.loops l hl

/-- The loop of a kind is the one that has it. -/
theorem loopOf_eq (h : w.supervisor.KeepsPace since ticks) {l : AlertLoop}
    (hl : l ∈ w.supervisor.loops) : w.loopOf l.context.kind = some l := by
  have hsome : (w.loopOf l.context.kind).isSome :=
    List.find?_isSome.mpr ⟨l, hl, beq_self_eq_true _⟩
  obtain ⟨other, hother⟩ := Option.isSome_iff_exists.mp hsome
  have hsame := List.inj_on_of_nodup_map h.nodup (List.mem_of_find?_eq_some hother) hl
    (w.kind_of_loopOf hother)
  rw [hother, hsame]

/-- Up to a moment, all loops keep their pace. -/
theorem runTo (h : w.supervisor.KeepsPace since ticks) (sight : Sight) (moment : Nat)
    (cut : Kind → Option Nat) : (w.runTo sight moment cut).supervisor.KeepsPace since
      (ticks ++ w.deedsTo sight moment cut) := by
  refine h.of_continues (w.supervisor.continues_runLoops sight w.store.accepts moment cut) ?_
  unfold runLoops
  dsimp only
  rw [List.map_map]
  refine List.forall_mem_map.mpr fun l hl => ?_
  -- No two loops have the same kind, so the ticks of a kind are those that its loop has done.
  have hran := l.ran_runCut w.supervisor.env sight w.store.accepts moment (cut l.context.kind)
  rw [Function.comp_apply, hran.isOf.1, List.filter_append, Watch.filter_deedsTo w h.nodup,
    h.loopOf_eq hl]
  exact (h.loops l hl).ran hran

/-- With everything that happens, all loops keep their pace. -/
theorem step (h : w.supervisor.KeepsPace since ticks) (o : Occurrence) :
    (w.step o).supervisor.KeepsPace since (ticks ++ w.deeds o) := by
  cases o with
  | call c =>
    simp only [Watch.deeds, List.append_nil]
    exact h
  | reload =>
    simp only [Watch.deeds, List.append_nil, Watch.step, Watch.reload]
    split
    · exact h.reload w.store
    · exact h
  | stopKind kind =>
    simp only [Watch.deeds, List.append_nil]
    exact h.stopKind kind
  | pass sight target cut =>
    have hran := h.runTo sight (w.leg target) cut
    rw [Watch.step, Watch.pass]
    split
    · exact hran.reloadAt _ _
    · exact hran

/-- The ticks on the way to a moment are those of the loops. -/
theorem exists_loopOf_of_mem_deeds (h : w.supervisor.KeepsPace since ticks) {sight : Sight}
    {target : Nat} {cut : Kind → Option Nat} {tick : Deed}
    (htick : tick ∈ w.deeds (.pass sight target cut)) :
    ∃ l, w.loopOf tick.kind = some l ∧ tick ∈ (l.runCut w.supervisor.env sight w.store.accepts
      (w.leg target) (cut l.context.kind)).2 := by
  have hkind : tick ∈ (w.deeds (.pass sight target cut)).filter (·.kind == tick.kind) :=
    List.mem_filter.mpr ⟨htick, beq_self_eq_true _⟩
  rw [Watch.deeds, Watch.filter_deedsTo w h.nodup] at hkind
  cases hl : w.loopOf tick.kind with
  | none => rw [hl] at hkind; cases hkind
  | some l =>
    rw [hl] at hkind
    exact ⟨l, rfl, hkind⟩

end Supervisor.KeepsPace

namespace Watch

/-- The supervisor reloads by itself, at a moment that is still to come. -/
def ReloadsLater (w : Watch) : Prop :=
  ∃ due, w.supervisor.nextReload = some due ∧ w.now < due

/-- Whatever happens, the next reload is still to come. -/
theorem ReloadsLater.step {w : Watch} (h : w.ReloadsLater) (o : Occurrence) :
    (w.step o).ReloadsLater := by
  obtain ⟨due, hnext, hlt⟩ := h
  cases o with
  | call c => exact ⟨due, hnext, hlt⟩
  | reload =>
    refine ⟨due, ?_, ?_⟩
    all_goals rw [Watch.step, reload, if_pos (by rw [hnext]; rfl)]
    · exact (w.supervisor.nextReload_reload w.store).trans hnext
    · exact hlt
  | stopKind kind => exact ⟨due, hnext, hlt⟩
  | pass sight target cut =>
    rw [Watch.step]
    by_cases hdue : due ≤ target
    · have hwait : 1 ≤ Supervisor.reloadWait w.supervisor.defaults := Nat.le_max_left ..
      rw [w.pass_of_due hnext hdue]
      refine ⟨due + Supervisor.reloadWait w.supervisor.defaults, rfl, ?_⟩
      change max w.now due < _
      omega
    · have hlate : ∀ other, w.supervisor.nextReload = some other → target < other := by
        simpa [hnext] using hdue
      rw [w.pass_of_late hlate]
      refine ⟨due, hnext, ?_⟩
      change max w.now target < due
      omega

/-- Whatever a watch comes to, its supervisor has kept its pace, and reloads later. -/
theorem Reaches.keepsPace {w later : Watch} {since : Nat} {ticks : List Deed}
    (h : w.Reaches later ticks) (hbegin : w.supervisor.KeepsPace since [])
    (hreloads : w.ReloadsLater) :
    later.supervisor.KeepsPace since ticks ∧ later.ReloadsLater := by
  induction h with
  | refl => exact ⟨hbegin, hreloads⟩
  | restock _ store ih => exact ih
  | step _ o ih => exact ⟨ih.1.step o, ih.2.step o⟩

end Watch

/-- A supervisor keeps its pace from its beginning, if its defaults are valid. -/
theorem Supervisor.keepsPace_start {cluster : String} {env : Environment} {store : Store}
    {d : Defaults} {now : Nat} {v : Supervisor} (hd : d.IsValid)
    (h : Supervisor.start cluster env store d now = .ok v) : v.KeepsPace now [] where
  kinds := by
    rw [contexts, List.map_map]
    exact Supervisor.kinds_start h
  defaults := by
    obtain ⟨stored, -, rfl⟩ := Supervisor.start_eq_ok h
    exact hd
  loops := by
    obtain ⟨stored, -, rfl⟩ := Supervisor.start_eq_ok h
    exact List.forall_mem_map.mpr fun kind _ => AlertLoop.keepsPace_fresh hd cluster stored now kind

end Alert

open Alert

/-- The defaults of a valid configuration are valid. -/
theorem Config.isValid_alerting {c : Config} (h : c.validate = .ok ()) : c.alerting.IsValid := by
  unfold validate at h
  split_ifs at h with hname hraft hgateway hfactor hseconds htimes hreload
  exact ⟨Bool.eq_false_iff.mpr hreload, hseconds, htimes⟩

namespace Simulation

/-- **The pace of a monitor.** A monitor starts only by a valid configuration, and everything that
is done to it is one of the ways in which its watch may go on. Whatever is stored at the start,
whatever becomes of the store later, and whenever the settings are reloaded, there is a context of
every kind, with an interval of a second or more and a trigger count of one or more. Each loop waits
for a second or longer before every tick, the next reload is still to come, and no alert comes from
a tick that did not find the problem of which it tells. -/
theorem monitor_keepsPace {s started : Simulation} {c : Config} {name : String}
    (hstart : s.startMonitor c = (.ok name, started)) :
    c.validate = .ok () ∧ ∃ v, started.supervisor = some v ∧
      (∀ actions, ∃ w ticks, Watch.Reaches ⟨v, started.store, started.now⟩ w ticks ∧
        (started.after actions).supervisor = some w.supervisor) ∧
      ∀ w ticks, Watch.Reaches ⟨v, started.store, started.now⟩ w ticks →
        w.supervisor.KeepsPace started.now ticks ∧ w.ReloadsLater ∧
        ∀ sight target cut, ∀ tick ∈ w.deeds (.pass sight target cut),
          ∀ e, tick.emission = some e → ∃ l, w.loopOf tick.kind = some l ∧
            l.Founds w.supervisor.env sight tick e := by
  obtain ⟨hvalid, v, hv, hat, -⟩ := exists_isAt_of_startMonitor hstart
  rw [hat.store, hat.now]
  refine ⟨hvalid, v, hat.supervisor, fun actions => ?_, fun w ticks hreaches => ?_⟩
  · obtain ⟨w, ticks, hreaches, hlater⟩ := hat.exists_after actions
    exact ⟨w, ticks, hreaches, hlater.supervisor⟩
  · have hbegin := Supervisor.keepsPace_start (Config.isValid_alerting hvalid) hv
    have hreloads : Watch.ReloadsLater ⟨v, s.store, s.now⟩ := by
      obtain ⟨stored, -, rfl⟩ := Supervisor.start_eq_ok hv
      exact ⟨_, rfl, Nat.lt_add_of_pos_right (Nat.le_max_left ..)⟩
    obtain ⟨hpace, hlater⟩ := hreaches.keepsPace hbegin hreloads
    refine ⟨hpace, hlater, fun sight target cut tick htick e he => ?_⟩
    obtain ⟨l, hl, hran⟩ := hpace.exists_loopOf_of_mem_deeds htick
    exact ⟨l, hl, AlertLoop.founds_of_mem_ran (AlertLoop.ran_runCut ..) hran he⟩

/-- Records of a cluster with a zero and of an unknown kind. -/
def illStored : Simulation where
  env := Config.development.environment
  store := ({} : Store).after [.put "dev-cluster" ⟨"etcd_leader", true, 0, 3, ""⟩,
    .put "dev-cluster" ⟨"etcd_follower", true, 5, 0, ""⟩]

/-- A monitor keeps its pace by the defaults while the records of two kinds have zeros, through a
reload of both, and tells of a service without a leader at its first tick. -/
theorem monitor_keepsPace_illStored : ∃ v started,
    illStored.startMonitor .development = (.ok "dev-cluster", started) ∧
      started.supervisor = some v ∧
      let w := Watch.after ⟨v, started.store, started.now⟩
        [.call (.put "dev-cluster" ⟨"mds_offline", true, 7, 0, ""⟩), .reload]
      w.supervisor.KeepsPace 0 [] ∧ w.supervisor.nextReload = some 10000 ∧
        ∃ tick ∈ w.deeds (.pass illStored.sight 10000 fun _ => none), ∃ e, tick.emission = some e ∧
          ∃ l, w.loopOf tick.kind = some l ∧ l.Founds w.supervisor.env illStored.sight tick e := by
  let d := Config.development.alerting
  let v : Supervisor := {
    cluster := "dev-cluster"
    env := Config.development.environment
    defaults := d
    loops := Kind.ordered.map (AlertLoop.fresh "dev-cluster" d
      (illStored.store.settings "dev-cluster") 0)
    nextReload := some (0 + Supervisor.reloadWait d) }
  have hstart : illStored.startMonitor .development =
      (.ok "dev-cluster", { illStored with supervisor := some v }) := by
    rfl
  refine ⟨v, _, hstart, rfl, ?_⟩
  intro w
  obtain ⟨-, other, hother, -, hreached⟩ := monitor_keepsPace hstart
  obtain rfl := Option.some.inj hother
  obtain ⟨hpace, -, hfounds⟩ := hreached _ _ (Watch.reaches_after _
    [.call (.put "dev-cluster" ⟨"mds_offline", true, 7, 0, ""⟩), .reload])
  have hemits : ((w.deeds (.pass illStored.sight 10000 fun _ => none)).filter
      (·.kind == .leader .etcd)).filterMap Deed.emission =
        [.of "dev-cluster" (.leader .etcd) "etcd has no leader"] := by
    rw [Watch.deeds, Watch.filter_deedsTo w hpace.nodup]
    decide +kernel
  obtain ⟨tick, htick, he⟩ := List.mem_filterMap.mp (hemits ▸ List.mem_singleton_self _)
  have hpassed := (List.mem_filter.mp htick).1
  exact ⟨hpace, by decide +kernel, tick, hpassed, _, he, hfounds _ _ _ tick hpassed _ he⟩

end Simulation

end CopysetWatch
