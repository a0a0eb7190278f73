import CopysetWatch.Proofs.Alert.LoopSteps
import CopysetWatch.Simulation.Basic

/-!
# Watches

A watch is a supervisor with the store that it works with. While it lasts, settings are stored and
forgotten, the store fails and recovers, the settings are reloaded, single loops are told to stop,
and time passes. `Occurrence` lists what can happen, and a run is a list of occurrences, each pass
of time with everything that can be seen meanwhile and with how far each loop gets at its very last
moment, since whatever comes next may come between the steps that fall on this moment. A run is
taken apart twice: its store is that of the calls from outside, with the alerts of its ticks, and
the loop of each kind runs on its own, up to the next occurrence that is for all of them.
-/

namespace CopysetWatch.Alert

/-! ### Calls to a store -/

/-- What is done to a store from outside. -/
inductive StoreCall where
  | put (cluster : String) (record : SettingsRecord)
  | remove (cluster : String) (kind : Kind)
  | failLoads (fails : Bool)
  | failEmissions (fails : Bool)

/-- What a call does. -/
def StoreCall.apply : StoreCall → Store → Store
  | .put cluster record, s => s.put cluster record
  | .remove cluster kind, s => s.remove cluster kind
  | .failLoads fails, s => { s with failsLoads := fails }
  | .failEmissions fails, s => { s with failsEmissions := fails }

namespace Store

/-- The store after some calls. -/
def after (s : Store) (calls : List StoreCall) : Store :=
  calls.foldl (fun s c => c.apply s) s

theorem after_append (s : Store) (first rest : List StoreCall) :
    s.after (first ++ rest) = (s.after first).after rest :=
  List.foldl_append

/-- The store with other alerts. -/
def withEmissions (s : Store) (emissions : List Emission) : Store :=
  { s with emissions }

/-- Calls from outside have nothing to do with the alerts. -/
theorem after_withEmissions (s : Store) (emissions : List Emission) (calls : List StoreCall) :
    (s.withEmissions emissions).after calls = (s.after calls).withEmissions emissions := by
  induction calls generalizing s with
  | nil => rfl
  | cons c rest ih =>
    have hone : c.apply (s.withEmissions emissions) = (c.apply s).withEmissions emissions := by
      cases c <;> rfl
    exact (congrArg (·.after rest) hone).trans (ih (c.apply s))

/-- Storing alerts has nothing to do with anything but the alerts. -/
theorem foldl_store (s : Store) (deeds : List Deed) : deeds.foldl (fun s d => d.store s) s =
    s.withEmissions (s.emissions ++ deeds.filterMap Deed.emission) := by
  induction deeds generalizing s with
  | nil => simp [withEmissions]
  | cons d rest ih =>
    have hone : d.store s = s.withEmissions (s.emissions ++ d.emission.toList) := by
      unfold Deed.store
      cases d.emission with
      | none => simp [withEmissions]
      | some e => rfl
    rw [List.foldl_cons, ih, hone]
    cases hemission : d.emission with
    | none => simp [withEmissions, hemission]
    | some e => simp [withEmissions, hemission]

end Store

/-! ### Runs of a supervisor -/

/-- What can happen while a supervisor runs. -/
inductive Occurrence where
  | call (c : StoreCall)
  /-- The supervisor is told to reload. -/
  | reload
  /-- The loop of a kind is told to stop. -/
  | stopKind (kind : Kind)
  /-- Time passes up to a moment or to the next reload, and whatever is over by then has seen
  this. At the last moment, the loop of a kind may be cut short. -/
  | pass (sight : Sight) (target : Nat) (cut : Kind → Option Nat)

/-- The calls to the store among some occurrences. -/
def Occurrence.calls (occurrences : List Occurrence) : List StoreCall :=
  occurrences.filterMap fun
    | .call c => some c
    | _ => none

/-- A supervisor and the store that it works with, at a moment. -/
structure Watch where
  supervisor : Supervisor
  store : Store
  now : Nat

namespace Watch

/-- What the loops do up to a moment, at which they may be cut short, in the order in which it is
over. -/
def deedsTo (w : Watch) (sight : Sight) (moment : Nat) (cut : Kind → Option Nat) : List Deed :=
  Simulation.inOrder (w.supervisor.runLoops sight w.store.accepts moment cut).2

/-- Runs every loop up to a moment, at which they may be cut short. -/
def runTo (w : Watch) (sight : Sight) (moment : Nat) (cut : Kind → Option Nat) : Watch where
  supervisor := (w.supervisor.runLoops sight w.store.accepts moment cut).1
  store := (w.deedsTo sight moment cut).foldl (fun s d => d.store s) w.store
  now := max w.now moment

/-- Lets the supervisor reload by itself. -/
def reloadAt (w : Watch) (moment : Nat) : Watch :=
  { w with supervisor := w.supervisor.reloadAt w.store moment }

/-- How far time passes on the way to a moment: no further than to the next reload. -/
def leg (w : Watch) (target : Nat) : Nat :=
  (w.supervisor.nextReload.map (min · target)).getD target

/-- Lets time pass, and the supervisor reload where the next reload is due. -/
def pass (w : Watch) (sight : Sight) (target : Nat) (cut : Kind → Option Nat) : Watch :=
  let ran := w.runTo sight (w.leg target) cut
  if w.supervisor.nextReload = some (w.leg target) then ran.reloadAt (w.leg target) else ran

/-- Tells the supervisor to reload, unless it was told to stop; a reload that fails leaves all as it
is. -/
def reload (w : Watch) : Watch :=
  if w.supervisor.nextReload.isSome then
    { w with supervisor := (w.supervisor.reload w.store).toOption.getD w.supervisor }
  else w

/-- The watch after an occurrence. -/
def step (w : Watch) : Occurrence → Watch
  | .call c => { w with store := c.apply w.store }
  | .reload => w.reload
  | .stopKind kind => { w with supervisor := (w.supervisor.stopKind kind).2 }
  | .pass sight target cut => w.pass sight target cut

/-- The ticks that are over with an occurrence. -/
def deeds (w : Watch) : Occurrence → List Deed
  | .pass sight target cut => w.deedsTo sight (w.leg target) cut
  | _ => []

/-- The watch after a run. -/
def after (w : Watch) (occurrences : List Occurrence) : Watch :=
  occurrences.foldl step w

/-- The ticks of a run, in the order in which they are over. -/
def ticks (w : Watch) : List Occurrence → List Deed
  | [] => []
  | o :: rest => w.deeds o ++ (w.step o).ticks rest

/-- The loop of a kind. -/
def loopOf (w : Watch) (kind : Kind) : Option AlertLoop :=
  w.supervisor.loops.find? (·.context.kind == kind)

variable (w : Watch)

theorem after_append (first rest : List Occurrence) :
    w.after (first ++ rest) = (w.after first).after rest :=
  List.foldl_append

/-- Where a reload is due, time passes up to it. -/
theorem pass_of_due {due target : Nat} (h : w.supervisor.nextReload = some due)
    (hdue : due ≤ target) (sight : Sight) (cut : Kind → Option Nat) :
    w.pass sight target cut = (w.runTo sight due cut).reloadAt due := by
  have hleg : w.leg target = due := by simp [leg, h, hdue]
  rw [pass, hleg, if_pos h]

/-- Where none is due, time passes at once. -/
theorem pass_of_late {target : Nat} (h : ∀ due, w.supervisor.nextReload = some due → target < due)
    (sight : Sight) (cut : Kind → Option Nat) :
    w.pass sight target cut = w.runTo sight target cut := by
  have hleg : w.leg target = target := by
    cases hnext : w.supervisor.nextReload with
    | none => simp [leg, hnext]
    | some due => simp [leg, hnext, (h due hnext).le]
  rw [pass, hleg, if_neg fun hdue => (h target hdue).false]

theorem store_pass (sight : Sight) (target : Nat) (cut : Kind → Option Nat) :
    (w.pass sight target cut).store =
      (w.runTo sight (w.leg target) cut).store := by
  unfold pass
  dsimp only
  split <;> rfl

theorem store_reload : w.reload.store = w.store := by
  unfold reload
  split <;> rfl

/-- An occurrence leaves the settings and the failures of the store to the call that it is, and adds
the alerts of its ticks. -/
theorem store_step (o : Occurrence) : (w.step o).store =
    (w.store.after (Occurrence.calls [o])).withEmissions
      (w.store.emissions ++ (w.deeds o).filterMap Deed.emission) := by
  cases o with
  | call c => cases c <;> simp [step, deeds, Occurrence.calls, Store.after, Store.withEmissions,
      StoreCall.apply, Store.put, Store.remove, Store.withRecords]
  | reload => simp [step, deeds, store_reload, Occurrence.calls, Store.after, Store.withEmissions]
  | stopKind kind => simp [step, deeds, Occurrence.calls, Store.after, Store.withEmissions]
  | pass sight target cut =>
    rw [step, store_pass, runTo, Store.foldl_store]
    rfl

/-- **The store of a run.** A run leaves the settings and the failures of its store to the calls
from outside, and adds the alerts of its ticks, in the order in which these are over. -/
theorem store_after (occurrences : List Occurrence) : (w.after occurrences).store =
    (w.store.after (Occurrence.calls occurrences)).withEmissions
      (w.store.emissions ++ (w.ticks occurrences).filterMap Deed.emission) := by
  induction occurrences generalizing w with
  | nil => simp [after, ticks, Occurrence.calls, Store.after, Store.withEmissions]
  | cons o rest ih =>
    have hcalls : Occurrence.calls (o :: rest) = Occurrence.calls [o] ++ Occurrence.calls rest :=
      List.filterMap_append (l := [o])
    have hafter : w.after (o :: rest) = (w.step o).after rest := rfl
    rw [hafter, ih, store_step, Store.after_withEmissions, hcalls, Store.after_append, ticks,
      List.filterMap_append, ← List.append_assoc]
    rfl

/-! ### Runs by kind -/

/-- Where a loop keeps its kind, so do the loops of all kinds. -/
theorem find?_map_of_kind {f : AlertLoop → AlertLoop}
    (hf : ∀ l, (f l).context.kind = l.context.kind) (loops : List AlertLoop) (kind : Kind) :
    (loops.map f).find? (·.context.kind == kind) =
      (loops.find? (·.context.kind == kind)).map f := by
  rw [List.find?_map]
  congr 2
  funext l
  simp only [Function.comp_apply, hf]

theorem kind_of_loopOf {kind : Kind} {l : AlertLoop} (h : w.loopOf kind = some l) :
    l.context.kind = kind := by
  have hkind := List.find?_some h
  exact beq_iff_eq.mp hkind

/-- Where the settings are reloaded, each kind gets those that are in force for it. -/
theorem find?_applyStored (v : Supervisor) (stored : List SettingsRecord) (kind : Kind) :
    (v.applyStored stored).loops.find? (·.context.kind == kind) =
      (v.loops.find? (·.context.kind == kind)).map fun l =>
        l.apply (.inForce v.defaults stored kind) := by
  let apply (l : AlertLoop) : AlertLoop := l.apply (.inForce v.defaults stored l.context.kind)
  have hkept : ∀ l, (apply l).context.kind = l.context.kind := fun _ => rfl
  refine (find?_map_of_kind hkept v.loops kind).trans ?_
  cases hfound : v.loops.find? (·.context.kind == kind) with
  | none => rfl
  | some l =>
    have hkind := List.find?_some hfound
    rw [Option.map_some, Option.map_some, ← beq_iff_eq.mp hkind]

/-- Up to a moment, the loop of each kind runs on its own. -/
theorem loopOf_runTo (sight : Sight) (moment : Nat) (cut : Kind → Option Nat) (kind : Kind) :
    (w.runTo sight moment cut).loopOf kind = (w.loopOf kind).map fun l =>
      (l.runCut w.supervisor.env sight w.store.accepts moment (cut l.context.kind)).1 := by
  unfold loopOf runTo Supervisor.runLoops
  dsimp only
  rw [List.map_map]
  exact find?_map_of_kind (fun l => (l.ran_runCut ..).isOf.1) _ _

/-- Where one of two merged lists is left out altogether, the other one is left. -/
theorem filter_merge {α : Type} {p : α → Bool} {le : α → α → Bool} {first second : List α}
    (h : first.filter p = [] ∨ second.filter p = []) :
    (first.merge second le).filter p = first.filter p ++ second.filter p := by
  induction first generalizing second with
  | nil => simp
  | cons a first ihFirst =>
    induction second with
    | nil => simp
    | cons b second ihSecond =>
      rw [List.cons_merge_cons]
      split
      case isTrue =>
        have hrest : first.filter p = [] ∨ (b :: second).filter p = [] := by
          refine h.imp_left fun hnone => ?_
          simp only [List.filter_eq_nil_iff, List.forall_mem_cons] at hnone ⊢
          exact hnone.2
        rw [List.filter_cons, ihFirst hrest, List.filter_cons (x := a)]
        split <;> rfl
      case isFalse =>
        have hrest : (a :: first).filter p = [] ∨ second.filter p = [] := by
          refine h.imp_right fun hnone => ?_
          simp only [List.filter_eq_nil_iff, List.forall_mem_cons] at hnone ⊢
          exact hnone.2
        rw [List.filter_cons, ihSecond hrest, List.filter_cons (x := b)]
        split
        case isTrue hb =>
          have hnone : (a :: first).filter p = [] := h.resolve_right (by simp [hb])
          rw [hnone]
          rfl
        case isFalse => rfl

/-- Loops that do nothing are of no account. -/
theorem inOrder_append_of_nil (deeds : List (List Deed)) {others : List (List Deed)}
    (h : ∀ did ∈ others, did = []) :
    Simulation.inOrder (deeds ++ others) = Simulation.inOrder deeds := by
  have hothers : Simulation.inOrder others = [] := by
    induction others with
    | nil => rfl
    | cons did rest ih =>
      obtain ⟨rfl, hrest⟩ := List.forall_mem_cons.mp h
      rw [Simulation.inOrder, List.foldr_cons]
      exact (List.nil_merge _).trans (ih hrest)
  unfold Simulation.inOrder at hothers ⊢
  rw [List.foldr_append, hothers]

/-- Of everything that the loops of different kinds do, what is of one kind is done by its loop. -/
theorem filter_inOrder {did : AlertLoop → List Deed}
    (hdid : ∀ l, ∀ d ∈ did l, d.kind = l.context.kind) {loops : List AlertLoop}
    (hnodup : (loops.map (·.context.kind)).Nodup) (kind : Kind) :
    (Simulation.inOrder (loops.map did)).filter (·.kind == kind) =
      ((loops.find? (·.context.kind == kind)).map did).getD [] := by
  induction loops with
  | nil => rfl
  | cons l rest ih =>
    obtain ⟨hl, hrest⟩ := List.nodup_cons.mp hnodup
    have hothers := ih hrest
    rw [List.map_cons, Simulation.inOrder, List.foldr_cons]
    change (List.merge (did l) (Simulation.inOrder (rest.map did)) _).filter _ = _
    by_cases hkind : l.context.kind = kind
    · have hnone : rest.find? (·.context.kind == kind) = none := by
        rw [List.find?_eq_none]
        intro other hother hsame
        rw [beq_iff_eq] at hsame
        exact hl (List.mem_map.mpr ⟨other, hother, hsame.trans hkind.symm⟩)
      have hall : (did l).filter (·.kind == kind) = did l := by
        rw [List.filter_eq_self]
        intro d hd
        rw [hdid l d hd, hkind, beq_self_eq_true]
      rw [hnone] at hothers
      rw [filter_merge (.inr hothers), hothers, hall, List.find?_cons_of_pos (by simp [hkind])]
      simp
    · have hnone : (did l).filter (·.kind == kind) = [] := by
        rw [List.filter_eq_nil_iff]
        intro d hd
        rw [hdid l d hd]
        simpa using hkind
      rw [filter_merge (.inl hnone), hnone, hothers, List.find?_cons_of_neg (by simp [hkind])]
      rfl

/-- Up to a moment, the ticks of a kind are those of its loop. -/
theorem filter_deedsTo (hnodup : (w.supervisor.loops.map (·.context.kind)).Nodup) (sight : Sight)
    (moment : Nat) (cut : Kind → Option Nat) (kind : Kind) :
    (w.deedsTo sight moment cut).filter (·.kind == kind) =
      ((w.loopOf kind).map fun l =>
        (l.runCut w.supervisor.env sight w.store.accepts moment (cut l.context.kind)).2).getD
          [] := by
  unfold deedsTo Supervisor.runLoops
  dsimp only
  rw [List.map_map]
  exact filter_inOrder (fun l d hd => ((l.ran_runCut ..).isOf.2 d hd).1) hnodup kind

/-- Every tick up to a moment is one of a kind. -/
theorem isOf_of_mem_deedsTo {sight : Sight} {moment : Nat} {cut : Kind → Option Nat} {d : Deed}
    (h : d ∈ w.deedsTo sight moment cut) : d.IsOf d.kind := by
  have hmem : ∀ deeds : List (List Deed), d ∈ Simulation.inOrder deeds →
      ∃ did ∈ deeds, d ∈ did := by
    intro deeds hd
    induction deeds with
    | nil => cases hd
    | cons did rest ih =>
      rw [Simulation.inOrder, List.foldr_cons, List.mem_merge] at hd
      rcases hd with hd | hd
      · exact ⟨did, List.mem_cons_self, hd⟩
      · obtain ⟨other, hother, hd⟩ := ih hd
        exact ⟨other, List.mem_cons_of_mem did hother, hd⟩
  obtain ⟨did, hdid, hd⟩ := hmem _ h
  unfold Supervisor.runLoops at hdid
  dsimp only at hdid
  rw [List.map_map] at hdid
  obtain ⟨l, -, rfl⟩ := List.mem_map.mp hdid
  have hof := (l.ran_runCut ..).isOf.2 d hd
  exact hof.1.symm ▸ hof

/-- Up to a moment, the alerts of a kind are those of its ticks. -/
theorem emissionsOf_runTo (sight : Sight) (moment : Nat) (cut : Kind → Option Nat)
    (kind : Kind) :
    (w.runTo sight moment cut).store.emissionsOf kind = w.store.emissionsOf kind ++
      ((w.deedsTo sight moment cut).filter (·.kind == kind)).filterMap Deed.emission := by
  have hof (d : Deed) (hd : d ∈ w.deedsTo sight moment cut) := w.isOf_of_mem_deedsTo hd
  rw [runTo, Store.foldl_store]
  simp only [Store.emissionsOf, Store.withEmissions, List.filter_append]
  congr 1
  generalize w.deedsTo sight moment cut = deeds at hof
  induction deeds with
  | nil => rfl
  | cons d rest ih =>
    obtain ⟨hd, hrest⟩ := List.forall_mem_cons.mp hof
    have hothers := ih hrest
    cases hemission : d.emission with
    | none =>
      rw [List.filterMap_cons_none hemission, hothers, List.filter_cons]
      split
      · rw [List.filterMap_cons_none hemission]
      · rfl
    | some e =>
      rw [List.filterMap_cons_some hemission, List.filter_cons, List.filter_cons, hothers,
        hd.2 e hemission]
      split
      · rw [List.filterMap_cons_some hemission]
      · rfl

end Watch

/-! ### What stays the same -/

/-- A supervisor that goes on: it serves the same cluster by the same defaults, with one loop for
each kind as before. -/
structure Supervisor.Continues (v later : Supervisor) : Prop where
  cluster : later.cluster = v.cluster
  env : later.env = v.env
  defaults : later.defaults = v.defaults
  kinds : later.loops.map (·.context.kind) = v.loops.map (·.context.kind)

namespace Supervisor

theorem Continues.refl (v : Supervisor) : v.Continues v :=
  ⟨rfl, rfl, rfl, rfl⟩

theorem Continues.trans {v w x : Supervisor} (h : v.Continues w) (h' : w.Continues x) :
    v.Continues x where
  cluster := h'.cluster.trans h.cluster
  env := h'.env.trans h.env
  defaults := h'.defaults.trans h.defaults
  kinds := h'.kinds.trans h.kinds

/-- A supervisor goes on where each loop keeps its kind. -/
theorem continues_of_map {f : AlertLoop → AlertLoop}
    (hf : ∀ l, (f l).context.kind = l.context.kind) (v : Supervisor) (nextReload : Option Nat) :
    v.Continues { v with loops := v.loops.map f, nextReload } := by
  refine ⟨rfl, rfl, rfl, ?_⟩
  rw [List.map_map]
  exact List.map_congr_left fun l _ => hf l

theorem continues_runLoops (v : Supervisor) (sight : Sight) (accepts : Bool) (target : Nat)
    (cut : Kind → Option Nat) : v.Continues (v.runLoops sight accepts target cut).1 := by
  unfold runLoops
  dsimp only
  rw [List.map_map]
  exact v.continues_of_map (fun l => (l.ran_runCut ..).isOf.1) v.nextReload

theorem continues_reload (v : Supervisor) (store : Store) :
    v.Continues ((v.reload store).toOption.getD v) := by
  unfold reload
  cases store.load v.cluster with
  | error f => exact .refl v
  | ok stored =>
    let apply (l : AlertLoop) : AlertLoop := l.apply (.inForce v.defaults stored l.context.kind)
    exact v.continues_of_map (f := apply) (fun _ => rfl) v.nextReload

/-- Being told to reload does not put off the next reload. -/
theorem nextReload_reload (v : Supervisor) (store : Store) :
    ((v.reload store).toOption.getD v).nextReload = v.nextReload := by
  unfold reload
  cases store.load v.cluster <;> rfl

theorem continues_reloadAt (v : Supervisor) (store : Store) (now : Nat) :
    v.Continues (v.reloadAt store now) :=
  have h := v.continues_reload store
  ⟨h.cluster, h.env, h.defaults, h.kinds⟩

theorem continues_stopKind (v : Supervisor) (kind : Kind) : v.Continues (v.stopKind kind).2 := by
  refine v.continues_of_map (fun l => ?_) v.nextReload
  split
  · exact l.kind_stop
  · rfl

theorem continues_stop (v : Supervisor) : v.Continues v.stop :=
  v.continues_of_map AlertLoop.kind_stop none

end Supervisor

namespace Watch

variable (w : Watch)

theorem continues_step (o : Occurrence) : w.supervisor.Continues (w.step o).supervisor := by
  cases o with
  | call c => exact .refl _
  | reload =>
    simp only [step, reload]
    split
    · exact w.supervisor.continues_reload w.store
    · exact .refl _
  | stopKind kind => exact w.supervisor.continues_stopKind kind
  | pass sight target cut =>
    have hrun := w.supervisor.continues_runLoops sight w.store.accepts (w.leg target)
      cut
    simp only [step, pass]
    split
    · exact hrun.trans (Supervisor.continues_reloadAt ..)
    · exact hrun

/-- A supervisor goes on through every run. -/
theorem continues_after (occurrences : List Occurrence) :
    w.supervisor.Continues (w.after occurrences).supervisor := by
  induction occurrences generalizing w with
  | nil => exact .refl _
  | cons o rest ih => exact (w.continues_step o).trans (ih (w.step o))

/-- No run ends the reloads of a supervisor, or begins them. -/
theorem isSome_nextReload_after (occurrences : List Occurrence) :
    (w.after occurrences).supervisor.nextReload.isSome = w.supervisor.nextReload.isSome := by
  induction occurrences generalizing w with
  | nil => rfl
  | cons o rest ih =>
    refine (ih (w.step o)).trans ?_
    cases o with
    | call c => rfl
    | reload =>
      simp only [step, reload]
      split
      · rw [Supervisor.nextReload_reload]
      · rfl
    | stopKind kind => rfl
    | pass sight target cut =>
      simp only [step, pass]
      split
      case isTrue hdue => rw [hdue]; rfl
      case isFalse => rfl

end Watch

/-- What a loop keeps as it runs, gets other settings or is told to stop, all loops keep through
every run. -/
theorem Watch.forall_loops_after {P : AlertLoop → Prop}
    (hrun : ∀ env sight accepts target cut l, P l → P (l.runCut env sight accepts target cut).1)
    (happly : ∀ s l, P l → P (l.apply s)) (hstop : ∀ l, P l → P l.stop.2) {w : Watch}
    (h : ∀ l ∈ w.supervisor.loops, P l) (occurrences : List Occurrence) :
    ∀ l ∈ (w.after occurrences).supervisor.loops, P l := by
  induction occurrences generalizing w with
  | nil => exact h
  | cons o rest ih =>
    refine ih (w := w.step o) ?_
    have hreload (v : Supervisor) (store : Store) (hv : ∀ l ∈ v.loops, P l) :
        ∀ l ∈ ((v.reload store).toOption.getD v).loops, P l := by
      unfold Supervisor.reload
      cases store.load v.cluster with
      | error f => exact hv
      | ok stored => exact List.forall_mem_map.mpr fun l hl => happly _ l (hv l hl)
    cases o with
    | call c => exact h
    | reload =>
      simp only [step, reload]
      split
      · exact hreload w.supervisor w.store h
      · exact h
    | stopKind kind =>
      refine List.forall_mem_map.mpr fun l hl => ?_
      split
      · exact hstop l (h l hl)
      · exact h l hl
    | pass sight target cut =>
      have hran : ∀ l ∈ (w.runTo sight (w.leg target) cut).supervisor.loops,
          P l := by
        unfold runTo Supervisor.runLoops
        dsimp only
        rw [List.map_map]
        exact List.forall_mem_map.mpr fun l hl => hrun _ _ _ _ _ l (h l hl)
      simp only [step, pass]
      split
      · exact hreload _ _ hran
      · exact hran

/-! ### The beginning of a run -/

/-- The loop of a kind at its beginning. -/
def AlertLoop.fresh (cluster : String) (d : Defaults) (stored : List SettingsRecord) (now : Nat)
    (kind : Kind) : AlertLoop where
  context := { Supervisor.freshContext cluster d stored kind with
    state := .running
    handle := some ⟨0⟩
    periods := 1 }
  receiver := ⟨0⟩
  phase := .waiting (now + (Settings.inForce d stored kind).wait)

/-- A supervisor begins with a fresh loop for each kind if the settings can be loaded. -/
theorem Supervisor.start_eq_ok {cluster : String} {env : Environment} {store : Store} {d : Defaults}
    {now : Nat} {v : Supervisor} (h : Supervisor.start cluster env store d now = .ok v) :
    ∃ stored, store.load cluster = .ok stored ∧ v = {
      cluster, env
      defaults := d
      loops := Kind.ordered.map (AlertLoop.fresh cluster d stored now)
      nextReload := some (now + reloadWait d) } := by
  unfold start at h
  cases hload : store.load cluster with
  | error f => rw [hload] at h; cases h
  | ok stored =>
    rw [hload] at h
    exact ⟨stored, rfl, (Except.ok.inj h).symm⟩

/-- The kinds of a supervisor that has just begun are all kinds, in their order. -/
theorem Supervisor.kinds_start {cluster : String} {env : Environment} {store : Store} {d : Defaults}
    {now : Nat} {v : Supervisor} (h : Supervisor.start cluster env store d now = .ok v) :
    v.loops.map (·.context.kind) = Kind.ordered := by
  obtain ⟨stored, -, rfl⟩ := Supervisor.start_eq_ok h
  rw [List.map_map]
  exact List.map_id _

theorem Kind.mem_ordered (kind : Kind) : kind ∈ ordered := by
  cases kind with
  | clusterHealth | clusterCapacity => decide
  | leader service | offline service => cases service <;> decide

/-- A supervisor that runs has a loop of each kind. -/
theorem Watch.exists_loopOf {cluster : String} {env : Environment} {store : Store} {d : Defaults}
    {now : Nat} {v : Supervisor} (hstart : Supervisor.start cluster env store d now = .ok v)
    (occurrences : List Occurrence) (kind : Kind) :
    ∃ l, (Watch.after ⟨v, store, now⟩ occurrences).loopOf kind = some l := by
  rw [← Option.isSome_iff_exists, loopOf, List.find?_isSome]
  have hkinds := (Watch.continues_after ⟨v, store, now⟩ occurrences).kinds.trans
    (Supervisor.kinds_start hstart)
  obtain ⟨l, hl, hkind⟩ := List.mem_map.mp (hkinds ▸ Kind.mem_ordered kind)
  exact ⟨l, hl, beq_iff_eq.mpr hkind⟩

end CopysetWatch.Alert
