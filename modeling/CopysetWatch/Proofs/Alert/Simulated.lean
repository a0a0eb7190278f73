import CopysetWatch.Simulation.Monitor
import CopysetWatch.Proofs.Alert.Loops
import CopysetWatch.Proofs.Alert.Stopping

/-!
# Simulated watches

The supervisor of a simulation, with its store, is a watch. Whatever is done to the simulation is an
occurrence of the watch, or one after the other: where time passes up to a moment, it stops at every
reload on the way. So the course of a simulation is a run of a watch, and what holds of every run
holds of it.
-/

namespace CopysetWatch.Simulation

open Alert

/-- A simulation is at a watch: the supervisor that it started last, its store and its clock are
those of the watch. -/
structure IsAt (s : Simulation) (w : Watch) : Prop where
  supervisor : s.supervisor = some w.supervisor
  store : s.store = w.store
  now : s.now = w.now

namespace IsAt

variable {s : Simulation} {w : Watch}

theorem nextReload_eq (h : s.IsAt w) : s.nextReload = w.supervisor.nextReload := by
  rw [Simulation.nextReload, h.supervisor, Option.bind_some]

/-- A supervisor that is told to reload is so in the watch. -/
theorem reload (h : s.IsAt w) : s.reload.2.IsAt w.reload := by
  unfold Simulation.reload Watch.reload liveSupervisor
  rw [h.supervisor, Option.filter_some]
  by_cases hlive : w.supervisor.nextReload.isSome
  · rw [if_pos hlive, if_pos hlive, h.store]
    dsimp only
    cases w.supervisor.reload w.store with
    | error f => exact h
    | ok reloaded => exact ⟨rfl, rfl, h.now⟩
  · rw [if_neg hlive, if_neg hlive]
    exact h

/-- The loop of a kind that is told to stop is so in the watch. -/
theorem stopKind (h : s.IsAt w) (kind : Kind) :
    (s.stopKind kind).2.IsAt (w.step (.stopKind kind)) := by
  unfold Simulation.stopKind
  rw [h.supervisor]
  exact ⟨rfl, h.store, h.now⟩

end IsAt

/-- A monitor that starts runs by a valid configuration, on the store of the simulation, and takes
the place of the supervisor before. -/
theorem exists_isAt_of_startMonitor {s started : Simulation} {c : Config} {name : String}
    (h : s.startMonitor c = (.ok name, started)) : c.validate = .ok () ∧
      ∃ v, Supervisor.start c.cluster c.environment s.store c.alerting s.now = .ok v ∧
        started.IsAt ⟨v, s.store, s.now⟩ ∧
        started.retired = s.supervisor.toList.map .stop ++ s.retired := by
  unfold startMonitor startSupervisor at h
  split at h
  case h_1 => cases h
  case h_2 hvalid =>
    split at h
    case h_1 => cases h
    case h_2 v hv =>
      obtain ⟨-, rfl⟩ := Prod.mk.inj h
      exact ⟨hvalid, v, hv, ⟨rfl, rfl, rfl⟩, rfl⟩

/-- A loop that is over stays so when it is told to stop. -/
theorem isOver_stop {l : AlertLoop} (h : l.isOver) : l.stop.2.isOver := by
  have hdeaf : l.context.handle.filter l.listens = none := by
    cases l.context.handle <;> simp [AlertLoop.listens, h]
  unfold AlertLoop.stop Context.stop
  rw [hdeaf]
  exact h

/-- A simulation shows a watch: its supervisor is that of the watch, and all earlier ones are
over. -/
structure Shows (s : Simulation) (w : Watch) : Prop where
  supervisor : s.supervisor = some w.supervisor
  store : s.store = w.store
  now : s.now = w.now
  retired : ∀ v ∈ s.retired, ∀ l ∈ v.loops, l.isOver

/-- What can be done to a simulation while its supervisor runs. -/
inductive Action where
  | editCluster (edit : ClusterView → ClusterView)
  | editServices (edit : ServiceView → ServiceView)
  | call (c : StoreCall)
  | advance (millis : Nat)
  | reload
  | stopKind (kind : Kind)

/-- The simulation after an action. -/
def act (s : Simulation) : Action → Simulation
  | .editCluster edit => s.editCluster edit
  | .editServices edit => s.editServices edit
  | .call c => s.editStore c.apply
  | .advance millis => s.advance millis
  | .reload => s.reload.2
  | .stopKind kind => (s.stopKind kind).2

/-- The simulation after some actions. -/
def after (s : Simulation) (actions : List Action) : Simulation :=
  actions.foldl act s

/-- The calls to the store among some actions. -/
def Action.calls (actions : List Action) : List StoreCall :=
  actions.filterMap fun
    | .call c => some c
    | _ => none

namespace Shows

variable {s : Simulation} {w : Watch}

theorem isAt (h : s.Shows w) : s.IsAt w :=
  ⟨h.supervisor, h.store, h.now⟩

theorem nextReload_eq (h : s.Shows w) : s.nextReload = w.supervisor.nextReload :=
  h.isAt.nextReload_eq

/-! ### Time that passes -/

/-- Up to a moment, the loops of the simulation are those of the watch, and see what there is to see
in the simulation. -/
theorem runTo (h : s.Shows w) (target : Nat) (cut : Kind → Option Nat) :
    (s.runTo target cut).Shows (w.runTo s.sight target cut) ∧
      (s.runTo target cut).sight = s.sight := by
  have hdrained : s.retired.map (fun v => v.runLoops s.sight s.store.accepts target cut) =
      s.retired.map fun v => (v, v.loops.map fun _ => []) :=
    List.map_congr_left fun v hv => Supervisor.runLoops_of_isOver (h.retired v hv) ..
  have hnone : ∀ did ∈ (s.retired.map fun v => (v, v.loops.map fun _ => [])).flatMap Prod.snd,
      did = ([] : List Deed) := by
    simp
  unfold Simulation.runTo
  dsimp only
  rw [absorbAll_eq, hdrained, Watch.inOrder_append_of_nil _ hnone, h.supervisor]
  refine ⟨⟨?_, ?_, ?_, ?_⟩, rfl⟩
  · rw [h.store]
    rfl
  · rw [h.store]
    rfl
  · rw [h.now]
    rfl
  · rw [List.map_map]
    simpa using h.retired

theorem reloadAt (h : s.Shows w) (moment : Nat) :
    (s.reloadAt moment).Shows (w.reloadAt moment) where
  supervisor := by
    rw [Simulation.reloadAt, h.supervisor, h.store]
    rfl
  store := h.store
  now := h.now
  retired := h.retired

/-- Where no reload is due, time passes once in the watch. -/
theorem advanceTo_of_late (h : s.Shows w) {target : Nat}
    (hlate : ∀ due, s.nextReload = some due → target < due) :
    (s.advanceTo target).Shows (w.step (.pass s.sight target fun _ => none)) := by
  rw [Simulation.advanceTo_of_late hlate, Watch.step, w.pass_of_late (h.nextReload_eq ▸ hlate)]
  exact (h.runTo target _).1

/-- Time that passes up to a moment passes once or more in the watch, each time up to the next
reload or to the moment, and wherever it is cut short. -/
theorem exists_advanceTo (h : s.Shows w) (target : Nat) :
    ∃ cuts : List (Kind → Option Nat),
      (s.advanceTo target).Shows (w.after (cuts.map (.pass s.sight target))) := by
  induction s using advanceTo.induct target generalizing w with
  | case1 s hnone => exact ⟨[_], h.advanceTo_of_late (by simp [hnone])⟩
  | case2 s due hsome hdue ih =>
    -- A reload changes nothing of what there is to see, so the other legs have the same sight.
    have hpass : w.pass s.sight target (s.ties due) =
        (w.runTo s.sight due (s.ties due)).reloadAt due :=
      w.pass_of_due (h.nextReload_eq ▸ hsome) hdue s.sight _
    obtain ⟨hran, hsight⟩ := h.runTo due (s.ties due)
    obtain ⟨cuts, hcuts⟩ := ih (hran.reloadAt due)
    have hsame : ((s.runTo due (s.ties due)).reloadAt due).sight = s.sight := hsight
    rw [hsame, ← hpass] at hcuts
    refine ⟨s.ties due :: cuts, ?_⟩
    rw [advanceTo_of_due hsome hdue]
    exact hcuts
  | case3 s due hsome hlate =>
    refine ⟨[_], h.advanceTo_of_late fun due' hsome' => ?_⟩
    obtain rfl := Option.some.inj (hsome.symm.trans hsome')
    exact Nat.not_le.mp hlate

/-! ### Runs -/

theorem reload (h : s.Shows w) : s.reload.2.Shows w.reload := by
  obtain ⟨hsupervisor, hstore, hnow⟩ := h.isAt.reload
  refine ⟨hsupervisor, hstore, hnow, ?_⟩
  have hretired : s.reload.2.retired = s.retired := by
    unfold Simulation.reload
    split
    · rfl
    · split <;> rfl
  rw [hretired]
  exact h.retired

/-- An action is nothing to the watch, or one occurrence or more of it. -/
theorem exists_act (h : s.Shows w) (a : Action) :
    ∃ occurrences, (s.act a).Shows (w.after occurrences) ∧
      Occurrence.calls occurrences = Action.calls [a] := by
  cases a with
  | editCluster edit => exact ⟨[], ⟨h.supervisor, h.store, h.now, h.retired⟩, rfl⟩
  | editServices edit => exact ⟨[], ⟨h.supervisor, h.store, h.now, h.retired⟩, rfl⟩
  | call c =>
    exact ⟨[.call c], ⟨h.supervisor, congrArg c.apply h.store, h.now, h.retired⟩, rfl⟩
  | advance millis =>
    obtain ⟨cuts, hcuts⟩ := h.exists_advanceTo (s.now + millis)
    refine ⟨_, hcuts, ?_⟩
    simp [Occurrence.calls, Action.calls]
  | reload => exact ⟨[.reload], h.reload, rfl⟩
  | stopKind kind =>
    obtain ⟨hsupervisor, hstore, hnow⟩ := h.isAt.stopKind kind
    have hretired : (s.stopKind kind).2.retired = s.retired := by
      unfold Simulation.stopKind
      split <;> rfl
    exact ⟨[.stopKind kind], ⟨hsupervisor, hstore, hnow, hretired ▸ h.retired⟩, rfl⟩

/-- What is done to a simulation is a run of its watch, with the same calls to the store. -/
theorem exists_after (h : s.Shows w) (actions : List Action) :
    ∃ occurrences, (s.after actions).Shows (w.after occurrences) ∧
      Occurrence.calls occurrences = Action.calls actions := by
  induction actions generalizing s w with
  | nil => exact ⟨[], h, rfl⟩
  | cons a rest ih =>
    obtain ⟨first, hfirst, hcalls⟩ := h.exists_act a
    obtain ⟨later, hlater, hothers⟩ := ih hfirst
    refine ⟨first ++ later, ?_, ?_⟩
    · rw [Watch.after_append]
      exact hlater
    · rw [Occurrence.calls, List.filterMap_append]
      exact (congrArg₂ _ hcalls hothers).trans (List.filterMap_append (l := [a])).symm

end Shows

/-- **Simulations show runs.** Whatever is done to a simulation after a monitor was started in it,
with all earlier ones over, is a run of the supervisor that started on the store of the simulation,
with the same calls to the store. -/
theorem exists_run_of_startMonitor {s started : Simulation} {c : Config} {name : String}
    (hover : ∀ v ∈ s.supervisor.toList ++ s.retired, ∀ l ∈ v.loops, l.isOver)
    (hstart : s.startMonitor c = (.ok name, started)) (actions : List Action) :
    ∃ v occurrences,
      Supervisor.start c.cluster c.environment s.store c.alerting s.now = .ok v ∧
      (started.after actions).Shows (Watch.after ⟨v, s.store, s.now⟩ occurrences) ∧
      Occurrence.calls occurrences = Action.calls actions := by
  obtain ⟨-, v, hv, hat, hretired⟩ := exists_isAt_of_startMonitor hstart
  have hshows : started.Shows ⟨v, s.store, s.now⟩ := by
    refine ⟨hat.supervisor, hat.store, hat.now, fun earlier hearlier => ?_⟩
    rw [hretired] at hearlier
    rcases List.mem_append.mp hearlier with hlast | hbefore
    · obtain ⟨last, hmem, rfl⟩ := List.mem_map.mp hlast
      exact List.forall_mem_map.mpr fun l hl =>
        isOver_stop (hover last (List.mem_append_left _ hmem) l hl)
    · exact hover earlier (List.mem_append_right _ hbefore)
  obtain ⟨occurrences, hafter, hcalls⟩ := hshows.exists_after actions
  exact ⟨v, occurrences, hv, hafter, hcalls⟩

end CopysetWatch.Simulation
