import CopysetWatch.Proofs.Alert.Simulated

/-!
# Everything that a watch may come to

A run changes its store by calls only. `Reaches` leaves open what becomes of the store: in between
any two occurrences it may be any other store, with other records in another order, other alerts and
other failures. A simulation whose supervisor is that of a watch never leaves what the watch
reaches, even if earlier supervisors are still about to store their last alerts.
-/

namespace CopysetWatch

open Alert

namespace Alert.Watch

/-- What a watch may come to and the ticks that are over by then: one occurrence follows another,
and in between the store may change in any way. -/
inductive Reaches (w : Watch) : Watch → List Deed → Prop where
  | refl : Reaches w w []
  | restock {later : Watch} {ticks : List Deed} (h : Reaches w later ticks) (store : Store) :
      Reaches w { later with store } ticks
  | step {later : Watch} {ticks : List Deed} (h : Reaches w later ticks) (o : Occurrence) :
      Reaches w (later.step o) (ticks ++ later.deeds o)

/-- A watch goes on from what it came to. -/
theorem Reaches.trans {w between later : Watch} {ticks more : List Deed}
    (h : w.Reaches between ticks) (h' : between.Reaches later more) :
    w.Reaches later (ticks ++ more) := by
  induction h' with
  | refl =>
    rw [List.append_nil]
    exact h
  | restock _ store ih => exact ih.restock store
  | step _ o ih =>
    rw [← List.append_assoc]
    exact ih.step o

/-- A run is one of the ways to go on. -/
theorem reaches_after (w : Watch) (occurrences : List Occurrence) :
    w.Reaches (w.after occurrences) (w.ticks occurrences) := by
  induction occurrences generalizing w with
  | nil => exact .refl
  | cons o rest ih =>
    have hone : w.Reaches (w.step o) (w.deeds o) := Reaches.refl.step o
    exact hone.trans (ih (w.step o))

end Alert.Watch

namespace Simulation

namespace IsAt

variable {s : Simulation} {w : Watch}

/-- Up to a moment, the loops of the simulation are those of the watch, whatever the earlier
supervisors add to the store. -/
theorem runTo (h : s.IsAt w) (target : Nat) (cut : Kind → Option Nat) :
    (s.runTo target cut).IsAt
      { w.runTo s.sight target cut with store := (s.runTo target cut).store } where
  supervisor := by
    unfold Simulation.runTo
    rw [supervisor_absorbAll, h.supervisor, h.store]
    rfl
  store := rfl
  now := by
    unfold Simulation.runTo
    rw [absorbAll_eq, h.now]
    rfl

/-- A reload that is due comes to the same in the watch, since what it loads does not depend on the
alerts that were stored meanwhile. -/
theorem reloadAt_runTo (h : s.IsAt w) (due : Nat) (cut : Kind → Option Nat) :
    ((s.runTo due cut).reloadAt due).IsAt
      { (w.runTo s.sight due cut).reloadAt due with store := (s.runTo due cut).store } where
  supervisor := by
    have hload : (s.runTo due cut).store.load = (w.runTo s.sight due cut).store.load := by
      unfold Simulation.runTo Watch.runTo
      rw [absorbAll_eq, Store.foldl_store]
      dsimp only
      rw [Store.foldl_store, h.store]
      rfl
    rw [Simulation.reloadAt, (h.runTo due cut).supervisor]
    simp only [Option.map_some, Watch.reloadAt, Supervisor.reloadAt, Supervisor.reload, hload]
  store := rfl
  now := (h.runTo due cut).now

/-- Where no reload is due, time passes once in the watch. -/
theorem exists_advanceTo_of_late (h : s.IsAt w) {target : Nat}
    (hlate : ∀ due, s.nextReload = some due → target < due) :
    ∃ later ticks, w.Reaches later ticks ∧ (s.advanceTo target).IsAt later := by
  have hpass := w.pass_of_late (h.nextReload_eq ▸ hlate) s.sight fun _ => none
  refine ⟨_, _, (Watch.Reaches.refl.step (.pass s.sight target fun _ => none)).restock
    (s.runTo target fun _ => none).store, ?_⟩
  rw [advanceTo_of_late hlate, Watch.step, hpass]
  exact h.runTo target _

/-- Time that passes in a simulation passes in the watch, each time up to the next reload. -/
theorem exists_advanceTo (h : s.IsAt w) (target : Nat) :
    ∃ later ticks, w.Reaches later ticks ∧ (s.advanceTo target).IsAt later := by
  induction s using advanceTo.induct target generalizing w with
  | case1 s hnone => exact h.exists_advanceTo_of_late (by simp [hnone])
  | case2 s due hsome hdue ih =>
    -- The reload is part of the leg in the watch; the store is exchanged after it.
    have hpass := w.pass_of_due (h.nextReload_eq ▸ hsome) hdue s.sight (s.ties due)
    obtain ⟨later, ticks, hreaches, hlater⟩ := ih (h.reloadAt_runTo due (s.ties due))
    rw [← hpass] at hreaches
    rw [advanceTo_of_due hsome hdue]
    exact ⟨later, _, ((Watch.Reaches.refl.step (.pass s.sight target (s.ties due))).restock
      (s.runTo due (s.ties due)).store).trans hreaches, hlater⟩
  | case3 s due hsome hlate =>
    exact h.exists_advanceTo_of_late (by simpa [hsome] using hlate)

/-- Whatever is done to a simulation, it stays with what its watch may come to. -/
theorem exists_act (h : s.IsAt w) (a : Action) :
    ∃ later ticks, w.Reaches later ticks ∧ (s.act a).IsAt later := by
  cases a with
  | editCluster edit => exact ⟨w, [], .refl, h.supervisor, h.store, h.now⟩
  | editServices edit => exact ⟨w, [], .refl, h.supervisor, h.store, h.now⟩
  | call c => exact ⟨_, _, .restock .refl (c.apply s.store), h.supervisor, rfl, h.now⟩
  | advance millis => exact h.exists_advanceTo (s.now + millis)
  | reload => exact ⟨_, _, Watch.Reaches.refl.step .reload, h.reload⟩
  | stopKind kind => exact ⟨_, _, Watch.Reaches.refl.step (.stopKind kind), h.stopKind kind⟩

/-- **Simulations stay within reach.** However much is done to a simulation, it stays with what its
watch may come to. -/
theorem exists_after (h : s.IsAt w) (actions : List Action) :
    ∃ later ticks, w.Reaches later ticks ∧ (s.after actions).IsAt later := by
  induction actions generalizing s w with
  | nil => exact ⟨w, [], .refl, h⟩
  | cons a rest ih =>
    obtain ⟨between, ticks, hreaches, hbetween⟩ := h.exists_act a
    obtain ⟨later, more, hmore, hlater⟩ := ih hbetween
    exact ⟨later, _, hreaches.trans hmore, hlater⟩

end IsAt

end Simulation

end CopysetWatch
