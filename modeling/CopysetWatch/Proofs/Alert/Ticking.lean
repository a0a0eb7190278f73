import CopysetWatch.Proofs.Alert.Reloading
import CopysetWatch.Proofs.Alert.Schedule
import CopysetWatch.Proofs.Alert.Stopping

/-!
# Ticks on schedule

In a run, the settings of a kind change only where a pass of time is at its end. So its loop, which
is on schedule by the settings that it has, stays on schedule by those that are in force as each of
its ticks begins and is over, whatever happens in between. A reload may fall on the very moment at
which a tick begins or is over: either may come first, and the settings in force are those of what
came first.
-/

namespace CopysetWatch.Alert

namespace Watch

variable (w : Watch)

/-- In a run, a kind has some settings at a moment: its loop has them as something occurs, or as
time passes, that takes up this moment. -/
def HasInForce (w : Watch) (kind : Kind) (moment : Nat) (s : Settings) : List Occurrence → Prop
  | [] => False
  | o :: rest =>
    (w.now ≤ moment ∧ moment ≤ (w.step o).now ∧
      ∃ l, w.loopOf kind = some l ∧ l.context.settings = s) ∨
    (w.step o).HasInForce kind moment s rest

/-- The ticks of a kind that are over with a run, each with the settings that the loop had when it
was over. -/
def settledTicks (w : Watch) (kind : Kind) : List Occurrence → List SettledTick
  | [] => []
  | o :: rest =>
    ((w.loopOf kind).map fun l =>
      ((w.deeds o).filter (·.kind == kind)).map (⟨·, l.context.settings⟩)).getD [] ++
        (w.step o).settledTicks kind rest

/-- A run takes place in a world: as time passes up to a moment, what is seen is what the world
shows until then. -/
def TakesPlaceIn (w : Watch) (world : Sight) : List Occurrence → Prop
  | [] => True
  | o :: rest =>
    (∀ sight target cut, o = .pass sight target cut → world.AgreesUntil (w.step o).now sight) ∧
      (w.step o).TakesPlaceIn world rest

/-! ### What becomes of a loop -/

theorem now_pass (sight : Sight) (target : Nat) (cut : Kind → Option Nat) :
    (w.pass sight target cut).now = max w.now (w.leg target) := by
  unfold pass
  split <;> rfl

theorem now_step_of_not_pass {o : Occurrence}
    (ho : ∀ sight target cut, o ≠ .pass sight target cut) :
    (w.step o).now = w.now := by
  cases o with
  | call | stopKind => rfl
  | reload =>
    simp only [step, reload]
    split <;> rfl
  | pass sight target cut => exact absurd rfl (ho sight target cut)

theorem now_le_step (o : Occurrence) : w.now ≤ (w.step o).now := by
  cases o with
  | pass sight target cut => exact w.now_pass sight target cut ▸ Nat.le_max_left ..
  | _ => exact (w.now_step_of_not_pass (by simp)).ge

theorem now_le_after (occurrences : List Occurrence) : w.now ≤ (w.after occurrences).now := by
  induction occurrences generalizing w with
  | nil => exact Nat.le_refl _
  | cons o rest ih => exact (w.now_le_step o).trans (ih (w.step o))

/-- What becomes of a loop with an occurrence but for its settings, and what it does. -/
def meet (w : Watch) (l : AlertLoop) : Occurrence → AlertLoop × List Deed
  | .pass sight target cut =>
    l.runCut w.supervisor.env sight w.store.accepts (w.leg target) (cut l.context.kind)
  | .stopKind kind => (if l.context.kind = kind then l.stop.2 else l, [])
  | .call _ | .reload => (l, [])

/-- A reload gives the loop of a kind settings that are in force for it, or leaves it as it is. -/
theorem find?_reload {v : Supervisor} {kind : Kind} {l : AlertLoop}
    (hl : v.loops.find? (·.context.kind == kind) = some l) (store : Store) :
    let loops := ((v.reload store).toOption.getD v).loops
    loops.find? (·.context.kind == kind) = some l ∨
      ∃ stored, loops.find? (·.context.kind == kind) =
        some (l.apply (.inForce v.defaults stored kind)) := by
  unfold Supervisor.reload
  cases store.load v.cluster with
  | error f => exact .inl hl
  | ok stored =>
    refine .inr ⟨stored, (find?_applyStored v stored kind).trans ?_⟩
    rw [hl]
    rfl

variable {w} {kind : Kind} {l : AlertLoop}

/-- **The loop of a kind on its own.** Its ticks with an occurrence are its own, and if its settings
are changed, then after them. -/
theorem loopOf_step (hnodup : (w.supervisor.loops.map (·.context.kind)).Nodup)
    (hl : w.loopOf kind = some l) (o : Occurrence) :
    (w.deeds o).filter (·.kind == kind) = (w.meet l o).2 ∧
    ((w.step o).loopOf kind = some (w.meet l o).1 ∨
      ∃ stored, (w.step o).loopOf kind =
        some ((w.meet l o).1.apply (.inForce w.supervisor.defaults stored kind))) := by
  cases o with
  | call c => exact ⟨rfl, .inl hl⟩
  | reload =>
    refine ⟨rfl, ?_⟩
    simp only [step, reload]
    split
    · exact find?_reload hl w.store
    · exact .inl hl
  | stopKind other =>
    refine ⟨rfl, .inl ?_⟩
    have hkept : ∀ l : AlertLoop,
        (if l.context.kind == other then l.stop.2 else l).context.kind = l.context.kind := by
      intro l
      split
      · exact l.kind_stop
      · rfl
    refine (find?_map_of_kind hkept w.supervisor.loops kind).trans ?_
    rw [show w.supervisor.loops.find? (·.context.kind == kind) = some l from hl]
    simp [meet]
  | pass sight target cut =>
    have hran : (w.runTo sight (w.leg target) cut).loopOf kind =
        some (w.meet l (.pass sight target cut)).1 := by
      rw [loopOf_runTo, hl]
      rfl
    refine ⟨?_, ?_⟩
    · rw [deeds, filter_deedsTo _ hnodup, hl]
      rfl
    · simp only [step, pass]
      split
      · exact find?_reload hran _
      · exact .inl hran

theorem meet_stopKind_of_ne (hl : w.loopOf kind = some l) {other : Kind}
    (hne : .stopKind kind ≠ Occurrence.stopKind other) : w.meet l (.stopKind other) = (l, []) := by
  rw [meet, if_neg]
  rw [w.kind_of_loopOf hl]
  rintro rfl
  exact hne rfl

theorem nodup_step (hnodup : (w.supervisor.loops.map (·.context.kind)).Nodup) (o : Occurrence) :
    ((w.step o).supervisor.loops.map (·.context.kind)).Nodup := by
  rw [(w.continues_step o).kinds]
  exact hnodup

/-- What nothing but a signal to stop takes from a loop, the loop of a kind keeps through every run
without such a signal for its kind. -/
theorem exists_loopOf_after {P : AlertLoop → Prop}
    (hrun : ∀ env sight accepts target cut l, P l → P (l.runCut env sight accepts target cut).1)
    (happly : ∀ s l, P l → P (l.apply s))
    (hnodup : (w.supervisor.loops.map (·.context.kind)).Nodup) (hl : w.loopOf kind = some l)
    (h : P l) {occurrences : List Occurrence} (hnot : .stopKind kind ∉ occurrences) :
    ∃ later, (w.after occurrences).loopOf kind = some later ∧ P later := by
  induction occurrences generalizing w l with
  | nil => exact ⟨l, hl, h⟩
  | cons o rest ih =>
    obtain ⟨hother, hrest⟩ := not_or.mp (fun hmem => hnot (List.mem_cons.mpr hmem))
    have hmet : P (w.meet l o).1 := by
      cases o with
      | call | reload => exact h
      | stopKind other =>
        rw [meet_stopKind_of_ne hl hother]
        exact h
      | pass sight target cut => exact hrun _ _ _ _ _ l h
    obtain hsame | ⟨stored, hgiven⟩ := (loopOf_step hnodup hl o).2
    · exact ih (nodup_step hnodup o) hsame hmet hrest
    · exact ih (nodup_step hnodup o) hgiven (happly _ _ hmet) hrest

/-- **Waits are left alone.** Whatever comes during a wait, settings and reloads included, it lasts
as long as it did, and no tick comes before its end. -/
theorem waiting_after (hnodup : (w.supervisor.loops.map (·.context.kind)).Nodup)
    (hl : w.loopOf kind = some l) {due : Nat} (hphase : l.phase = .waiting due)
    {meanwhile : List Occurrence} (hnot : .stopKind kind ∉ meanwhile)
    (hbefore : (w.after meanwhile).now < due) :
    (∃ later, (w.after meanwhile).loopOf kind = some later ∧ later.phase = .waiting due) ∧
      (w.ticks meanwhile).filter (·.kind == kind) = [] := by
  induction meanwhile generalizing w l with
  | nil => exact ⟨⟨l, hl, hphase⟩, rfl⟩
  | cons o rest ih =>
    obtain ⟨hother, hrest⟩ := not_or.mp (fun hmem => hnot (List.mem_cons.mpr hmem))
    have hmet : w.meet l o = (l, []) := by
      cases o with
      | call | reload => rfl
      | stopKind other => exact meet_stopKind_of_ne hl hother
      | pass sight target cut =>
        have hleg : w.leg target < due := by
          refine lt_of_le_of_lt ?_ (((w.step _).now_le_after rest).trans_lt hbefore)
          rw [step, now_pass]
          exact Nat.le_max_right ..
        refine AlertLoop.runCut_of_none (fun moment hle => ?_) _
        simp only [AlertLoop.step?, hphase]
        exact if_neg (Nat.not_le.mpr (hle.trans_lt hleg))
    obtain ⟨hdeeds, hnext⟩ := loopOf_step hnodup hl o
    rw [hmet] at hdeeds hnext
    have hlater : ∃ next, (w.step o).loopOf kind = some next ∧ next.phase = .waiting due := by
      obtain hsame | ⟨stored, hgiven⟩ := hnext
      · exact ⟨_, hsame, hphase⟩
      · exact ⟨_, hgiven, hphase⟩
    obtain ⟨next, hnext, hwaits⟩ := hlater
    obtain ⟨hloop, hnone⟩ := ih (nodup_step hnodup o) hnext hwaits hrest hbefore
    refine ⟨hloop, ?_⟩
    rw [ticks, List.filter_append, hdeeds, hnone]
    rfl

/-- The settled ticks of a kind are its ticks. -/
theorem map_settledTicks (hnodup : (w.supervisor.loops.map (·.context.kind)).Nodup)
    (hl : w.loopOf kind = some l) (occurrences : List Occurrence) :
    (w.settledTicks kind occurrences).map (·.toDeed) =
      (w.ticks occurrences).filter (·.kind == kind) := by
  induction occurrences generalizing w l with
  | nil => rfl
  | cons o rest ih =>
    have hlater : ∃ next, (w.step o).loopOf kind = some next := by
      obtain hsame | ⟨stored, hgiven⟩ := (loopOf_step hnodup hl o).2
      · exact ⟨_, hsame⟩
      · exact ⟨_, hgiven⟩
    obtain ⟨next, hnext⟩ := hlater
    rw [settledTicks, ticks, hl, List.filter_append, List.map_append,
      ih (nodup_step hnodup o) hnext, Option.map_some, Option.getD_some, List.map_map]
    simp [Function.comp_def]

section

variable {t : Timetable} {settled : List SettledTick}

/-- With each occurrence, the loop of a kind stays on schedule, if its settings are those in force
meanwhile. -/
theorem onSchedule_step (henv : w.supervisor.env = t.env)
    (hnodup : (w.supervisor.loops.map (·.context.kind)).Nodup) (hl : w.loopOf kind = some l)
    (h : l.IsOnSchedule t settled w.now) (hahead : l.IsAhead t.env t.world w.now) {o : Occurrence}
    (hworld : ∀ sight target cut, o = .pass sight target cut →
      t.world.AgreesUntil (w.step o).now sight)
    (hforce : ∀ moment, w.now ≤ moment → moment ≤ (w.step o).now →
      t.InForce moment l.context.settings) :
    ∃ next, (w.step o).loopOf kind = some next ∧
      next.IsOnSchedule t (settled ++
        ((w.deeds o).filter (·.kind == kind)).map (⟨·, l.context.settings⟩)) (w.step o).now ∧
      next.IsAhead t.env t.world (w.step o).now := by
  have hmet : (w.meet l o).1.IsOnSchedule t
        (settled ++ (w.meet l o).2.map (⟨·, l.context.settings⟩)) (w.step o).now ∧
      (w.meet l o).1.IsAhead t.env t.world (w.step o).now := by
    cases o with
    | call | reload =>
      rw [now_step_of_not_pass _ (by simp)]
      simpa only [meet, List.map_nil, List.append_nil] using ⟨h, hahead⟩
    | stopKind other =>
      simp only [meet, List.map_nil, List.append_nil]
      split
      · exact ⟨h.stop, hahead.stop⟩
      · exact ⟨h, hahead⟩
    | pass sight target cut =>
      have hagrees : t.world.AgreesUntil (max w.now (w.leg target)) sight :=
        w.now_pass sight target cut ▸ hworld sight target cut rfl
      rw [step, now_pass] at hforce ⊢
      have hseen := hahead.congr (hagrees.mono (Nat.le_max_left ..))
      have hran := l.ran_runCut t.env sight w.store.accepts (w.leg target) (cut l.context.kind)
      rw [meet, henv]
      refine ⟨(h.mono (Nat.le_max_left ..)).ran hseen (hagrees.mono (Nat.le_max_right ..)).symm
        (Nat.le_max_right ..) (fun moment hbegun hle => ?_) hran,
        (hseen.runCut _ _ _).congr hagrees.symm⟩
      exact hforce moment hbegun (hle.trans (Nat.le_max_right ..))
  obtain ⟨hdeeds, hsame | ⟨stored, hgiven⟩⟩ := loopOf_step hnodup hl o
  · rw [hdeeds]
    exact ⟨_, hsame, hmet⟩
  · rw [hdeeds]
    exact ⟨_, hgiven, hmet.1.apply (Settings.isInSeconds_inForce ..),
      ⟨hmet.2.waiting, hmet.2.evaluating⟩⟩

/-- So it does through every run. -/
theorem onSchedule_after (henv : w.supervisor.env = t.env)
    (hnodup : (w.supervisor.loops.map (·.context.kind)).Nodup) (hl : w.loopOf kind = some l)
    (h : l.IsOnSchedule t settled w.now) (hahead : l.IsAhead t.env t.world w.now)
    {occurrences : List Occurrence} (hworld : w.TakesPlaceIn t.world occurrences)
    (hforce : ∀ moment s, w.HasInForce kind moment s occurrences → t.InForce moment s) :
    ∃ later, (w.after occurrences).loopOf kind = some later ∧
      later.IsOnSchedule t (settled ++ w.settledTicks kind occurrences)
        (w.after occurrences).now ∧
      later.IsAhead t.env t.world (w.after occurrences).now := by
  induction occurrences generalizing w l settled with
  | nil =>
    refine ⟨l, hl, ?_, hahead⟩
    rw [settledTicks, List.append_nil]
    exact h
  | cons o rest ih =>
    obtain ⟨hseen, hrest⟩ := hworld
    obtain ⟨next, hnext, hon, hahead⟩ := onSchedule_step henv hnodup hl h hahead hseen
      fun moment hbegun hle => hforce moment _ (.inl ⟨hbegun, hle, l, hl, rfl⟩)
    have hlater := ih ((w.continues_step o).env.trans henv) (nodup_step hnodup o) hnext hon hahead
      hrest fun moment s hs => hforce moment s (.inr hs)
    rw [List.append_assoc] at hlater
    rw [settledTicks, hl, Option.map_some, Option.getD_some]
    exact hlater

end

/-- A run in which always the same is seen takes place in what is seen. -/
theorem takesPlaceIn_of_sight {world : Sight} {occurrences : List Occurrence}
    (h : ∀ sight target cut, .pass sight target cut ∈ occurrences → sight = world) :
    w.TakesPlaceIn world occurrences := by
  induction occurrences generalizing w with
  | nil => trivial
  | cons o rest ih =>
    refine ⟨?_, ih fun sight target cut hmem =>
      h sight target cut (List.mem_cons_of_mem o hmem)⟩
    rintro sight target cut rfl
    rw [h sight target cut List.mem_cons_self]
    exact fun _ _ => ⟨rfl, rfl⟩

/-- The loop of a kind as a supervisor begins. -/
theorem loopOf_start {cluster : String} {env : Environment} {store : Store} {d : Defaults}
    {now : Nat} {v : Supervisor} (hstart : Supervisor.start cluster env store d now = .ok v)
    (kind : Kind) : Watch.loopOf ⟨v, store, now⟩ kind =
      some (.fresh cluster d (store.settings cluster) now kind) := by
  obtain ⟨l, hl⟩ := Watch.exists_loopOf hstart [] kind
  obtain ⟨stored, hload, rfl⟩ := Supervisor.start_eq_ok hstart
  obtain ⟨other, -, rfl⟩ := List.mem_map.mp (List.mem_of_find?_eq_some hl)
  obtain rfl : other = kind := Watch.kind_of_loopOf _ hl
  rw [← Store.eq_of_load_eq_ok hload]
  exact hl

end Watch

end CopysetWatch.Alert
