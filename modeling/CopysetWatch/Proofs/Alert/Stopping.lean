import CopysetWatch.Proofs.Alert.Watch
import CopysetWatch.Proofs.Check.Outcome

/-!
# Stopping for good

A signal to stop ends every wait at once and leaves a tick under way, which is finished like any
other and is the last one of its loop. Once all loops are over, which is when a shutdown returns,
nothing is done any more, however far time goes on. What carries this is that a loop is never told
to stop for nothing: it can be told as long as it is not over, unless it was told already. Only the
context of a loop that died of a panic is left behind as if its loop were running.
-/

namespace CopysetWatch.Alert

namespace AlertLoop

/-! ### Loops and their contexts -/

/-- A loop and its context agree: as long as the loop is not over, the context is running and has
the handle to stop it, unless this was used during the tick under way. -/
structure Coherent (l : AlertLoop) : Prop where
  waiting : ∀ due, l.phase = .waiting due → l.context.state = .running ∧
    l.context.handle = some l.receiver ∧ l.stopping = false
  evaluating : ∀ began rule, l.phase = .evaluating began rule → l.context.state = .running ∧
    l.context.handle = if l.stopping then none else some l.receiver
  ended : l.phase = .ended → l.context.state = .stopped ∧ l.context.handle = none
  died : l.phase = .died → l.context.state = .running

section

variable {l : AlertLoop}

theorem coherent_of_waiting {due : Nat} (hphase : l.phase = .waiting due)
    (hstate : l.context.state = .running) (hhandle : l.context.handle = some l.receiver)
    (hgoing : l.stopping = false) : l.Coherent where
  waiting _ _ := ⟨hstate, hhandle, hgoing⟩
  evaluating := by simp [hphase]
  ended := by simp [hphase]
  died := by simp [hphase]

theorem coherent_of_evaluating {began : Nat} {rule : String}
    (hphase : l.phase = .evaluating began rule)
    (hstate : l.context.state = .running)
    (hhandle : l.context.handle = if l.stopping then none else some l.receiver) : l.Coherent where
  waiting := by simp [hphase]
  evaluating _ _ _ := ⟨hstate, hhandle⟩
  ended := by simp [hphase]
  died := by simp [hphase]

theorem coherent_of_ended (hphase : l.phase = .ended) (hstate : l.context.state = .stopped)
    (hhandle : l.context.handle = none) : l.Coherent where
  waiting := by simp [hphase]
  evaluating := by simp [hphase]
  ended _ := ⟨hstate, hhandle⟩
  died := by simp [hphase]

theorem coherent_of_died (hphase : l.phase = .died) (hstate : l.context.state = .running) :
    l.Coherent where
  waiting := by simp [hphase]
  evaluating := by simp [hphase]
  ended := by simp [hphase]
  died _ := hstate

end

/-- Whatever follows from a finding, the context keeps running and keeps its handle. -/
theorem state_handle_conclude (c : Context) (accepts : Bool)
    (finding : Except Fault (Option String)) :
    (c.conclude accepts finding).2.2.state = c.state ∧
      (c.conclude accepts finding).2.2.handle = c.handle := by
  have hconcludes := c.concludes accepts finding
  generalize c.conclude accepts finding = result at hconcludes ⊢
  cases hconcludes <;> exact ⟨rfl, rfl⟩

theorem coherent_finish (l : AlertLoop) : l.finish.Coherent :=
  coherent_of_ended rfl rfl rfl

/-- A loop at the end of a tick agrees with the context that the tick leaves behind. -/
theorem coherent_resume {l : AlertLoop} {c : Context} (hstate : c.state = .running)
    (hhandle : c.handle = if l.stopping then none else some l.receiver) (now : Nat) :
    (l.resume c now).Coherent := by
  unfold resume
  split
  case isTrue => exact coherent_finish _
  case isFalse hgoing =>
    rw [if_neg hgoing] at hhandle
    exact coherent_of_waiting rfl hstate hhandle (Bool.eq_false_iff.mpr hgoing)

theorem coherent_fresh (cluster : String) (d : Defaults) (stored : List SettingsRecord) (now : Nat)
    (kind : Kind) : (fresh cluster d stored now kind).Coherent :=
  coherent_of_waiting rfl rfl rfl rfl

section

variable {l : AlertLoop}

variable {last : AlertLoop} {deeds : List Deed} {env : Environment} {sight : Sight} {accepts : Bool}
  {target : Nat}

theorem Coherent.ran (h : l.Coherent) (hran : Ran env sight accepts target l last deeds) :
    last.Coherent := by
  refine hran.keeps Coherent h fun l next deeds h hsteps => ?_
  cases hsteps with
  | begins hphase hdue henabled =>
    obtain ⟨hstate, hhandle, hgoing⟩ := h.waiting _ hphase
    refine coherent_of_evaluating rfl hstate ?_
    rw [hgoing]
    exact hhandle
  | idles hphase hdue hdisabled =>
    obtain ⟨hstate, hhandle, hgoing⟩ := h.waiting _ hphase
    refine coherent_resume hstate ?_ _
    rw [hgoing]
    exact hhandle
  | @settles began rule finding hphase hend hfinding =>
    obtain ⟨hstate, hhandle⟩ := h.evaluating _ _ hphase
    obtain ⟨hsameState, hsameHandle⟩ := state_handle_conclude l.context accepts finding
    exact coherent_resume (hsameState.trans hstate) (hsameHandle.trans hhandle) _
  | dies hphase hend hpanic => exact coherent_of_died rfl (h.evaluating _ _ hphase).1

theorem Coherent.apply (h : l.Coherent) (s : Settings) : (l.apply s).Coherent :=
  ⟨h.waiting, h.evaluating, h.ended, h.died⟩

/-! ### Being told to stop -/

/-- What a signal to stop leaves of a loop: a tick under way, which becomes the last one, and
nothing otherwise. A loop that died has nothing left to be told. -/
def leave (l : AlertLoop) : AlertLoop :=
  match l.phase with
  | .evaluating .. => { l with context := { l.context with handle := none }, stopping := true }
  | .died => { l with context := { l.context with handle := none } }
  | _ => l.finish

theorem Coherent.stop_eq (h : l.Coherent) : l.stop.2 = l.leave := by
  unfold stop leave Context.stop
  cases hphase : l.phase with
  | waiting due =>
    obtain ⟨-, hhandle, -⟩ := h.waiting due hphase
    have hlistens : l.listens l.receiver := by simp [listens, isOver, hphase]
    rw [hhandle, Option.filter_some, if_pos hlistens]
    rfl
  | evaluating began rule =>
    obtain ⟨-, hhandle⟩ := h.evaluating began rule hphase
    cases hgoing : l.stopping with
    | true =>
      rw [hhandle, hgoing]
      simp [← hgoing]
    | false =>
      have hlistens : l.listens l.receiver := by simp [listens, isOver, hphase]
      rw [hhandle, hgoing, if_neg Bool.false_ne_true, Option.filter_some, if_pos hlistens]
  | ended =>
    obtain ⟨hstate, hhandle⟩ := h.ended hphase
    rw [hhandle]
    simp only [Option.filter_none, finish, Context.markStopped]
    rw [← hstate, ← hphase, ← hhandle]
  | died =>
    have hlistens : l.context.handle.filter l.listens = none := by
      cases l.context.handle <;> simp [listens, isOver, hphase]
    rw [hlistens]

theorem Coherent.leave (h : l.Coherent) : l.leave.Coherent := by
  unfold AlertLoop.leave
  split
  case h_1 began rule hphase =>
    exact coherent_of_evaluating hphase (h.evaluating began rule hphase).1 rfl
  case h_2 hphase => exact coherent_of_died hphase (h.died hphase)
  case h_3 => exact coherent_finish l

/-- A loop that was told to stop and cannot be told again: it is over, or in its last tick. -/
structure IsLeaving (l : AlertLoop) : Prop where
  handle : l.context.handle = none
  phase : l.isOver ∨ l.stopping ∧ ∃ began rule, l.phase = .evaluating began rule

theorem isLeaving_leave (l : AlertLoop) : l.leave.IsLeaving := by
  unfold AlertLoop.leave
  split
  case h_1 began rule hphase => exact ⟨rfl, .inr ⟨rfl, began, rule, hphase⟩⟩
  case h_2 hphase => exact ⟨rfl, .inl (by simp [isOver, hphase])⟩
  case h_3 => exact ⟨rfl, .inl rfl⟩

/-- Another signal changes nothing. -/
theorem IsLeaving.stop_eq (h : l.IsLeaving) : l.stop.2 = l := by
  have hcontext : { l.context with handle := none } = l.context := by rw [← h.handle]
  unfold stop Context.stop
  rw [hcontext, h.handle]
  rfl

/-- A loop that is over does nothing. -/
theorem step?_of_isOver (hover : l.isOver) (env : Environment) (sight : Sight) (accepts : Bool)
    (target : Nat) : l.step? env sight accepts target = none := by
  rw [isOver, Bool.or_eq_true, beq_iff_eq, beq_iff_eq] at hover
  rcases hover with hphase | hphase <;> simp only [step?, hphase]

theorem runSteps_of_none (h : l.step? env sight accepts target = none) (count : Nat) :
    l.runSteps env sight accepts target count = (l, []) := by
  cases count with
  | zero => rfl
  | succ count => rw [runSteps, h]

theorem runBefore_of_none (h : ∀ moment < target, l.step? env sight accepts moment = none) :
    l.runBefore env sight accepts target = (l, []) := by
  cases target with
  | zero => rfl
  | succ last => exact runUntil_of_none (h last (Nat.lt_succ_self last))

/-- A loop with nothing to do up to a moment stays as it is, wherever it is cut short. -/
theorem runCut_of_none (h : ∀ moment ≤ target, l.step? env sight accepts moment = none)
    (cut : Option Nat) : l.runCut env sight accepts target cut = (l, []) := by
  cases cut with
  | none => exact runUntil_of_none (h target (Nat.le_refl _))
  | some count =>
    rw [runCut, runBefore_of_none fun moment hlt => h moment hlt.le]
    dsimp only
    rw [runSteps_of_none (h target (Nat.le_refl _))]
    rfl

theorem runCut_of_isOver (hover : l.isOver) (env : Environment) (sight : Sight) (accepts : Bool)
    (target : Nat) (cut : Option Nat) : l.runCut env sight accepts target cut = (l, []) :=
  runCut_of_none (fun moment _ => step?_of_isOver hover env sight accepts moment) cut

/-- What is left of a loop when the evaluation of its last tick is over. -/
def close (l : AlertLoop) (accepts : Bool) (e : Evaluation) : AlertLoop :=
  match e.finding.returned? with
  | none => l.die
  | some finding => finish { l with context := (l.context.conclude accepts finding).2.2 }

/-- What a loop does when the evaluation of its last tick is over. -/
def closing (l : AlertLoop) (env : Environment) (accepts : Bool) (began : Nat) (e : Evaluation) :
    List Deed :=
  match e.finding.returned? with
  | none => []
  | some finding => [.ofEvaluation env l.context accepts began e finding]

theorem isOver_close (l : AlertLoop) (accepts : Bool) (e : Evaluation) :
    (l.close accepts e).isOver := by
  unfold close
  split <;> rfl

/-- The next step of a loop in its last tick ends it. -/
theorem step?_of_stopping (hstopping : l.stopping) {began : Nat} {rule : String}
    (hphase : l.phase = .evaluating began rule) (env : Environment) (sight : Sight)
    (accepts : Bool) (target : Nat) :
    l.step? env sight accepts target =
      let e := l.context.kind.evaluate env sight rule began
      if began + e.elapsed ≤ target then
        some (l.close accepts e, l.closing env accepts began e)
      else none := by
  have hresume : ∀ c now, l.resume c now = finish { l with context := c } :=
    fun c now => if_pos hstopping
  simp only [step?, hphase, hresume, close, closing]
  cases (l.context.kind.evaluate env sight rule began).finding.returned? <;> rfl

theorem step?_of_stopping_of_lt (hstopping : l.stopping) {began : Nat} {rule : String}
    (hphase : l.phase = .evaluating began rule)
    (h : target < began + (l.context.kind.evaluate env sight rule began).elapsed) :
    l.step? env sight accepts target = none :=
  (step?_of_stopping hstopping hphase ..).trans (if_neg (Nat.not_le.mpr h))

/-- Whether time that passes up to a moment, at which a loop may be cut short, leaves out what the
loop would do at an earlier moment. -/
def FallsShort (target : Nat) (cut : Option Nat) (moment : Nat) : Prop :=
  target < moment ∨ target = moment ∧ cut = some 0

/-- As long as time does not pass far enough, a loop is in its last tick. -/
theorem runCut_of_fallsShort (hstopping : l.stopping) {began : Nat} {rule : String}
    (hphase : l.phase = .evaluating began rule) {cut : Option Nat}
    (h : FallsShort target cut
      (began + (l.context.kind.evaluate env sight rule began).elapsed)) :
    l.runCut env sight accepts target cut = (l, []) := by
  rcases h with hlt | ⟨rfl, rfl⟩
  · exact runCut_of_none (fun moment hle =>
      step?_of_stopping_of_lt hstopping hphase (hle.trans_lt hlt)) cut
  · rw [runCut, runBefore_of_none fun moment => step?_of_stopping_of_lt hstopping hphase]
    rfl

/-- When time has passed far enough, the last tick of a loop is over. -/
theorem runCut_of_not_fallsShort (hstopping : l.stopping) {began : Nat} {rule : String}
    (hphase : l.phase = .evaluating began rule) {cut : Option Nat}
    (h : ¬FallsShort target cut
      (began + (l.context.kind.evaluate env sight rule began).elapsed)) :
    let e := l.context.kind.evaluate env sight rule began
    l.runCut env sight accepts target cut =
      (l.close accepts e, l.closing env accepts began e) := by
  intro e
  obtain ⟨hle, hcut⟩ : began + e.elapsed ≤ target ∧
      (target = began + e.elapsed → cut ≠ some 0) := by
    rwa [FallsShort, not_or, Nat.not_lt, not_and] at h
  have hstep {moment : Nat} (h : began + e.elapsed ≤ moment) :
      l.step? env sight accepts moment =
        some (l.close accepts e, l.closing env accepts began e) :=
    (step?_of_stopping hstopping hphase ..).trans (if_pos h)
  have hclosed (moment : Nat) := (l.close accepts e).step?_of_isOver (l.isOver_close accepts e)
    env sight accepts moment
  have hrun {moment : Nat} (h : began + e.elapsed ≤ moment) :
      l.runUntil env sight accepts moment =
        (l.close accepts e, l.closing env accepts began e) := by
    rw [runUntil_of_some (hstep h), runUntil_of_none (hclosed moment), List.append_nil]
  cases cut with
  | none => exact hrun hle
  | some count =>
    rw [runCut]
    rcases hle.eq_or_lt with heq | hlt
    · cases count with
      | zero => exact absurd rfl (hcut heq.symm)
      | succ count =>
        have hbefore : l.runBefore env sight accepts target = (l, []) :=
          runBefore_of_none fun moment hlt =>
            step?_of_stopping_of_lt hstopping hphase (heq ▸ hlt)
        rw [hbefore, runSteps, hstep hle]
        dsimp only
        rw [runSteps_of_none (hclosed target), List.append_nil]
        rfl
    · cases target with
      | zero => exact absurd hlt (Nat.not_lt_zero _)
      | succ last =>
        rw [runBefore, hrun (Nat.lt_succ_iff.mp hlt)]
        dsimp only
        rw [runSteps_of_none (hclosed _), List.append_nil]

/-- A loop that leaves has nothing to do but to end its last tick. -/
theorem IsLeaving.ran (h : l.IsLeaving) (hran : Ran env sight accepts target l last deeds) :
    last.IsLeaving := by
  refine hran.keeps IsLeaving h fun l next deeds h hsteps => ?_
  cases hsteps with
  | begins hphase | idles hphase =>
    rcases h.phase with hover | ⟨-, began, rule, hevaluating⟩
    · simp [isOver, hphase] at hover
    · rw [hphase] at hevaluating
      cases hevaluating
  | settles hphase =>
    rcases h.phase with hover | ⟨hstopping, -⟩
    · simp [isOver, hphase] at hover
    · rw [resume, if_pos hstopping]
      exact ⟨rfl, .inl rfl⟩
  | dies => exact ⟨h.handle, .inl rfl⟩

end

end AlertLoop

/-- A supervisor whose loops are all over does nothing. -/
theorem Supervisor.runLoops_of_isOver {v : Supervisor} (h : ∀ l ∈ v.loops, l.isOver)
    (sight : Sight) (accepts : Bool) (target : Nat) (cut : Kind → Option Nat) :
    v.runLoops sight accepts target cut = (v, v.loops.map fun _ => []) := by
  have hran : (v.loops.map fun l => l.runCut v.env sight accepts target (cut l.context.kind)) =
      v.loops.map fun l => (l, []) :=
    List.map_congr_left fun l hl => AlertLoop.runCut_of_isOver (h l hl) ..
  unfold runLoops
  dsimp only
  rw [hran, List.map_map, List.map_map]
  simp [Function.comp_def]

/-! ### Runs after a signal to stop -/

/-- Whether an occurrence leaves out what a loop of a kind would do when its evaluation, by a rule
and from a moment on, is over. -/
def Occurrence.FallsShort (env : Environment) (kind : Kind) (began : Nat) (rule : String) :
    Occurrence → Prop
  | .pass sight target cut => AlertLoop.FallsShort target (cut kind)
      (began + (kind.evaluate env sight rule began).elapsed)
  | _ => True

namespace Watch

/-- Signals everything to stop. -/
def stop (w : Watch) : Watch :=
  { w with supervisor := w.supervisor.stop }

/-- A watch that was told to stop: there are no more reloads, and its loops, of which there is one
for each kind, are over or in their last ticks. -/
structure IsStopped (w : Watch) : Prop where
  nextReload : w.supervisor.nextReload = none
  leaving : ∀ l ∈ w.supervisor.loops, l.IsLeaving
  nodup : (w.supervisor.loops.map (·.context.kind)).Nodup

namespace IsStopped

variable {w : Watch}

theorem after (h : w.IsStopped) (occurrences : List Occurrence) :
    (w.after occurrences).IsStopped where
  nextReload := by
    rw [← Option.not_isSome_iff_eq_none, isSome_nextReload_after, h.nextReload]
    simp
  leaving := forall_loops_after (fun _ _ _ _ _ _ hl => hl.ran (AlertLoop.ran_runCut ..))
    (fun _ _ hl => ⟨hl.handle, hl.phase⟩) (fun l hl => hl.stop_eq.symm ▸ hl) h.leaving occurrences
  nodup := by
    rw [(w.continues_after occurrences).kinds]
    exact h.nodup

theorem step (h : w.IsStopped) (o : Occurrence) : (w.step o).IsStopped :=
  h.after [o]

/-- Nothing that happens changes the loops but time that passes. -/
theorem supervisor_step (h : w.IsStopped) {o : Occurrence}
    (ho : ∀ sight target cut, o ≠ .pass sight target cut) :
    (w.step o).supervisor = w.supervisor := by
  cases o with
  | call c => rfl
  | reload => simp [Watch.step, reload, h.nextReload]
  | stopKind kind =>
    have hsame : ∀ l ∈ w.supervisor.loops,
        (if l.context.kind == kind then l.stop.2 else l) = l := by
      intro l hl
      rw [(h.leaving l hl).stop_eq, ite_self]
    simp only [Watch.step, Supervisor.stopKind, List.map_congr_left hsame, List.map_id']
  | pass sight target cut => exact absurd rfl (ho sight target cut)

/-- As time passes, the loops run. -/
theorem step_pass (h : w.IsStopped) (sight : Sight) (target : Nat) (cut : Kind → Option Nat) :
    w.step (.pass sight target cut) = w.runTo sight target cut ∧
      w.deeds (.pass sight target cut) = w.deedsTo sight target cut := by
  refine ⟨w.pass_of_late (by simp [h.nextReload]) sight cut, ?_⟩
  simp [deeds, leg, h.nextReload]

/-- The loop of a kind stays as it is until time passes. -/
theorem loopOf_step (h : w.IsStopped) {kind : Kind} {l : AlertLoop} (hl : w.loopOf kind = some l)
    (o : Occurrence) :
    ((∀ sight target cut, o ≠ .pass sight target cut) ∧ (w.step o).loopOf kind = some l ∧
      (w.deeds o).filter (·.kind == kind) = []) ∨
    ∃ sight target cut, o = .pass sight target cut ∧
      (w.step o).loopOf kind =
        some (l.runCut w.supervisor.env sight w.store.accepts target (cut kind)).1 ∧
      (w.deeds o).filter (·.kind == kind) =
        (l.runCut w.supervisor.env sight w.store.accepts target (cut kind)).2 := by
  by_cases ho : ∃ sight target cut, o = .pass sight target cut
  · obtain ⟨sight, target, cut, rfl⟩ := ho
    obtain ⟨hstep, hdeeds⟩ := h.step_pass sight target cut
    refine .inr ⟨sight, target, cut, rfl, ?_, ?_⟩
    · rw [hstep, loopOf_runTo, hl, Option.map_some, w.kind_of_loopOf hl]
    · rw [hdeeds, filter_deedsTo _ h.nodup, hl, Option.map_some, w.kind_of_loopOf hl]
      rfl
  · have hnot : ∀ sight target cut, o ≠ .pass sight target cut :=
      fun sight target cut heq => ho ⟨sight, target, cut, heq⟩
    refine .inl ⟨hnot, ?_, ?_⟩
    · unfold loopOf
      rw [h.supervisor_step hnot]
      exact hl
    · cases o with
      | pass sight target cut => exact absurd ⟨sight, target, cut, rfl⟩ ho
      | _ => rfl

end IsStopped

/-- What becomes of a leaving loop in a run of a watch that was told to stop, and what it does. -/
inductive Leaves (w : Watch) (rest : List Occurrence) (l : AlertLoop) :
    List Deed → AlertLoop → Prop where
  /-- It is over. -/
  | done (hover : l.isOver) : Leaves w rest l [] l
  /-- Its last tick is under way, and time never passes as far as to the end of the evaluation. -/
  | underWay {began : Nat} {rule : String} (hphase : l.phase = .evaluating began rule)
      (hshort : ∀ o ∈ rest, o.FallsShort w.supervisor.env l.context.kind began rule) :
      Leaves w rest l [] l
  /-- Its last tick is over as soon as time passes that far, with what follows from its finding, or
  with nothing if there was a panic. -/
  | closed {began : Nat} {rule : String} {before others : List Occurrence} {sight : Sight}
      {target : Nat} {cut : Kind → Option Nat} (hphase : l.phase = .evaluating began rule)
      (hrest : rest = before ++ .pass sight target cut :: others)
      (hshort : ∀ o ∈ before, o.FallsShort w.supervisor.env l.context.kind began rule)
      (hreaches : ¬Occurrence.FallsShort w.supervisor.env l.context.kind began rule
        (.pass sight target cut)) :
      Leaves w rest l
        (l.closing w.supervisor.env (w.after before).store.accepts began
          (l.context.kind.evaluate w.supervisor.env sight rule began))
        (l.close (w.after before).store.accepts
          (l.context.kind.evaluate w.supervisor.env sight rule began))

/-- A loop that is over stays as it is, and does nothing. -/
theorem IsStopped.loopOf_after_of_isOver {w : Watch} (h : w.IsStopped) {kind : Kind}
    {l : AlertLoop} (hl : w.loopOf kind = some l) (hover : l.isOver) (rest : List Occurrence) :
    (w.after rest).loopOf kind = some l ∧ (w.ticks rest).filter (·.kind == kind) = [] := by
  induction rest generalizing w with
  | nil => exact ⟨hl, rfl⟩
  | cons o rest ih =>
    have hstep : (w.step o).loopOf kind = some l ∧ (w.deeds o).filter (·.kind == kind) = [] := by
      rcases h.loopOf_step hl o with ⟨-, hsame⟩ | ⟨sight, target, cut, -, hnext, hdeeds⟩
      · exact hsame
      · rw [AlertLoop.runCut_of_isOver hover] at hnext hdeeds
        exact ⟨hnext, hdeeds⟩
    obtain ⟨hlater, hticks⟩ := ih (h.step o) hstep.1
    refine ⟨hlater, ?_⟩
    rw [ticks, List.filter_append, hstep.2, hticks]
    rfl

/-- What becomes of a leaving loop does not depend on what comes before time passes far enough. -/
theorem Leaves.cons {w : Watch} {o : Occurrence} {rest : List Occurrence} {l later : AlertLoop}
    {deeds : List Deed} (h : (w.step o).Leaves rest l deeds later)
    (hshort : ∀ began rule, l.phase = .evaluating began rule →
      o.FallsShort w.supervisor.env l.context.kind began rule) :
    w.Leaves (o :: rest) l deeds later := by
  have henv : (w.step o).supervisor.env = w.supervisor.env := (w.continues_step o).env
  cases h with
  | done hover => exact .done hover
  | @underWay began rule hphase hrest =>
    rw [henv] at hrest
    exact .underWay hphase (List.forall_mem_cons.mpr ⟨hshort began rule hphase, hrest⟩)
  | @closed began rule before others sight target cut hphase hsplit hbefore hreaches =>
    rw [henv] at hbefore hreaches ⊢
    have hsplit' : o :: rest = (o :: before) ++ .pass sight target cut :: others := by
      rw [hsplit, List.cons_append]
    have hbefore' := List.forall_mem_cons.mpr ⟨hshort began rule hphase, hbefore⟩
    have hclosed := Leaves.closed (w := w) hphase hsplit' hbefore' hreaches
    exact hclosed

/-- A leaving loop is at its last tick until time has passed far enough, and is over then. -/
theorem IsStopped.exists_leaves {w : Watch} (h : w.IsStopped) {kind : Kind} {l : AlertLoop}
    (hl : w.loopOf kind = some l) (rest : List Occurrence) :
    ∃ later, (w.after rest).loopOf kind = some later ∧
      w.Leaves rest l ((w.ticks rest).filter (·.kind == kind)) later := by
  rcases (h.leaving l (List.mem_of_find?_eq_some hl)).phase with
    hover | ⟨hstopping, began, rule, hphase⟩
  · obtain ⟨hlater, hticks⟩ := h.loopOf_after_of_isOver hl hover rest
    exact ⟨l, hlater, hticks ▸ .done hover⟩
  · -- Until the last tick is over the loop stays what it is, so `hl` carries the induction.
    induction rest generalizing w with
    | nil =>
      refine ⟨l, hl, .underWay hphase ?_⟩
      simp
    | cons o rest ih =>
      have hkind := w.kind_of_loopOf hl
      have hphase_eq {began' : Nat} {rule' : String} (h : l.phase = .evaluating began' rule') :
          began' = began ∧ rule' = rule := by
        obtain ⟨rfl, rfl⟩ := Phase.evaluating.inj (h.symm.trans hphase)
        exact ⟨rfl, rfl⟩
      rcases h.loopOf_step hl o with
        ⟨hnot, hsame, hnone⟩ | ⟨sight, target, cut, rfl, hnext, hdeeds⟩
      · obtain ⟨later, hlater, hleaves⟩ := ih (h.step o) hsame
        refine ⟨later, hlater, ?_⟩
        rw [ticks, List.filter_append, hnone, List.nil_append]
        refine hleaves.cons fun _ _ _ => ?_
        cases o with
        | pass sight target cut => exact absurd rfl (hnot sight target cut)
        | _ => trivial
      · by_cases hshort : Occurrence.FallsShort w.supervisor.env l.context.kind began rule
          (.pass sight target cut)
        · rw [AlertLoop.runCut_of_fallsShort hstopping hphase (hkind ▸ hshort)] at hnext hdeeds
          obtain ⟨later, hlater, hleaves⟩ := ih (h.step _) hnext
          refine ⟨later, hlater, ?_⟩
          rw [ticks, List.filter_append, hdeeds, List.nil_append]
          refine hleaves.cons fun began' rule' hphase' => ?_
          obtain ⟨rfl, rfl⟩ := hphase_eq hphase'
          exact hshort
        · rw [AlertLoop.runCut_of_not_fallsShort hstopping hphase (hkind ▸ hshort)] at hnext hdeeds
          obtain ⟨hlater, hticks⟩ :=
            (h.step _).loopOf_after_of_isOver hnext (l.isOver_close ..) rest
          refine ⟨_, hlater, ?_⟩
          rw [ticks, List.filter_append, hticks, hdeeds, List.append_nil]
          have hclosed : w.Leaves ([] ++ .pass sight target cut :: rest) l _ _ :=
            .closed hphase rfl (by simp) hshort
          exact hclosed

/-! ### When everything is over -/

/-- All loops are over, which is when a shutdown returns. -/
def IsOver (w : Watch) : Prop :=
  ∀ l ∈ w.supervisor.loops, l.isOver

/-- The time that a shutdown waits for the ticks under way. -/
def lastPass (w : Watch) (sight : Sight) : Occurrence :=
  .pass sight (w.supervisor.lastEvaluationEnd sight w.now) fun _ => none

/-- Signals everything to stop, and waits for the ticks under way. -/
def shutdown (w : Watch) (sight : Sight) : Watch :=
  w.stop.step (w.stop.lastPass sight)

theorem le_foldl_max {moments : List Nat} {moment : Nat} (h : moment ∈ moments) (first : Nat) :
    moment ≤ moments.foldl max first := by
  rw [List.foldl_max]
  cases hlatest : moments.max? with
  | none => exact absurd h (List.max?_eq_none_iff.mp hlatest ▸ List.not_mem_nil)
  | some latest =>
    exact ((List.max?_eq_some_iff.mp hlatest).2 moment h).trans (Nat.le_max_right first latest)

/-- Every evaluation under way is over at the moment up to which a shutdown waits. -/
theorem le_lastEvaluationEnd {v : Supervisor} {l : AlertLoop} (hl : l ∈ v.loops) {began : Nat}
    {rule : String} (hphase : l.phase = .evaluating began rule) (sight : Sight) (now : Nat) :
    began + (l.context.kind.evaluate v.env sight rule began).elapsed ≤
      v.lastEvaluationEnd sight now := by
  refine le_foldl_max (List.mem_filterMap.mpr ⟨l, hl, ?_⟩) now
  simp only [AlertLoop.evaluationEnd?, hphase]

namespace IsStopped

variable {w : Watch}

/-- A shutdown gets to its end. -/
theorem isOver_lastPass (h : w.IsStopped) (sight : Sight) :
    (w.step (w.lastPass sight)).IsOver := by
  unfold lastPass IsOver
  rw [(h.step_pass sight _ _).1, runTo, Supervisor.runLoops]
  dsimp only
  rw [List.map_map]
  refine List.forall_mem_map.mpr fun l hl => ?_
  rw [Function.comp_apply]
  rcases (h.leaving l hl).phase with hover | ⟨hstopping, began, rule, hphase⟩
  · rw [AlertLoop.runCut_of_isOver hover]
    exact hover
  · have hend := le_lastEvaluationEnd hl hphase sight w.now
    have hreaches : ¬AlertLoop.FallsShort (w.supervisor.lastEvaluationEnd sight w.now) none
        (began + (l.context.kind.evaluate w.supervisor.env sight rule began).elapsed) := by
      rintro (hlt | ⟨-, hcut⟩)
      · exact Nat.not_lt.mpr hend hlt
      · cases hcut
    rw [AlertLoop.runCut_of_not_fallsShort hstopping hphase hreaches]
    exact l.isOver_close ..

/-- Where all loops are over, nothing happens to the supervisor. -/
theorem step_of_isOver (h : w.IsStopped) (hover : w.IsOver) (o : Occurrence) :
    (w.step o).supervisor = w.supervisor ∧ w.deeds o = [] := by
  by_cases ho : ∃ sight target cut, o = .pass sight target cut
  · obtain ⟨sight, target, cut, rfl⟩ := ho
    obtain ⟨hstep, hdeeds⟩ := h.step_pass sight target cut
    rw [hstep, hdeeds, deedsTo, runTo, Supervisor.runLoops_of_isOver hover]
    exact ⟨rfl, inOrder_append_of_nil [] (by simp)⟩
  · have hnot : ∀ sight target cut, o ≠ .pass sight target cut :=
      fun sight target cut heq => ho ⟨sight, target, cut, heq⟩
    refine ⟨h.supervisor_step hnot, ?_⟩
    cases o with
    | pass sight target cut => exact absurd ⟨sight, target, cut, rfl⟩ ho
    | _ => rfl

/-- However long time goes on, nothing is done any more. -/
theorem after_of_isOver (h : w.IsStopped) (hover : w.IsOver) (more : List Occurrence) :
    (w.after more).supervisor = w.supervisor ∧ w.ticks more = [] := by
  induction more generalizing w with
  | nil => exact ⟨rfl, rfl⟩
  | cons o more ih =>
    obtain ⟨hsame, hnone⟩ := h.step_of_isOver hover o
    have hstill : (w.step o).IsOver := by
      unfold IsOver
      rw [hsame]
      exact hover
    obtain ⟨hsupervisor, hticks⟩ := ih (h.step o) hstill
    refine ⟨hsupervisor.trans hsame, ?_⟩
    rw [ticks, hnone, hticks]
    rfl

end IsStopped

/-! ### From the beginning to the end -/

section

variable {cluster : String} {env : Environment} {store : Store} {d : Defaults} {now : Nat}
  {v : Supervisor}

/-- Loops that agree with their contexts do so through every run. -/
theorem coherent_after {w : Watch} (h : ∀ l ∈ w.supervisor.loops, l.Coherent)
    (occurrences : List Occurrence) :
    ∀ l ∈ (w.after occurrences).supervisor.loops, l.Coherent :=
  forall_loops_after (fun _ _ _ _ _ _ h => h.ran (AlertLoop.ran_runCut ..))
    (fun s _ h => h.apply s) (fun _ h => h.stop_eq.symm ▸ h.leave) h occurrences

theorem coherent_start (hstart : Supervisor.start cluster env store d now = .ok v) :
    ∀ l ∈ v.loops, l.Coherent := by
  obtain ⟨stored, -, rfl⟩ := Supervisor.start_eq_ok hstart
  exact List.forall_mem_map.mpr fun kind _ => AlertLoop.coherent_fresh cluster d stored now kind

/-- A signal to stop leaves of every loop what it leaves of a loop. -/
theorem loopOf_stop (hstart : Supervisor.start cluster env store d now = .ok v)
    (occurrences : List Occurrence) (kind : Kind) :
    (Watch.after ⟨v, store, now⟩ occurrences).stop.loopOf kind =
      ((Watch.after ⟨v, store, now⟩ occurrences).loopOf kind).map AlertLoop.leave := by
  have hcoherent := coherent_after (w := ⟨v, store, now⟩) (coherent_start hstart) occurrences
  generalize Watch.after ⟨v, store, now⟩ occurrences = w at hcoherent ⊢
  unfold loopOf stop Supervisor.stop
  dsimp only
  rw [find?_map_of_kind AlertLoop.kind_stop]
  cases hfound : w.supervisor.loops.find? (·.context.kind == kind) with
  | none => rfl
  | some l =>
    exact congrArg some (hcoherent l (List.mem_of_find?_eq_some hfound)).stop_eq

/-- After a signal to stop, no reload is left and every loop leaves. -/
theorem isStopped_stop (hstart : Supervisor.start cluster env store d now = .ok v)
    (occurrences : List Occurrence) : (Watch.after ⟨v, store, now⟩ occurrences).stop.IsStopped where
  nextReload := rfl
  leaving := by
    refine List.forall_mem_map.mpr fun l hl => ?_
    rw [(coherent_after (w := ⟨v, store, now⟩) (coherent_start hstart) occurrences l hl).stop_eq]
    exact l.isLeaving_leave
  nodup := by
    have hkinds := (Watch.continues_after ⟨v, store, now⟩ occurrences).trans
      (Supervisor.continues_stop _)
    refine (hkinds.kinds.trans (Supervisor.kinds_start hstart)).symm ▸ ?_
    decide

/-- Whenever all loops are over after a signal to stop, the contexts are stopped of those that did
not die. -/
theorem stopped_iff_of_isOver (hstart : Supervisor.start cluster env store d now = .ok v)
    (occurrences rest : List Occurrence)
    (hover : ((Watch.after ⟨v, store, now⟩ occurrences).stop.after rest).IsOver) :
    ∀ l ∈ ((Watch.after ⟨v, store, now⟩ occurrences).stop.after rest).supervisor.loops,
      l.context.state = .stopped ↔ l.phase ≠ .died := by
  have hcoherent := coherent_after (w := ⟨v, store, now⟩) (coherent_start hstart) occurrences
  have hleft : ∀ l ∈ (Watch.after ⟨v, store, now⟩ occurrences).stop.supervisor.loops,
      l.Coherent := by
    refine List.forall_mem_map.mpr fun l hl => ?_
    rw [(hcoherent l hl).stop_eq]
    exact (hcoherent l hl).leave
  intro l hl
  have h := coherent_after hleft rest l hl
  constructor
  · intro hstopped hdied
    rw [h.died hdied] at hstopped
    cases hstopped
  · intro halive
    have hended : l.phase = .ended := by
      have hphase := hover l hl
      rw [AlertLoop.isOver, Bool.or_eq_true, beq_iff_eq, beq_iff_eq] at hphase
      exact hphase.resolve_right halive
    exact (h.ended hended).1

end

end Watch

/-- **Stopping is final.** Let a supervisor start, let anything happen to it, and signal it to stop.
Whatever happens then, its loops are over unless they are in a tick, and a tick under way is the
last one: it is over when its evaluation is, with the usual consequences. What is stored are the
alerts of these ticks. A shutdown gets to where all loops are over, and once they are, the contexts
are stopped of all loops that did not die of an evaluation that panicked, the supervisor stays as it
is, no tick takes place and no alert is stored. -/
theorem stop_is_final {cluster : String} {env : Environment} {store : Store} {d : Defaults}
    {now : Nat} {v : Supervisor} (hstart : Supervisor.start cluster env store d now = .ok v)
    (occurrences : List Occurrence) :
    let w := Watch.after ⟨v, store, now⟩ occurrences
    (∀ kind, ∃ l, w.loopOf kind = some l ∧ w.stop.loopOf kind = some l.leave ∧
      ∀ rest, ∃ later, (w.stop.after rest).loopOf kind = some later ∧
        w.stop.Leaves rest l.leave ((w.stop.ticks rest).filter (·.kind == kind)) later) ∧
    (∀ rest, (w.stop.after rest).store.emissions =
      w.store.emissions ++ (w.stop.ticks rest).filterMap Deed.emission) ∧
    (∀ sight, (w.shutdown sight).IsOver) ∧
    ∀ rest, (w.stop.after rest).IsOver →
      (∀ l ∈ (w.stop.after rest).supervisor.loops,
        l.context.state = .stopped ↔ l.phase ≠ .died) ∧
      ∀ more, ((w.stop.after rest).after more).supervisor = (w.stop.after rest).supervisor ∧
        (w.stop.after rest).ticks more = [] ∧
        ((w.stop.after rest).after more).store.emissions =
          (w.stop.after rest).store.emissions := by
  intro w
  have hstopped : w.stop.IsStopped := Watch.isStopped_stop hstart occurrences
  refine ⟨fun kind => ?_, fun rest => ?_, fun sight => ?_, fun rest hover => ?_⟩
  · obtain ⟨l, hl⟩ := Watch.exists_loopOf hstart occurrences kind
    have hleave : w.stop.loopOf kind = some l.leave := by
      rw [Watch.loopOf_stop hstart, hl]
      rfl
    exact ⟨l, hl, hleave, fun rest => hstopped.exists_leaves hleave rest⟩
  · rw [Watch.store_after]
    rfl
  · exact hstopped.isOver_lastPass sight
  · refine ⟨Watch.stopped_iff_of_isOver hstart occurrences rest hover, fun more => ?_⟩
    obtain ⟨hsupervisor, hticks⟩ := (hstopped.after rest).after_of_isOver hover more
    refine ⟨hsupervisor, hticks, ?_⟩
    rw [Watch.store_after, hticks]
    simp [Store.withEmissions]

/-- A cluster in which nothing answers but an endpoint that comes too late. -/
def lateEndpoint : Sight where
  gateway _ := {
    servers := .now (.error (.gateway ""))
    assignments := fun _ => .now (.error (.gateway ""))
    members := fun _ _ => .now (.error (.gateway ""))
    copysets := .now (.error (.gateway ""))
    raftStatus := fun _ => .now (.error (.gateway "")) }
  probe _ := {
    capacity := .now (.error (.gateway ""))
    endpoints := fun _ => .now (.ok ["10.0.0.1:2379"])
    leads := fun _ _ => ⟨5000, .value true⟩ }

/-- A supervisor that is shut down while it waits for an endpoint lets that tick end, and all is
over then. -/
theorem stop_is_final_lateEndpoint :
    let d : Defaults := { reloadInterval := .ofSeconds 600 }
    ∃ v, Supervisor.start "east" ⟨"east", {}, .ofSeconds 1⟩ {} d 0 = .ok v ∧
      let w := Watch.after ⟨v, {}, 0⟩ [.pass lateEndpoint 60500 fun _ => none]
      (∃ l, w.loopOf (.leader .etcd) = some l ∧ l.phase = .evaluating 60000 "") ∧
        (w.shutdown lateEndpoint).IsOver ∧
        ∀ c ∈ (w.shutdown lateEndpoint).supervisor.contexts, c.state = .stopped := by
  intro d
  let env : Environment := ⟨"east", {}, .ofSeconds 1⟩
  let v : Supervisor := {
    cluster := "east", env
    defaults := d
    loops := Kind.ordered.map (AlertLoop.fresh "east" d [] 0)
    nextReload := some (0 + Supervisor.reloadWait d) }
  have hstart : Supervisor.start "east" env {} d 0 = .ok v := rfl
  refine ⟨v, hstart, ?_⟩
  intro w
  obtain ⟨-, -, hover, hfinal⟩ := stop_is_final hstart [.pass lateEndpoint 60500 fun _ => none]
  have halive : ∀ l ∈ (w.shutdown lateEndpoint).supervisor.loops, l.phase ≠ .died := by
    decide +kernel
  refine ⟨?_, hover lateEndpoint, List.forall_mem_map.mpr fun l hl =>
    ((hfinal [w.stop.lastPass lateEndpoint] (hover lateEndpoint)).1 l hl).mpr (halive l hl)⟩
  let l : AlertLoop := { AlertLoop.fresh "east" d [] 0 (.leader .etcd) with
    phase := .evaluating 60000 "" }
  have hl : w.loopOf (.leader .etcd) = some l := by decide +kernel
  exact ⟨l, hl, rfl⟩

/-- What is seen of a cluster whose health check unwinds. -/
def runaway : Sight where
  gateway _ := Check.runawayCluster
  probe := lateEndpoint.probe

/-- A loop dies of a health check that unwinds, and its context is left running by a shutdown that
is over. -/
theorem shutdown_leaves_dead_running :
    let env : Environment := ⟨"east", { replicationFactor := 1 }, .ofSeconds 1⟩
    let d : Defaults := { reloadInterval := .ofSeconds 600 }
    ∃ v, Supervisor.start "east" env {} d 0 = .ok v ∧
      let w := Watch.after ⟨v, {}, 0⟩ [.pass runaway 60500 fun _ => none]
      (∀ l ∈ (w.shutdown runaway).supervisor.loops, l.isOver) ∧
        ∃ c ∈ (w.shutdown runaway).supervisor.contexts,
          c.kind = .clusterHealth ∧ c.state = .running := by
  intro env d
  let v : Supervisor := {
    cluster := "east", env
    defaults := d
    loops := Kind.ordered.map (AlertLoop.fresh "east" d [] 0)
    nextReload := some (0 + Supervisor.reloadWait d) }
  refine ⟨v, rfl, ?_, ?_⟩ <;> decide +kernel

end CopysetWatch.Alert
