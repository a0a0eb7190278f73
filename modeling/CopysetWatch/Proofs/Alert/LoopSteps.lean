import CopysetWatch.Proofs.Alert.Ledger

/-!
# Steps of a loop

A loop acts at one moment after the other: it begins a tick, passes over one, finishes one, or dies
of one. `Steps` lists these cases and `Ran` strings them together, so what each of them keeps holds
of a loop however long it runs and wherever it is cut short. So a loop keeps its kind and does
nothing under another one.
-/

namespace CopysetWatch.Alert

/-- A deed is that of a kind, and so is its alert if it emitted one. -/
def Deed.IsOf (d : Deed) (kind : Kind) : Prop :=
  d.kind = kind ∧ ∀ e, d.emission = some e → e.kind = kind

/-- What an evaluation that is over emits was offered to the store. -/
theorem Deed.offer_of_emission_ofEvaluation {env : Environment} {c : Context} {accepts : Bool}
    {began : Nat} {e : Evaluation} {finding : Except Fault (Option String)} {alert : Emission}
    (h : (ofEvaluation env c accepts began e finding).emission = some alert) :
    (c.conclude accepts finding).2.1 = some alert :=
  (Option.filter_eq_some_iff.mp h).1

/-- An alert that follows from a finding is of the kind of its context. -/
theorem Context.Concludes.kind_offer {c : Context} {accepts : Bool}
    {finding : Except Fault (Option String)} {result : TickOutcome × Option Emission × Context}
    (h : c.Concludes accepts finding result) (e : Emission) (he : result.2.1 = some e) :
    e.kind = c.kind := by
  cases h <;> cases he <;> rfl

namespace AlertLoop

/-- Everything that a loop can do next, and what it has done then. -/
inductive Steps (env : Environment) (sight : Sight) (accepts : Bool) (target : Nat)
    (l : AlertLoop) : AlertLoop → List Deed → Prop where
  /-- The wait is over and a tick begins. -/
  | begins {due : Nat} (hphase : l.phase = .waiting due) (hdue : due ≤ target)
      (henabled : l.context.settings.enabled) :
      Steps env sight accepts target l
        { l with phase := .evaluating due l.context.settings.rule } []
  /-- The wait is over and the kind is disabled. -/
  | idles {due : Nat} (hphase : l.phase = .waiting due) (hdue : due ≤ target)
      (hdisabled : ¬l.context.settings.enabled) :
      Steps env sight accepts target l (l.resume l.context due) [.idle l.context due]
  /-- The tick is over. -/
  | settles {began : Nat} {rule : String} {finding : Except Fault (Option String)}
      (hphase : l.phase = .evaluating began rule)
      (hend : began + (l.context.kind.evaluate env sight rule began).elapsed ≤ target)
      (hfinding : (l.context.kind.evaluate env sight rule began).finding.returned? =
        some finding) :
      Steps env sight accepts target l
        (l.resume (l.context.conclude accepts finding).2.2
          (began + (l.context.kind.evaluate env sight rule began).elapsed))
        [.ofEvaluation env l.context accepts began (l.context.kind.evaluate env sight rule began)
          finding]
  /-- The evaluation panicked. -/
  | dies {began : Nat} {rule : String} (hphase : l.phase = .evaluating began rule)
      (hend : began + (l.context.kind.evaluate env sight rule began).elapsed ≤ target)
      (hpanic : (l.context.kind.evaluate env sight rule began).finding.returned? = none) :
      Steps env sight accepts target l l.die []

/-- What a loop can come to in some steps up to a moment, with everything that it does. -/
inductive Ran (env : Environment) (sight : Sight) (accepts : Bool) (target : Nat) :
    AlertLoop → AlertLoop → List Deed → Prop where
  | nil (l : AlertLoop) : Ran env sight accepts target l l []
  | cons {l next last : AlertLoop} {deeds later : List Deed}
      (hstep : l.Steps env sight accepts target next deeds)
      (hrest : Ran env sight accepts target next last later) :
      Ran env sight accepts target l last (deeds ++ later)

section

variable {env : Environment} {sight : Sight} {accepts : Bool} {target : Nat}
  {l next last : AlertLoop} {deeds later : List Deed}

theorem steps_of_step? (h : l.step? env sight accepts target = some (next, deeds)) :
    l.Steps env sight accepts target next deeds := by
  unfold step? at h
  split at h
  case h_1 => cases h
  case h_2 => cases h
  case h_3 due hphase =>
    split at h
    case isFalse => cases h
    case isTrue hdue =>
      split at h
      case isTrue henabled =>
        cases h
        exact .begins hphase hdue henabled
      case isFalse hdisabled =>
        cases h
        exact .idles hphase hdue hdisabled
  case h_4 began rule hphase =>
    dsimp only at h
    split at h
    case isFalse => cases h
    case isTrue hend =>
      split at h
      case h_1 hpanic =>
        cases h
        exact .dies hphase hend hpanic
      case h_2 finding hfinding =>
        cases h
        exact .settles hphase hend hfinding

/-- What a loop can do up to a moment it can do up to a later one. -/
theorem Steps.mono (h : l.Steps env sight accepts target next deeds) {further : Nat}
    (hle : target ≤ further) : l.Steps env sight accepts further next deeds := by
  cases h with
  | begins hphase hdue henabled => exact .begins hphase (hdue.trans hle) henabled
  | idles hphase hdue hdisabled => exact .idles hphase (hdue.trans hle) hdisabled
  | settles hphase hend hfinding => exact .settles hphase (hend.trans hle) hfinding
  | dies hphase hend hpanic => exact .dies hphase (hend.trans hle) hpanic

theorem Ran.mono (h : Ran env sight accepts target l last deeds) {further : Nat}
    (hle : target ≤ further) : Ran env sight accepts further l last deeds := by
  induction h with
  | nil l => exact .nil l
  | cons hstep _ ih => exact .cons (hstep.mono hle) ih

theorem Ran.trans (h : Ran env sight accepts target l next deeds)
    (h' : Ran env sight accepts target next last later) :
    Ran env sight accepts target l last (deeds ++ later) := by
  induction h with
  | nil l => exact h'
  | cons hstep _ ih =>
    rw [List.append_assoc]
    exact .cons hstep (ih h')

theorem runUntil_of_none (h : l.step? env sight accepts target = none) :
    l.runUntil env sight accepts target = (l, []) := by
  rw [runUntil]
  split
  · rfl
  case h_2 hsome => rw [h] at hsome; cases hsome

theorem runUntil_of_some (h : l.step? env sight accepts target = some (next, deeds)) :
    l.runUntil env sight accepts target =
      ((next.runUntil env sight accepts target).1,
        deeds ++ (next.runUntil env sight accepts target).2) := by
  rw [runUntil]
  split
  case h_1 hnone => rw [h] at hnone; cases hnone
  case h_2 next' deeds' hsome =>
    obtain ⟨rfl, rfl⟩ := Prod.mk.inj (Option.some.inj (h.symm.trans hsome))
    rfl

theorem ran_runUntil (env : Environment) (sight : Sight) (accepts : Bool) (target : Nat)
    (l : AlertLoop) : Ran env sight accepts target l (l.runUntil env sight accepts target).1
      (l.runUntil env sight accepts target).2 := by
  induction l using runUntil.induct env sight accepts target with
  | case1 l hnone =>
    rw [runUntil_of_none hnone]
    exact .nil l
  | case2 l next deeds hsome ih =>
    rw [runUntil_of_some hsome]
    exact .cons (steps_of_step? hsome) ih

theorem ran_runBefore (env : Environment) (sight : Sight) (accepts : Bool) (moment : Nat)
    (l : AlertLoop) : Ran env sight accepts (moment - 1) l
      (l.runBefore env sight accepts moment).1 (l.runBefore env sight accepts moment).2 := by
  cases moment with
  | zero => exact .nil l
  | succ last => exact ran_runUntil env sight accepts last l

theorem ran_runSteps (env : Environment) (sight : Sight) (accepts : Bool) (target count : Nat)
    (l : AlertLoop) : Ran env sight accepts target l
      (l.runSteps env sight accepts target count).1
      (l.runSteps env sight accepts target count).2 := by
  induction count generalizing l with
  | zero => exact .nil l
  | succ count ih =>
    rw [runSteps]
    cases hstep : l.step? env sight accepts target with
    | none => exact .nil l
    | some step => exact .cons (steps_of_step? hstep) (ih step.1)

/-- Wherever it is cut short, a loop makes one step after the other. -/
theorem ran_runCut (env : Environment) (sight : Sight) (accepts : Bool) (target : Nat)
    (cut : Option Nat) (l : AlertLoop) : Ran env sight accepts target l
      (l.runCut env sight accepts target cut).1 (l.runCut env sight accepts target cut).2 := by
  cases cut with
  | none => exact ran_runUntil env sight accepts target l
  | some count =>
    exact ((ran_runBefore env sight accepts target l).mono (Nat.sub_le target 1)).trans
      (ran_runSteps env sight accepts target count _)

/-- What each step keeps holds of a loop however long it runs, and what holds of the deeds of each
step holds of all its deeds. -/
theorem Ran.induction (Inv : AlertLoop → Prop) (Fits : Deed → Prop)
    (hstep : ∀ l next deeds, Inv l → l.Steps env sight accepts target next deeds →
      Inv next ∧ ∀ d ∈ deeds, Fits d) (h : Ran env sight accepts target l last deeds)
    (hl : Inv l) : Inv last ∧ ∀ d ∈ deeds, Fits d := by
  induction h with
  | nil l => exact ⟨hl, by simp⟩
  | cons hsteps _ ih =>
    obtain ⟨hnext, hdeeds⟩ := hstep _ _ _ hl hsteps
    obtain ⟨hlast, hlater⟩ := ih hnext
    exact ⟨hlast, fun d hd => (List.mem_append.mp hd).elim (hdeeds d) (hlater d)⟩

/-- What each step keeps holds of a loop however long it runs. -/
theorem Ran.keeps (Inv : AlertLoop → Prop) (h : Ran env sight accepts target l last deeds)
    (hl : Inv l)
    (hstep : ∀ l next deeds, Inv l → l.Steps env sight accepts target next deeds → Inv next) :
    Inv last :=
  (h.induction Inv (fun _ => True) (fun _ _ _ hl hsteps =>
    ⟨hstep _ _ _ hl hsteps, fun _ _ => trivial⟩) hl).1

/-! ### The kind of a loop -/

theorem kind_resume (l : AlertLoop) (c : Context) (now : Nat) :
    (l.resume c now).context.kind = c.kind := by
  unfold resume
  split <;> rfl

theorem kind_stop (l : AlertLoop) : l.stop.2.context.kind = l.context.kind := by
  unfold stop Context.stop
  cases l.context.handle.filter l.listens with
  | none => rfl
  | some r => cases l.phase <;> rfl

/-- A loop keeps its kind with each step, and what it does is of this kind. -/
theorem Steps.isOf (h : l.Steps env sight accepts target next deeds) :
    next.context.kind = l.context.kind ∧ ∀ d ∈ deeds, d.IsOf l.context.kind := by
  cases h with
  | begins => exact ⟨rfl, by simp⟩
  | idles =>
    refine ⟨kind_resume .., ?_⟩
    simp [Deed.IsOf, Deed.idle]
  | @settles began rule finding =>
    have hconcludes := l.context.concludes accepts finding
    refine ⟨(kind_resume ..).trans hconcludes.same.2.1, ?_⟩
    simp only [List.mem_singleton, forall_eq]
    exact ⟨rfl, fun e he => hconcludes.kind_offer e (Deed.offer_of_emission_ofEvaluation he)⟩
  | dies => exact ⟨rfl, by simp⟩

/-- A loop keeps its kind however long it runs, and everything that it does is of this kind. -/
theorem Ran.isOf (h : Ran env sight accepts target l last deeds) :
    last.context.kind = l.context.kind ∧ ∀ d ∈ deeds, d.IsOf l.context.kind := by
  refine h.induction (fun other => other.context.kind = l.context.kind)
    (·.IsOf l.context.kind) ?_ rfl
  intro other next deeds hkind hsteps
  obtain ⟨hnext, hdeeds⟩ := hsteps.isOf
  rw [hkind] at hnext hdeeds
  exact ⟨hnext, hdeeds⟩

end

end AlertLoop

end CopysetWatch.Alert
