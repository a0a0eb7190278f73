import CopysetWatch.Alert.Tick

/-!
# Alert loops

The loop of an alert kind waits, ticks, and waits again, until it is told to stop. How long it
waits is read from the settings when the wait begins; whether the kind is enabled and its rule are
read when a tick begins; all else is read when the evaluation is over. A signal ends a wait at
once, and a tick is finished first. An evaluation that panics ends the loop on the spot, without a
word to its context.
-/

namespace CopysetWatch.Alert

/-- What a loop is at. -/
inductive Phase where
  /-- It waits for a moment. -/
  | waiting (due : Nat)
  /-- It evaluates by a rule, since a moment. -/
  | evaluating (began : Nat) (rule : String)
  | ended
  /-- An evaluation panicked. -/
  | died
  deriving DecidableEq, Repr, Inhabited

/-- The loop of one alert kind. -/
structure AlertLoop where
  context : Context
  /-- The receiver of the stop signal. -/
  receiver : Receiver
  phase : Phase
  /-- Whether the signal came during a tick. -/
  stopping : Bool := false
  deriving DecidableEq, Repr, Inhabited

namespace AlertLoop

/-- The loop of a context that begins running at a moment, unless it runs already. -/
def begin? (c : Context) (now : Nat) : Option AlertLoop :=
  c.begin?.map fun (receiver, running) =>
    { context := running, receiver, phase := .waiting (now + running.settings.wait) }

/-- The loop after its running period. -/
def finish (l : AlertLoop) : AlertLoop :=
  { l with context := l.context.markStopped, phase := .ended }

/-- The loop at the end of a tick that leaves a context behind. -/
def resume (l : AlertLoop) (c : Context) (now : Nat) : AlertLoop :=
  if l.stopping then finish { l with context := c }
  else { l with context := c, phase := .waiting (now + c.settings.wait) }

/-- The loop after an evaluation that panicked. Nobody tells its context that it runs no more. -/
def die (l : AlertLoop) : AlertLoop :=
  { l with phase := .died }

/-- Whether nothing more comes of a loop. -/
def isOver (l : AlertLoop) : Bool :=
  l.phase == .ended || l.phase == .died

/-- Whether the loop still listens to a receiver. -/
def listens (l : AlertLoop) (r : Receiver) : Bool :=
  !l.isOver && r == l.receiver

/-- Signals the loop to stop, and says whether the signal reached it. -/
def stop (l : AlertLoop) : Bool × AlertLoop :=
  match l.context.stop l.listens with
  | (none, c) => (false, { l with context := c })
  | (some _, c) =>
    match l.phase with
    | .evaluating .. => (true, { l with context := c, stopping := true })
    | _ => (true, finish { l with context := c })

/-- Gives the loop other settings. -/
def apply (l : AlertLoop) (s : Settings) : AlertLoop :=
  { l with context := l.context.apply s }

/-- The moment at which the evaluation that is under way will be over. -/
def evaluationEnd? (env : Environment) (sight : Sight) (l : AlertLoop) : Option Nat :=
  match l.phase with
  | .evaluating began rule =>
    some (began + (l.context.kind.evaluate env sight rule began).elapsed)
  | _ => none

/-- An upper bound for how often the loop can still change its phase up to a moment. -/
def stepsUntil (l : AlertLoop) (target : Nat) : Nat :=
  match l.phase with
  | .waiting due => 2 * (target + 1 - due)
  | .evaluating began _ => 2 * (target + 1 - began) - 1
  | .ended | .died => 0

/-- The loop at the next moment it acts, up to a target, with what it did then. -/
def step? (env : Environment) (sight : Sight) (accepts : Bool) (target : Nat)
    (l : AlertLoop) : Option (AlertLoop × List Deed) :=
  match l.phase with
  | .ended | .died => none
  | .waiting due =>
    if due ≤ target then
      if l.context.settings.enabled then
        some ({ l with phase := .evaluating due l.context.settings.rule }, [])
      else some (l.resume l.context due, [.idle l.context due])
    else none
  | .evaluating began rule =>
    let e := l.context.kind.evaluate env sight rule began
    if began + e.elapsed ≤ target then
      match e.finding.returned? with
      | none => some (l.die, [])
      | some finding =>
        some (l.resume (l.context.conclude accepts finding).2.2 (began + e.elapsed),
          [.ofEvaluation env l.context accepts began e finding])
    else none

theorem stepsUntil_resume_le (l : AlertLoop) (c : Context) (now target : Nat) :
    (l.resume c now).stepsUntil target ≤ 2 * (target + 1 - (now + 1)) := by
  have hwait : 1 ≤ c.settings.wait := Nat.le_max_left ..
  unfold resume
  split
  · simp [finish, stepsUntil]
  · simp only [stepsUntil]
    omega

theorem stepsUntil_step?_lt {env : Environment} {sight : Sight} {accepts : Bool}
    {target : Nat} {l after : AlertLoop} {deeds : List Deed}
    (h : l.step? env sight accepts target = some (after, deeds)) :
    after.stepsUntil target < l.stepsUntil target := by
  unfold step? at h
  split at h
  · cases h
  · cases h
  case h_3 due hphase =>
    split at h
    case isFalse => cases h
    case isTrue hdue =>
      split at h <;> obtain ⟨rfl, rfl⟩ := Prod.mk.inj (Option.some.inj h)
      · simp only [stepsUntil, hphase]
        omega
      · have := stepsUntil_resume_le l l.context due target
        simp only [stepsUntil, hphase] at *
        omega
  case h_4 began rule hphase =>
    dsimp only at h
    have hsteps : l.stepsUntil target = 2 * (target + 1 - began) - 1 := by
      simp [stepsUntil, hphase]
    split at h
    case isFalse => cases h
    case isTrue hend =>
      split at h <;> obtain ⟨rfl, rfl⟩ := Prod.mk.inj (Option.some.inj h)
      · have hdied : l.die.stepsUntil target = 0 := rfl
        omega
      case h_2 finding _ =>
        have := stepsUntil_resume_le l (l.context.conclude accepts finding).2.2
          (began + (l.context.kind.evaluate env sight rule began).elapsed) target
        omega

/-- The loop at a target moment, with everything it did on the way. -/
def runUntil (env : Environment) (sight : Sight) (accepts : Bool) (target : Nat)
    (l : AlertLoop) : AlertLoop × List Deed :=
  match _h : l.step? env sight accepts target with
  | none => (l, [])
  | some (after, deeds) =>
    let later := runUntil env sight accepts target after
    (later.1, deeds ++ later.2)
  termination_by l.stepsUntil target
  decreasing_by exact stepsUntil_step?_lt _h

/-- The loop before a moment, with everything it did earlier. -/
def runBefore (env : Environment) (sight : Sight) (accepts : Bool) (moment : Nat)
    (l : AlertLoop) : AlertLoop × List Deed :=
  match moment with
  | 0 => (l, [])
  | last + 1 => l.runUntil env sight accepts last

/-- The loop after so many more steps up to a target, or as many as there are. -/
def runSteps (env : Environment) (sight : Sight) (accepts : Bool) (target : Nat) :
    Nat → AlertLoop → AlertLoop × List Deed
  | 0, l => (l, [])
  | count + 1, l =>
    match l.step? env sight accepts target with
    | none => (l, [])
    | some (after, deeds) =>
      let later := runSteps env sight accepts target count after
      (later.1, deeds ++ later.2)

/-- The loop at a target moment when something else comes between its steps of that very moment:
everything earlier is done, and of the steps at the moment itself only so many, if any number is
given. -/
def runCut (env : Environment) (sight : Sight) (accepts : Bool) (target : Nat)
    (cut : Option Nat) (l : AlertLoop) : AlertLoop × List Deed :=
  match cut with
  | none => l.runUntil env sight accepts target
  | some count =>
    let before := l.runBefore env sight accepts target
    let later := runSteps env sight accepts target count before.1
    (later.1, before.2 ++ later.2)

end AlertLoop

end CopysetWatch.Alert
