import CopysetWatch.Alert.Context
import CopysetWatch.Alert.Evaluation
import CopysetWatch.Alert.Store
import CopysetWatch.Metrics

/-!
# Ticks

A tick is one evaluation of an alert kind and what follows from it. A problem is counted, and
when the count reaches the trigger count an alert is emitted. Only an emission that is accepted
resets the count; a healthy or undecided evaluation leaves it alone. A tick whose evaluation panics
does nothing at all.
-/

namespace CopysetWatch.Alert

/-- What a tick did. -/
inductive TickOutcome where
  /-- The kind is disabled and nothing was evaluated. -/
  | disabled
  | healthy
  /-- The evaluation did not decide. -/
  | inconclusive
  /-- A problem was counted, and the trigger count is not reached yet. -/
  | pending (count triggerTimes : UInt32)
  | emitted
  /-- The trigger count was reached and the alert was not accepted. -/
  | emitFailed
  deriving DecidableEq, Repr, Inhabited

/-- What one tick did, and when. -/
structure Deed where
  cluster : String
  kind : Kind
  /-- The moment at which the tick began. -/
  began : Nat
  /-- The moment at which the tick was over. -/
  ended : Nat
  outcome : TickOutcome
  /-- The alert that the store was asked to take. -/
  offer : Option Emission := none
  /-- The alert that the store took. -/
  emission : Option Emission := none
  /-- The health check that was made, with the cluster it is counted under. -/
  check : Option (String × Except Fault Registry) := none

namespace Context

/-- What follows from a finding: the outcome, the alert that the store is asked to take, and the
context afterwards, where the store says whether it accepts. -/
def conclude (c : Context) (accepts : Bool) :
    Except Fault (Option String) → TickOutcome × Option Emission × Context
  | .error _ => (.inconclusive, none, c)
  | .ok none => (.healthy, none, c)
  | .ok (some message) =>
    let counted := c.increment
    if counted.counter < counted.settings.triggerTimes then
      (.pending counted.counter counted.settings.triggerTimes, none, counted)
    else if accepts then (.emitted, some (.of c.cluster c.kind message), counted.reset)
    else (.emitFailed, some (.of c.cluster c.kind message), counted)

end Context

namespace Deed

/-- The deed of a tick that found its kind disabled. -/
def idle (c : Context) (moment : Nat) : Deed where
  cluster := c.cluster
  kind := c.kind
  began := moment
  ended := moment
  outcome := .disabled

/-- The deed of a tick whose evaluation is over and came to a finding. -/
def ofEvaluation (env : Environment) (c : Context) (accepts : Bool) (began : Nat)
    (e : Evaluation) (finding : Except Fault (Option String)) : Deed where
  cluster := c.cluster
  kind := c.kind
  began := began
  ended := began + e.elapsed
  outcome := (c.conclude accepts finding).1
  offer := (c.conclude accepts finding).2.1
  emission := (c.conclude accepts finding).2.1.filter fun _ => accepts
  check := e.check.map fun result => (env.cluster, result)

/-- Keeps the alert of a deed. -/
def store (d : Deed) (s : Store) : Store :=
  match d.emission with
  | some e => s.add e
  | none => s

/-- Publishes the health check of a deed. -/
def recordCheck (d : Deed) (m : Metrics) : Metrics :=
  match d.check with
  | some (cluster, result) => m.recordCheck cluster result
  | none => m

/-- Publishes the outcome of a deed. -/
def recordOutcome (d : Deed) (m : Metrics) : Metrics :=
  match d.outcome with
  | .inconclusive => m.count (.evaluationsFailed d.cluster d.kind)
  | .emitted => m.count (.alertsEmitted d.cluster d.kind)
  | _ => m

/-- Publishes what a deed is counted for. -/
def record (d : Deed) (m : Metrics) : Metrics :=
  d.recordOutcome (d.recordCheck m)

end Deed

end CopysetWatch.Alert
