import CopysetWatch.Alert.Settings

/-!
# Alert contexts

The live state of one alert kind: its settings, the count of problems since the last emission,
and whether its loop is running. A running period begins by handing out a receiver, and the
context keeps the handle that signals it. The handle is used up by the first stop and dropped
at the end of the period, so a signal never reaches a later period.
-/

namespace CopysetWatch.Alert

/-- Whether a loop is running. -/
inductive LoopState where
  | stopped
  | running
  deriving DecidableEq, Repr, Inhabited

/-- The name of a loop state. -/
def LoopState.name : LoopState → String
  | .stopped => "stopped"
  | .running => "running"

/-- The receiving end of the stop signal of one running period, told apart by the number of the
period. -/
structure Receiver where
  period : Nat
  deriving DecidableEq, Repr, Inhabited

/-- The live state of one alert kind. -/
structure Context where
  cluster : String
  kind : Kind
  settings : Settings
  /-- The problems counted since the last emission. -/
  counter : UInt32 := 0
  state : LoopState := .stopped
  /-- The receiver that a stop would signal. -/
  handle : Option Receiver := none
  /-- The number of running periods that have begun. -/
  periods : Nat := 0
  deriving DecidableEq, Repr, Inhabited

namespace Context

/-- Replaces the settings and keeps the counter. -/
def apply (c : Context) (settings : Settings) : Context :=
  { c with settings }

/-- Counts one more problem; the largest count of 32 bits stays as it is. -/
def increment (c : Context) : Context :=
  { c with counter :=
      if c.counter = UInt32.ofNat (UInt32.size - 1) then c.counter else c.counter + 1 }

/-- Forgets the problems counted so far. -/
def reset (c : Context) : Context :=
  { c with counter := 0 }

/-- Begins a running period and hands out its receiver, unless one is running. -/
def begin? (c : Context) : Option (Receiver × Context) :=
  match c.state with
  | .running => none
  | .stopped =>
    let receiver : Receiver := ⟨c.periods⟩
    some (receiver,
      { c with state := .running, handle := some receiver, periods := c.periods + 1 })

/-- Uses up the handle, and gives the receiver that the signal reached, if one still listens. -/
def stop (c : Context) (listens : Receiver → Bool) : Option Receiver × Context :=
  (c.handle.filter listens, { c with handle := none })

/-- Ends the running period. -/
def markStopped (c : Context) : Context :=
  { c with state := .stopped, handle := none }

end Context

end CopysetWatch.Alert
