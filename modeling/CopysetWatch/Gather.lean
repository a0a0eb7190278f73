import CopysetWatch.Fault
import CopysetWatch.Duration
import CopysetWatch.Outcome
import CopysetWatch.StableSort

/-!
# Asking many targets at once

The same question goes to every target at the same moment. A target that answers no later than
the timeout is heard, a later one counts as timed out, and a query that panics on the way counts
as an internal fault; none of them keeps the others from being heard. The answers are listed in
the order in which they arrive, and answers that arrive together in the order of asking.

Delays are as the asker's clock has them. A clock need not tell all moments apart: what lies
behind its horizon arrives with everything else that does.
-/

namespace CopysetWatch

/-- How a query ends. -/
abbrev Ending (α : Type) : Type :=
  Outcome Fault α

/-- The result of a query that somebody hears out, who catches a panic. -/
def Ending.result {α : Type} : Ending α → Except Fault α
  | .value a => .ok a
  | .fault f => .error f
  | .panic => .error (.internal "query task panicked")

/-- What becomes of a query: how it ends and how many milliseconds later. -/
structure Reply (α : Type) where
  delay : Nat
  ending : Ending α
  deriving Repr, Inhabited

/-- The reply of a target that answers at once. -/
def Reply.now {α : Type} (result : Except Fault α) : Reply α :=
  ⟨0, .ofExcept result⟩

/-- A clock that tells moments apart up to so many milliseconds ahead. -/
structure Clock where
  horizon : Nat
  deriving DecidableEq, Repr

namespace Clock

/-- A clock of thirty years of 365 days. -/
def ofThirtyYears : Clock where
  horizon := 30 * 365 * 24 * 60 * 60 * 1000

instance : Inhabited Clock := ⟨ofThirtyYears⟩

/-- How many milliseconds a wait of a given length takes. -/
def wait (clock : Clock) (millis : Nat) : Nat :=
  min millis clock.horizon

/-- Whether a clock tells everything within a timeout from everything after it. -/
def Covers (clock : Clock) (timeout : Duration) : Prop :=
  timeout.millis < clock.horizon

instance (clock : Clock) (timeout : Duration) : Decidable (clock.Covers timeout) :=
  inferInstanceAs (Decidable (_ < _))

end Clock

/-- A reply as a clock has it. -/
def Reply.on {α : Type} (clock : Clock) (reply : Reply α) : Reply α :=
  { reply with delay := clock.wait reply.delay }

/-- What was heard of one target, and how many milliseconds after the question. -/
structure Arrival (κ α : Type) where
  after : Nat
  target : κ
  result : Except Fault α

namespace Gather

/-- What is heard of a target within the timeout. -/
def arrival {κ α : Type} (timeout : Duration) (query : κ → Reply α) (target : κ) : Arrival κ α :=
  let reply := query target
  if reply.delay ≤ timeout.millis then ⟨reply.delay, target, reply.ending.result⟩
  else ⟨timeout.millis, target, .error (.timeout (.ofNat timeout.millis))⟩

/-- What is heard of every target, in the order of arrival. -/
def arrivals {κ α : Type} (timeout : Duration) (query : κ → Reply α) (targets : List κ) :
    List (Arrival κ α) :=
  stableSort (fun a b => decide (a.after ≤ b.after)) (targets.map (arrival timeout query))

/-- How many milliseconds pass until every target was heard. -/
def elapsed {κ α : Type} (heard : List (Arrival κ α)) : Nat :=
  heard.foldl (fun latest a => max latest a.after) 0

/-- All answers with their targets if there is no fault, and otherwise the first fault. -/
def firstError {κ α : Type} : List (Arrival κ α) → Except Fault (List (κ × α))
  | [] => .ok []
  | a :: rest =>
    match a.result with
    | .error f => .error f
    | .ok value => (firstError rest).map ((a.target, value) :: ·)

end Gather

end CopysetWatch
