import CopysetWatch.Gather

/-!
# Inquiries

An inquiry is a course of questions that takes time: what is asked later is asked at a later
moment, and may be answered from a situation that has changed. It ends with a result, or with the
first fault that stops it, or in the panic of a question that nobody else hears out, so many
milliseconds after it began. A moment is the number of milliseconds since the beginning of time.
-/

namespace CopysetWatch

/-- A course of questions: from the moment at which it begins to how it ends and the milliseconds
it takes. -/
def Inquiry (α : Type) : Type :=
  Nat → Ending α × Nat

namespace Inquiry

/-- The ending of an inquiry that begins at a moment. -/
def run {α : Type} (inquiry : Inquiry α) (start : Nat) : Ending α × Nat :=
  inquiry start

/-- An inquiry that is over at once. -/
protected def pure {α : Type} (a : α) : Inquiry α :=
  fun _ => (.value a, 0)

/-- One inquiry after another, unless the first one fails or panics. -/
protected def bind {α β : Type} (first : Inquiry α) (next : α → Inquiry β) : Inquiry β :=
  fun start =>
    match first start with
    | (.value a, taken) =>
      match next a (start + taken) with
      | (ending, more) => (ending, taken + more)
    | (.fault f, taken) => (.fault f, taken)
    | (.panic, taken) => (.panic, taken)

instance : Monad Inquiry where
  pure := Inquiry.pure
  bind := Inquiry.bind

/-- An ending that is there at once. -/
def ofEnding {α : Type} (ending : Ending α) : Inquiry α :=
  fun _ => (ending, 0)

/-- A result that is there at once. -/
def ofExcept {α : Type} (result : Except Fault α) : Inquiry α :=
  ofEnding (.ofExcept result)

/-- One question, however long its answer takes. Its panic is the asker's. -/
def ask {α : Type} (reply : Nat → Reply α) : Inquiry α :=
  fun start => ((reply start).ending, (reply start).delay)

/-- The same question to many targets, until all of them were heard. -/
def gather {κ α : Type} (timeout : Duration) (query : Nat → κ → Reply α) (targets : List κ) :
    Inquiry (List (Arrival κ α)) :=
  fun start =>
    let heard := Gather.arrivals timeout (query start) targets
    (.value heard, Gather.elapsed heard)

/-- The same question to many targets, all of which have to answer. -/
def gatherAll {κ α : Type} (timeout : Duration) (query : Nat → κ → Reply α)
    (targets : List κ) : Inquiry (List (κ × α)) := do
  let heard ← gather timeout query targets
  ofExcept (Gather.firstError heard)

end Inquiry

end CopysetWatch
