import CopysetWatch.Alert.Loop

/-!
# Supervisor

The supervisor owns one loop for each alert kind of a cluster and reloads their settings from the
store, now and then by itself and otherwise when it is told to. Between two reloads the loops have
nothing in common but the places that they write to, so each of them runs on its own.
-/

namespace CopysetWatch.Alert

/-- The loops of one cluster. -/
structure Supervisor where
  cluster : String
  env : Environment
  defaults : Defaults
  /-- One loop for each kind, in the order of the kinds. -/
  loops : List AlertLoop
  /-- The moment of the next reload, as long as there is one. -/
  nextReload : Option Nat
  deriving DecidableEq, Repr, Inhabited

namespace Supervisor

/-- The context of a kind before anything happened to it. -/
def freshContext (cluster : String) (d : Defaults) (stored : List SettingsRecord) (kind : Kind) :
    Context :=
  { cluster, kind, settings := .inForce d stored kind }

/-- How many milliseconds pass between two reloads. The clock rounds a shorter wait up to one; an
interval of zero is none that validation lets through. -/
def reloadWait (d : Defaults) : Nat :=
  max 1 d.reloadInterval.millis

/-- The supervisor that begins at a moment, unless the settings cannot be loaded. -/
def start (cluster : String) (env : Environment) (store : Store) (d : Defaults) (now : Nat) :
    Except Fault Supervisor :=
  match store.load cluster with
  | .error f => .error f
  | .ok stored =>
    .ok {
      cluster, env
      defaults := d
      loops := Kind.ordered.filterMap fun kind =>
        AlertLoop.begin? (freshContext cluster d stored kind) now
      nextReload := some (now + reloadWait d) }

/-- Gives every loop the settings that are stored for it. -/
def applyStored (s : Supervisor) (stored : List SettingsRecord) : Supervisor :=
  { s with loops := s.loops.map fun l => l.apply (.inForce s.defaults stored l.context.kind) }

/-- Reloads the settings; when they cannot be loaded, all of them stay as they are. -/
def reload (s : Supervisor) (store : Store) : Except Fault Supervisor :=
  (store.load s.cluster).map s.applyStored

/-- The reload that a supervisor makes by itself at a moment; a failed one is tried again at the
next time like any other. -/
def reloadAt (s : Supervisor) (store : Store) (now : Nat) : Supervisor :=
  { (s.reload store).toOption.getD s with nextReload := some (now + reloadWait s.defaults) }

/-- Signals the loop of a kind to stop, and says whether the signal reached it. -/
def stopKind (s : Supervisor) (kind : Kind) : Bool × Supervisor :=
  (s.loops.any fun l => l.context.kind == kind && l.stop.1,
    { s with loops := s.loops.map fun l => if l.context.kind == kind then l.stop.2 else l })

/-- Signals everything to stop. -/
def stop (s : Supervisor) : Supervisor :=
  { s with loops := s.loops.map fun l => l.stop.2, nextReload := none }

/-- The latest moment at which an evaluation that is under way will be over. -/
def lastEvaluationEnd (s : Supervisor) (sight : Sight) (now : Nat) : Nat :=
  (s.loops.filterMap (AlertLoop.evaluationEnd? s.env sight)).foldl max now

/-- Runs every loop up to a moment, with what each of them did on the way. The loop of a kind may
be cut short at the moment itself. -/
def runLoops (s : Supervisor) (sight : Sight) (accepts : Bool) (target : Nat)
    (cut : Kind → Option Nat) : Supervisor × List (List Deed) :=
  let ran := s.loops.map fun l => l.runCut s.env sight accepts target (cut l.context.kind)
  ({ s with loops := ran.map Prod.fst }, ran.map Prod.snd)

/-- The contexts of all kinds, in order. -/
def contexts (s : Supervisor) : List Context :=
  s.loops.map AlertLoop.context

/-- The counters that are not zero, in the order of their kinds. -/
def counters (s : Supervisor) : List (Kind × UInt32) :=
  (s.contexts.filter (·.counter != 0)).map fun c => (c.kind, c.counter)

end Supervisor

end CopysetWatch.Alert
