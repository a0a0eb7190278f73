import CopysetWatch.Alert.Supervisor
import CopysetWatch.Simulation.ClusterView
import CopysetWatch.Simulation.ServiceView

/-!
# Simulations

A described cluster, its services, a store, the alerting over them, and a clock that moves only
while something waits. A supervisor acts by itself as the clock moves; everything else is done by
the one who runs the simulation, who sees the cluster as it is described at the time and waits
for the answers.

Where a reload by the supervisor and a step of one of its loops fall on the same moment, either may
come first; how such ties fall out belongs to the simulation.
-/

namespace CopysetWatch

open Alert

/-- The state of a simulation. -/
structure Simulation where
  /-- The parts of the monitor that is simulated. -/
  env : Environment
  clock : Clock := .ofThirtyYears
  /-- How many steps the loop of a kind makes at a moment before the reload of that moment, unless
  it makes all of them. -/
  ties : Nat → Kind → Option Nat := fun _ _ => none
  now : Nat := 0
  cluster : Timeline ClusterView := ⟨default, []⟩
  services : Timeline ServiceView := ⟨default, []⟩
  store : Store := {}
  metrics : Metrics := {}
  /-- The alert context that is ticked by hand. -/
  context : Option Context := none
  /-- The supervisor that was started last. -/
  supervisor : Option Supervisor := none
  /-- Earlier supervisors, whose last ticks may still be under way. -/
  retired : List Supervisor := []

namespace Simulation

/-- What the loops see, moment by moment. -/
def sight (s : Simulation) : Sight where
  gateway := ClusterView.gateway s.clock s.cluster.valueAt
  probe := ServiceView.probe s.clock s.services.valueAt

/-- What the one who runs the simulation sees, who changes nothing while waiting. -/
def present (s : Simulation) : Sight where
  gateway := ClusterView.gateway s.clock fun _ => s.cluster.current
  probe := ServiceView.probe s.clock fun _ => s.services.current

/-- Describes the cluster differently from now on. -/
def editCluster (s : Simulation) (edit : ClusterView → ClusterView) : Simulation :=
  { s with cluster := s.cluster.change s.now edit }

/-- Describes the services differently from now on. -/
def editServices (s : Simulation) (edit : ServiceView → ServiceView) : Simulation :=
  { s with services := s.services.change s.now edit }

/-- Changes the store. -/
def editStore (s : Simulation) (edit : Store → Store) : Simulation :=
  { s with store := edit s.store }

/-- Changes the context that is ticked by hand. -/
def editContext (s : Simulation) (edit : Context → Context) : Simulation :=
  { s with context := s.context.map edit }

/-- Stores and publishes what a tick did. -/
def absorb (s : Simulation) (d : Deed) : Simulation :=
  { s with store := d.store s.store, metrics := d.record s.metrics }

/-- What several loops did, each in its order, in the order in which it was over. -/
def inOrder (deeds : List (List Deed)) : List Deed :=
  deeds.foldr (fun one others => one.merge others fun a b => decide (a.ended ≤ b.ended)) []

/-- Stores and publishes what several loops did. -/
def absorbAll (s : Simulation) (deeds : List (List Deed)) : Simulation :=
  (inOrder deeds).foldl absorb s

/-- Runs every loop up to a moment, at which they may be cut short. -/
def runTo (s : Simulation) (target : Nat) (cut : Kind → Option Nat) : Simulation :=
  let ran := s.supervisor.map fun v => v.runLoops s.sight s.store.accepts target cut
  let drained := s.retired.map fun v => v.runLoops s.sight s.store.accepts target cut
  absorbAll
    { s with
      now := max s.now target
      supervisor := ran.map Prod.fst
      retired := drained.map Prod.fst }
    ((ran.map Prod.snd).getD [] ++ drained.flatMap Prod.snd)

/-- Lets the supervisor reload by itself. -/
def reloadAt (s : Simulation) (moment : Nat) : Simulation :=
  { s with supervisor := s.supervisor.map fun v => v.reloadAt s.store moment }

/-- The moment of the next reload. -/
def nextReload (s : Simulation) : Option Nat :=
  s.supervisor.bind Supervisor.nextReload

@[simp] theorem supervisor_absorbAll (s : Simulation) (deeds : List (List Deed)) :
    (s.absorbAll deeds).supervisor = s.supervisor := by
  unfold absorbAll
  generalize inOrder deeds = merged
  induction merged generalizing s with
  | nil => rfl
  | cons d rest ih => exact ih (s.absorb d)

theorem nextReload_reloadAt_runTo (target moment : Nat) (cut : Kind → Option Nat)
    {s : Simulation} {due : Nat} (h : s.nextReload = some due) :
    ∃ wait, 1 ≤ wait ∧
      ((s.runTo target cut).reloadAt moment).nextReload = some (moment + wait) := by
  obtain ⟨v, hv, -⟩ := Option.bind_eq_some_iff.mp h
  refine ⟨Supervisor.reloadWait v.defaults, Nat.le_max_left .., ?_⟩
  simp only [nextReload, reloadAt, runTo, supervisor_absorbAll, hv, Option.map_some,
    Option.bind_some]
  simp [Supervisor.reloadAt, Supervisor.runLoops]

/-- Lets time pass up to a moment. -/
def advanceTo (s : Simulation) (target : Nat) : Simulation :=
  match _h : s.nextReload with
  | none => s.runTo target fun _ => none
  | some due =>
    if due ≤ target then ((s.runTo due (s.ties due)).reloadAt due).advanceTo target
    else s.runTo target fun _ => none
  termination_by (s.nextReload.map fun due => target + 1 - due).getD 0
  decreasing_by
    obtain ⟨wait, hwait, hnext⟩ := nextReload_reloadAt_runTo due due (s.ties due) _h
    simp only [_h, hnext, Option.map_some, Option.getD_some]
    omega

/-- Lets so many milliseconds pass. -/
def advance (s : Simulation) (millis : Nat) : Simulation :=
  s.advanceTo (s.now + millis)

/-- Asks something and waits for the outcome. -/
def inquire {α : Type} (s : Simulation) (inquiry : Sight → Inquiry α) :
    Ending α × Simulation :=
  match (inquiry s.present).run s.now with
  | (ending, elapsed) => (ending, s.advance elapsed)

/-- Publishes a health check, if it returned. -/
def publish (s : Simulation) (check : Option (Except Fault Registry)) : Simulation :=
  match check with
  | some result => { s with metrics := s.metrics.recordCheck s.env.cluster result }
  | none => s

/-- Makes a health check, which is published. -/
def check (s : Simulation) : Ending Registry × Simulation :=
  match s.inquire fun sight => Check.inspect s.env.check sight.gateway with
  | (ending, after) => (ending, after.publish ending.returned?)

/-- Evaluates a kind by a rule; a health check that is made for it is published. -/
def evaluate (s : Simulation) (kind : Kind) (rule : String) :
    Ending (Option String) × Simulation :=
  let e := kind.evaluate s.env s.present rule s.now
  (e.finding, (s.advance e.elapsed).publish e.check)

/-- Emits an alert. -/
def emit (s : Simulation) (e : Emission) : Except Fault Unit × Simulation :=
  match s.store.emit e with
  | .ok store => (.ok (), { s with store })
  | .error f => (.error f, s)

/-- Ticks the context by hand, and tells the outcome and the counter, if there is a context and
its evaluation does not panic. -/
def tickContext (s : Simulation) : Option (Ending (TickOutcome × UInt32)) × Simulation :=
  match s.context with
  | none => (none, s)
  | some c =>
    if c.settings.enabled then
      let e := c.kind.evaluate s.env s.present c.settings.rule s.now
      let after := s.advance e.elapsed
      match e.finding.returned? with
      | none => (some .panic, after)
      | some finding =>
        let concluded := (c.conclude after.store.accepts finding).2.2
        let deed := Deed.ofEvaluation s.env c after.store.accepts s.now e finding
        (some (.value (deed.outcome, concluded.counter)),
          { after.absorb deed with context := some concluded })
    else (some (.value (.disabled, c.counter)), s)

/-- Starts a supervisor in place of any that is running. -/
def startSupervisor (s : Simulation) (cluster : String) (env : Environment) (d : Defaults) :
    Except Fault String × Simulation :=
  match Supervisor.start cluster env s.store d s.now with
  | .error f => (.error f, s)
  | .ok v =>
    (.ok cluster,
      { s with supervisor := some v, retired := s.supervisor.toList.map .stop ++ s.retired })

/-- The supervisor that was started last, unless it was told to stop. -/
def liveSupervisor (s : Simulation) : Option Supervisor :=
  s.supervisor.filter fun v => v.nextReload.isSome

/-- Tells the supervisor to reload. -/
def reload (s : Simulation) : Except Fault Unit × Simulation :=
  match s.liveSupervisor with
  | none => (.error (.internal "no supervisor is running"), s)
  | some v =>
    match v.reload s.store with
    | .error f => (.error f, s)
    | .ok reloaded => (.ok (), { s with supervisor := some reloaded })

/-- Signals the loop of a kind to stop, and says whether the signal reached it. -/
def stopKind (s : Simulation) (kind : Kind) : Bool × Simulation :=
  match s.supervisor with
  | none => (false, s)
  | some v => ((v.stopKind kind).1, { s with supervisor := some (v.stopKind kind).2 })

/-- Signals the supervisor to stop, and goes on without waiting for it. -/
def dropSupervisor (s : Simulation) : Simulation :=
  { s with supervisor := s.supervisor.map .stop }

/-- Signals the supervisor to stop, and waits for the ticks that are under way. -/
def shutdown (s : Simulation) : Simulation :=
  match s.liveSupervisor with
  | none => s
  | some v =>
    s.dropSupervisor.advanceTo (v.stop.lastEvaluationEnd s.sight s.now)

/-- The contexts of the supervisor that was started last. -/
def contexts (s : Simulation) : List Context :=
  (s.supervisor.map Supervisor.contexts).getD []

end Simulation

end CopysetWatch
