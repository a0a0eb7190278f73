import CopysetWatch.Alert.Probe
import CopysetWatch.Check.Judgement

/-!
# Evaluation of an alert kind

Each kind has a predicate over what the gateway and the probe answer. It finds a problem, which
it words, or none; when something that it has to know cannot be had, it does not decide. An
endpoint that does not answer is offline and therefore decides, whatever the reason. A question
that nobody else hears out may panic, and then there is neither a finding nor a health check.
-/

namespace CopysetWatch.Alert

/-- The parts of a monitor that its evaluations work by. -/
structure Environment where
  /-- The name of the cluster under which health checks are counted. -/
  cluster : String
  check : CheckSettings
  /-- How long an endpoint may take to answer. -/
  probeTimeout : Duration
  deriving DecidableEq, Repr, Inhabited

/-- Everything that evaluations see, moment by moment. -/
structure Sight where
  gateway : Nat → Gateway
  probe : Nat → Probe

/-- What an evaluation came to. -/
structure Evaluation where
  /-- The wording of the problem, if there is one, or why nothing was decided. -/
  finding : Ending (Option String)
  /-- The health check that was made for it, if it returned. -/
  check : Option (Except Fault Registry) := none
  /-- How many milliseconds it took. -/
  elapsed : Nat

/-- The wording of a cluster's health, if it is a problem. -/
def healthProblem (s : HealthSnapshot) : Option String :=
  if s.healthy then none
  else some (s.unhealthy.toNat.repr ++ " of " ++ s.total.toNat.repr ++ " copysets unhealthy")

/-- The wording of a used capacity, if it reaches the threshold. -/
def capacityProblem (threshold : UInt64) (c : Capacity) : Option String :=
  match c.usedPercent with
  | none => none
  | some used =>
    if threshold ≤ used then
      some ("cluster capacity " ++ used.toNat.repr ++ "% used, threshold " ++
        threshold.toNat.repr ++ "%")
    else none

/-- The threshold that a rule of the capacity kind writes. -/
def capacityThreshold (rule : String) : Except Fault UInt64 :=
  match Text.readUInt64 (Text.trim rule.toList) with
  | .ok threshold => .ok threshold
  | .error _ => .error (.invalidRule Kind.clusterCapacity.name rule)

/-- What is heard of every endpoint of a service. -/
def hearEndpoints (env : Environment) (sight : Sight) (service : Service) :
    Inquiry (List (Arrival String Bool)) := do
  let endpoints ← Inquiry.ask fun m => (sight.probe m).endpoints service
  Inquiry.gather env.probeTimeout (fun m => (sight.probe m).leads service) endpoints

/-- The names of the endpoints whose answer passes a test, in ascending order. -/
def endpointsWhere (test : Except Fault Bool → Bool) (heard : List (Arrival String Bool)) :
    List String :=
  stableSort (fun a b => !decide (b < a)) ((heard.filter (test ·.result)).map Arrival.target)

/-- Whether an endpoint answered that it leads. -/
def isLeader : Except Fault Bool → Bool
  | .ok leads => leads
  | .error _ => false

/-- Whether an endpoint gave no answer. -/
def isOffline : Except Fault Bool → Bool
  | .ok _ => false
  | .error _ => true

/-- The wording of a service's leadership, unless it has exactly one leader. -/
def leaderProblem (service : Service) (heard : List (Arrival String Bool)) : Option String :=
  match endpointsWhere isLeader heard with
  | [] => some (service.name ++ " has no leader")
  | [_] => none
  | leaders =>
    some (service.name ++ " has " ++ leaders.length.repr ++ " leaders: " ++
      ", ".intercalate leaders)

/-- The wording of a service's reachability, unless all its endpoints answered. -/
def offlineProblem (service : Service) (heard : List (Arrival String Bool)) : Option String :=
  match endpointsWhere isOffline heard with
  | [] => none
  | offline => some (service.name ++ " endpoints offline: " ++ ", ".intercalate offline)

/-- The evaluation that an inquiry for a problem amounts to. -/
def Evaluation.ofInquiry (inquiry : Inquiry (Option String)) (start : Nat) : Evaluation :=
  match inquiry.run start with
  | (finding, elapsed) => { finding, elapsed }

/-- The evaluation of a kind by a rule, from the moment at which it begins. -/
def Kind.evaluate (env : Environment) (sight : Sight) (kind : Kind) (rule : String)
    (start : Nat) : Evaluation :=
  match kind with
  | .clusterHealth =>
    match (Check.inspect env.check sight.gateway).run start with
    | (ending, elapsed) =>
      { finding := ending.map fun r => healthProblem (Check.snapshot r)
        check := ending.returned?
        elapsed }
  | .clusterCapacity =>
    .ofInquiry (do
      let threshold ← Inquiry.ofExcept (capacityThreshold rule)
      let capacity ← Inquiry.ask fun m => (sight.probe m).capacity
      return capacityProblem threshold capacity) start
  | .leader service =>
    .ofInquiry (do
      let heard ← hearEndpoints env sight service
      return leaderProblem service heard) start
  | .offline service =>
    .ofInquiry (do
      let heard ← hearEndpoints env sight service
      return offlineProblem service heard) start

end CopysetWatch.Alert
