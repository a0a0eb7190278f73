import CopysetWatch.Alert.Evaluation
import CopysetWatch.Proofs.Hearing
import CopysetWatch.Proofs.Inquiry
import CopysetWatch.Proofs.Text.Numerals

/-!
# Alerts about services

The leadership of a service is judged by the endpoints that answer in time that they lead it, and
its reachability by those that do not answer in time. The main statement is that both are counted
exactly, as often as an endpoint is listed: there is no problem with exactly one leader and with no
silent endpoint, and otherwise the wording names them in ascending order. It does not matter in
which order the answers arrive or the endpoints are listed.
-/

namespace CopysetWatch

/-! ### Replies that tell -/

instance decidableEqValue : (ending : Ending Bool) → (value : Bool) →
    Decidable (ending = .value value)
  | .value a, value => decidable_of_iff (a = value) (by simp)
  | .fault _, _ => .isFalse (by simp)
  | .panic, _ => .isFalse (by simp)

instance (reply : Reply Bool) (timeout : Duration) (value : Bool) :
    Decidable (reply.InTime timeout value) :=
  inferInstanceAs (Decidable (_ ∧ _))

/-- A reply fails unless it says yes or no in time. -/
theorem Reply.fails_iff (reply : Reply Bool) (timeout : Duration) :
    reply.Fails timeout ↔ ¬(reply.InTime timeout true ∨ reply.InTime timeout false) := by
  constructor
  · rintro hfails (h | h) <;> exact h.not_fails hfails
  · intro hsilent
    obtain hfails | ⟨value, hvalue⟩ := reply.fails_or_exists_inTime timeout
    · exact hfails
    · cases value with
      | true => exact absurd (.inl hvalue) hsilent
      | false => exact absurd (.inr hvalue) hsilent

instance (reply : Reply Bool) (timeout : Duration) : Decidable (reply.Fails timeout) :=
  decidable_of_iff _ (reply.fails_iff timeout).symm

namespace Alert

/-! ### Names in order -/

/-- Names in ascending order, each as often as before. -/
structure Sorts (sorted names : List String) : Prop where
  perm : sorted.Perm names
  ascending : sorted.Pairwise (· ≤ ·)

/-- There is only one ascending order of the same names. -/
theorem Sorts.unique {sorted others names : List String} (h : Sorts sorted names)
    (hothers : Sorts others names) : sorted = others :=
  (h.perm.trans hothers.perm.symm).eq_of_pairwise (fun _ _ _ _ => String.le_antisymm) h.ascending
    hothers.ascending

/-- Sorting puts names in ascending order. -/
theorem sorts_stableSort (names : List String) :
    Sorts (stableSort (fun a b => !decide (b < a)) names) names where
  perm := stableSort_perm _ _
  ascending := by
    have hle (a b : String) : (!decide (b < a)) = true ↔ a ≤ b := by
      rw [Bool.not_eq_true', decide_eq_false_iff_not, String.not_lt]
    have hsorted := @pairwise_stableSort String (fun a b => !decide (b < a))
      (fun a b c => by simp only [hle]; exact String.le_trans)
      (fun a b => by simp only [hle]; exact String.le_total a b) names
    simpa only [hle] using hsorted

section

variable {timeout : Duration} {query : String → Reply Bool} {endpoints : List String}
  {heard : List (Arrival String Bool)}

open Gather (Heard)

/-- The endpoints whose answers pass a test are named in ascending order, in whatever order the
answers arrived. -/
theorem sorts_endpointsWhere {test : Except Fault Bool → Bool} (holds : String → Prop)
    [DecidablePred holds] (h : Heard timeout query endpoints heard)
    (htest : ∀ e ∈ endpoints, test (Gather.arrival timeout query e).result ↔ holds e) :
    Sorts (endpointsWhere test heard) (endpoints.filter fun e => holds e) := by
  have hsorts := sorts_stableSort ((heard.filter (test ·.result)).map Arrival.target)
  refine ⟨hsorts.perm.trans ?_, hsorts.ascending⟩
  have hkept : (endpoints.filter fun e => test (Gather.arrival timeout query e).result) =
      endpoints.filter fun e => holds e := by
    refine List.filter_congr fun e he => ?_
    rw [Bool.eq_iff_iff, decide_eq_true_iff]
    exact htest e he
  have hperm := (h.filter (test ·.result)).map Arrival.target
  rw [List.filter_map, List.map_map] at hperm
  simpa only [Function.comp_def, Gather.target_arrival, List.map_id', hkept] using hperm

/-- The endpoints that are named as leaders answer in time that they lead. -/
theorem sorts_leaders (h : Heard timeout query endpoints heard) :
    Sorts (endpointsWhere isLeader heard)
      (endpoints.filter fun e => (query e).InTime timeout true) := by
  refine sorts_endpointsWhere (fun e => (query e).InTime timeout true) h fun e _ => ?_
  rw [← Gather.result_arrival_eq_ok_iff]
  cases (Gather.arrival timeout query e).result <;> simp [isLeader]

/-- The endpoints that are named as offline give no answer in time. -/
theorem sorts_offline (h : Heard timeout query endpoints heard) :
    Sorts (endpointsWhere isOffline heard)
      (endpoints.filter fun e => (query e).Fails timeout) := by
  refine sorts_endpointsWhere (fun e => (query e).Fails timeout) h fun e _ => ?_
  rw [Reply.fails_iff, ← Gather.result_arrival_eq_ok_iff, ← Gather.result_arrival_eq_ok_iff]
  cases (Gather.arrival timeout query e).result with
  | error f => simp [isOffline]
  | ok leads => cases leads <;> simp [isOffline]

end

/-! ### Wordings -/

section

variable (service : Service) (heard : List (Arrival String Bool))

/-- The number of leaders is no word. -/
theorem leaders_ne_no_leader (count : Nat) (named : String) :
    service.name ++ " has " ++ count.repr ++ " leaders: " ++ named ≠
      service.name ++ " has no leader" := by
  have hno : service.name ++ " has no leader" = service.name ++ (" has " ++ "no leader") := rfl
  rw [hno, String.append_assoc, String.append_assoc, String.append_assoc, ne_eq,
    String.append_right_inj, String.append_right_inj]
  intro h
  have hsome : count.repr.toList ≠ [] := by simp
  obtain ⟨digit, rest, hrepr⟩ := List.exists_cons_of_ne_nil hsome
  have hdigit : digit.isDigit := Text.isDigit_of_mem_repr (hrepr ▸ List.mem_cons_self)
  have hfirst := congrArg (·.toList.head?) h
  simp only [String.toList_append, hrepr, List.cons_append, List.head?_cons] at hfirst
  obtain rfl : digit = 'n' := Option.some.inj hfirst
  revert hdigit
  decide

/-- What is said about leadership follows from how many leaders there are. -/
theorem leaderProblem_cases :
    (leaderProblem service heard = none ↔ (endpointsWhere isLeader heard).length = 1) ∧
    (leaderProblem service heard = some (service.name ++ " has no leader") ↔
      (endpointsWhere isLeader heard).length = 0) ∧
    (2 ≤ (endpointsWhere isLeader heard).length →
      leaderProblem service heard = some (service.name ++ " has " ++
        (endpointsWhere isLeader heard).length.repr ++ " leaders: " ++
          ", ".intercalate (endpointsWhere isLeader heard))) := by
  unfold leaderProblem
  match endpointsWhere isLeader heard with
  | [] => simp
  | [leader] => simp
  | leader :: other :: rest => simp [leaders_ne_no_leader]

/-- What is said about reachability follows from whether an endpoint is offline. -/
theorem offlineProblem_cases :
    (offlineProblem service heard = none ↔ endpointsWhere isOffline heard = []) ∧
    (endpointsWhere isOffline heard ≠ [] →
      offlineProblem service heard = some (service.name ++ " endpoints offline: " ++
        ", ".intercalate (endpointsWhere isOffline heard))) := by
  unfold offlineProblem
  cases endpointsWhere isOffline heard <;> simp

end

/-! ### Evaluations -/

section

variable {env : Environment} {sight : Sight} {service : Service} {start delay : Nat}
  {endpoints : List String}

/-- Every endpoint that is listed is asked as soon as the listing is there. -/
theorem run_hearEndpoints (h : (sight.probe start).endpoints service = ⟨delay, .value endpoints⟩) :
    ((hearEndpoints env sight service).run start).1 = .value
      (Gather.arrivals env.probeTimeout ((sight.probe (start + delay)).leads service)
        endpoints) := by
  have hasked : (Inquiry.ask fun m => (sight.probe m).endpoints service).run start =
      (.value endpoints, delay) := by
    rw [Inquiry.run_ask, h]
  rw [hearEndpoints, Inquiry.run_bind_of_value (congrArg Prod.fst hasked), hasked,
    Inquiry.run_gather]

/-- An evaluation of leadership finds what is said about the answers. -/
theorem finding_leader (h : (sight.probe start).endpoints service = ⟨delay, .value endpoints⟩)
    (rule : String) :
    ((Kind.leader service).evaluate env sight rule start).finding =
      .value (leaderProblem service (Gather.arrivals env.probeTimeout
        ((sight.probe (start + delay)).leads service) endpoints)) := by
  unfold Kind.evaluate Evaluation.ofInquiry
  dsimp only
  rw [Inquiry.run_bind_of_value (run_hearEndpoints h)]
  rfl

/-- An evaluation of reachability finds what is said about the answers. -/
theorem finding_offline (h : (sight.probe start).endpoints service = ⟨delay, .value endpoints⟩)
    (rule : String) :
    ((Kind.offline service).evaluate env sight rule start).finding =
      .value (offlineProblem service (Gather.arrivals env.probeTimeout
        ((sight.probe (start + delay)).leads service) endpoints)) := by
  unfold Kind.evaluate Evaluation.ofInquiry
  dsimp only
  rw [Inquiry.run_bind_of_value (run_hearEndpoints h)]
  rfl

end

/-- Of the same names in another order, tests that agree on them keep the same. -/
theorem perm_filter_of_iff {names others : List String} {holds holds' : String → Prop}
    [DecidablePred holds] [DecidablePred holds'] (hperm : others.Perm names)
    (h : ∀ name ∈ names, holds' name ↔ holds name) :
    (others.filter fun name => holds' name).Perm (names.filter fun name => holds name) := by
  refine (hperm.filter _).trans (.of_eq (List.filter_congr fun name hname => ?_))
  rw [decide_eq_decide]
  exact h name hname

/-- The same is said about endpoints whatever order they are listed in and their answers arrive in,
if the same answers come in time. -/
theorem problems_of_perm {timeout : Duration} {query query' : String → Reply Bool}
    {endpoints listed : List String} {heard heard' : List (Arrival String Bool)}
    (hperm : listed.Perm endpoints)
    (hsame : ∀ e ∈ endpoints, ∀ value,
      (query' e).InTime timeout value ↔ (query e).InTime timeout value)
    (h : Gather.Heard timeout query endpoints heard)
    (h' : Gather.Heard timeout query' listed heard') (service : Service) :
    leaderProblem service heard' = leaderProblem service heard ∧
      offlineProblem service heard' = offlineProblem service heard := by
  have hleaders : endpointsWhere isLeader heard' = endpointsWhere isLeader heard := by
    have hled := perm_filter_of_iff hperm fun e he => hsame e he true
    exact Sorts.unique ⟨(sorts_leaders h').perm.trans hled, (sorts_leaders h').ascending⟩
      (sorts_leaders h)
  have hoffline : endpointsWhere isOffline heard' = endpointsWhere isOffline heard := by
    have hsilent := perm_filter_of_iff hperm fun e he =>
      show (query' e).Fails timeout ↔ (query e).Fails timeout by
        rw [Reply.fails_iff, Reply.fails_iff, hsame e he, hsame e he]
    exact Sorts.unique ⟨(sorts_offline h').perm.trans hsilent, (sorts_offline h').ascending⟩
      (sorts_offline h)
  unfold leaderProblem offlineProblem
  rw [hleaders, hoffline]
  exact ⟨rfl, rfl⟩

/-- A clock that covers the timeout leaves it to a reply whether it gives a value in time. -/
theorem inTime_on_iff {clock : Clock} {timeout : Duration} (h : clock.Covers timeout)
    (reply : Reply Bool) (value : Bool) :
    (reply.on clock).InTime timeout value ↔ reply.InTime timeout value := by
  have hdelay : clock.wait reply.delay ≤ timeout.millis ↔ reply.delay ≤ timeout.millis := by
    have hhorizon : timeout.millis < clock.horizon := h
    simp only [Clock.wait]
    omega
  exact and_congr_left' hdelay

/-- **Services are counted exactly.** With every endpoint as often as it is listed: there is no
problem with the leadership of a service if exactly one endpoint answers in time that it leads, none
answers so if there is no leader, and otherwise their number is told and they are named in ascending
order. There is no problem with its reachability if every endpoint answers in time, and otherwise
those that are too late, fail or die are named in ascending order. Neither the order of the answers
nor that of the endpoints matters. In time is by the delays that the asker's clock shows, which are
those of the replies themselves if the clock covers the timeout. -/
theorem evaluate_services (env : Environment) {sight : Sight} {service : Service}
    {start delay : Nat} {endpoints : List String}
    (h : (sight.probe start).endpoints service = ⟨delay, .value endpoints⟩) (rule : String) :
    let query := (sight.probe (start + delay)).leads service
    let leaders := endpoints.filter fun e => (query e).InTime env.probeTimeout true
    let offline := endpoints.filter fun e => (query e).Fails env.probeTimeout
    let leadership := ((Kind.leader service).evaluate env sight rule start).finding
    let reachability := ((Kind.offline service).evaluate env sight rule start).finding
    (leadership = .value none ↔ leaders.length = 1) ∧
    (leadership = .value (some (service.name ++ " has no leader")) ↔ leaders.length = 0) ∧
    (2 ≤ leaders.length → ∃ named, Sorts named leaders ∧
      leadership = .value (some (service.name ++ " has " ++ leaders.length.repr ++ " leaders: " ++
        ", ".intercalate named))) ∧
    (reachability = .value none ↔ offline = []) ∧
    (offline ≠ [] → ∃ named, Sorts named offline ∧
      reachability = .value (some (service.name ++ " endpoints offline: " ++
        ", ".intercalate named))) ∧
    (∀ heard, Gather.Heard env.probeTimeout query endpoints heard →
      leadership = .value (leaderProblem service heard) ∧
        reachability = .value (offlineProblem service heard)) ∧
    (∀ (other : Sight) (moment later : Nat) (listed : List String) (otherRule : String),
      (other.probe moment).endpoints service = ⟨later, .value listed⟩ → listed.Perm endpoints →
      (∀ e ∈ endpoints, ∀ value,
        ((other.probe (moment + later)).leads service e).InTime env.probeTimeout value ↔
          (query e).InTime env.probeTimeout value) →
      ((Kind.leader service).evaluate env other otherRule moment).finding = leadership ∧
        ((Kind.offline service).evaluate env other otherRule moment).finding = reachability) ∧
    ∀ (clock : Clock) (replies : String → Reply Bool), clock.Covers env.probeTimeout →
      (∀ e ∈ endpoints, query e = (replies e).on clock) →
        leaders = endpoints.filter (fun e => (replies e).InTime env.probeTimeout true) ∧
        offline = endpoints.filter fun e => (replies e).Fails env.probeTimeout := by
  intro query leaders offline leadership reachability
  let heard := Gather.arrivals env.probeTimeout query endpoints
  have hheard : Gather.Heard env.probeTimeout query endpoints heard :=
    Gather.heard_arrivals env.probeTimeout query endpoints
  have hleadership : leadership = .value (leaderProblem service heard) := finding_leader h rule
  have hreachability : reachability = .value (offlineProblem service heard) :=
    finding_offline h rule
  have hnamed := sorts_leaders hheard
  have hcount : (endpointsWhere isLeader heard).length = leaders.length := hnamed.perm.length_eq
  obtain ⟨hone, hnone, hmany⟩ := leaderProblem_cases service heard
  have hsilent := sorts_offline hheard
  obtain ⟨hall, hsome⟩ := offlineProblem_cases service heard
  have hempty : endpointsWhere isOffline heard = [] ↔ offline = [] := by
    rw [← List.length_eq_zero_iff, hsilent.perm.length_eq, List.length_eq_zero_iff]
  refine ⟨?one, ?none, ?many, ?reached, ?offline, ?arrivals, ?listed, ?clock⟩
  case one => rw [hleadership, Outcome.value.injEq, hone, hcount]
  case none => rw [hleadership, Outcome.value.injEq, hnone, hcount]
  case many =>
    intro htwo
    refine ⟨_, hnamed, ?_⟩
    rw [hleadership, hmany (hcount ▸ htwo), hcount]
  case reached => rw [hreachability, Outcome.value.injEq, hall, hempty]
  case offline =>
    intro hsilentSome
    refine ⟨_, hsilent, ?_⟩
    rw [hreachability, hsome (mt hempty.mp hsilentSome)]
  case arrivals =>
    intro heard' hheard'
    obtain ⟨hleader, hoffline⟩ :=
      problems_of_perm (.refl _) (fun _ _ _ => .rfl) hheard hheard' service
    rw [hleadership, hreachability, hleader, hoffline]
    exact ⟨rfl, rfl⟩
  case listed =>
    intro other moment later listed otherRule hlisted hperm hsame
    obtain ⟨hleader, hoffline⟩ := problems_of_perm hperm hsame hheard (Gather.heard_arrivals
      env.probeTimeout ((other.probe (moment + later)).leads service) listed) service
    rw [finding_leader hlisted, finding_offline hlisted, hleadership, hreachability, hleader,
      hoffline]
    exact ⟨rfl, rfl⟩
  case clock =>
    intro clock replies hcovers hreplies
    constructor
    · refine List.filter_congr fun e he => ?_
      rw [hreplies e he, decide_eq_decide]
      exact inTime_on_iff hcovers _ _
    · refine List.filter_congr fun e he => ?_
      rw [hreplies e he, decide_eq_decide, Reply.fails_iff, Reply.fails_iff,
        inTime_on_iff hcovers, inTime_on_iff hcovers]

/-- What is seen of a cluster through some endpoints alone, which are listed after a while. -/
def endpointsAlone (delay : Nat) (endpoints : List String) (leads : String → Reply Bool) :
    Sight where
  gateway _ := {
    servers := .now (.error (.gateway ""))
    assignments := fun _ => .now (.error (.gateway ""))
    members := fun _ _ => .now (.error (.gateway ""))
    copysets := .now (.error (.gateway ""))
    raftStatus := fun _ => .now (.error (.gateway "")) }
  probe _ := {
    capacity := .now (.error (.gateway ""))
    endpoints := fun _ => ⟨delay, .value endpoints⟩
    leads := fun _ => leads }

/-- Five entries: a leader that is listed twice, a follower, one that is too late, and one that
dies. -/
def mixedEndpoints : Sight :=
  endpointsAlone 25 ["d", "b", "a", "c", "b"] fun e =>
    if e = "a" then ⟨10, .value false⟩
    else if e = "b" then ⟨1000, .value true⟩
    else if e = "c" then ⟨1001, .value true⟩
    else ⟨0, .panic⟩

/-- A leader that is listed twice counts twice, and who is too late or dies is offline. -/
theorem evaluate_services_mixed :
    let env : Environment := ⟨"east", {}, .ofSeconds 1⟩
    ((Kind.leader .etcd).evaluate env mixedEndpoints "" 0).finding =
        .value (some "etcd has 2 leaders: b, b") ∧
      ((Kind.offline .etcd).evaluate env mixedEndpoints "" 0).finding =
        .value (some "etcd endpoints offline: c, d") := by
  intro env
  have hlisted : (mixedEndpoints.probe 0).endpoints .etcd =
      ⟨25, .value ["d", "b", "a", "c", "b"]⟩ := rfl
  obtain ⟨-, -, hmany, -, hsilent, -⟩ := evaluate_services env hlisted ""
  have hleaders : (["d", "b", "a", "c", "b"].filter fun e =>
      ((mixedEndpoints.probe 25).leads .etcd e).InTime env.probeTimeout true) = ["b", "b"] := by
    decide +kernel
  have hoffline : (["d", "b", "a", "c", "b"].filter fun e =>
      ((mixedEndpoints.probe 25).leads .etcd e).Fails env.probeTimeout) = ["d", "c"] := by
    decide +kernel
  rw [Nat.zero_add] at hmany hsilent
  rw [hleaders] at hmany
  rw [hoffline] at hsilent
  constructor
  · obtain ⟨named, hnamed, hfinding⟩ := hmany (by decide)
    obtain rfl : named = ["b", "b"] := hnamed.unique ⟨.refl _, by decide⟩
    rw [hfinding]
    rfl
  · obtain ⟨named, hnamed, hfinding⟩ := hsilent (by decide)
    obtain rfl : named = ["c", "d"] := hnamed.unique ⟨by decide, by decide⟩
    rw [hfinding]
    rfl

/-- Three endpoints that answer after more than thirty years, two of them after the timeout, and one
that answers after a bit more than a minute. -/
def distantReply (endpoint : String) : Reply Bool :=
  if endpoint = "a" then ⟨999999999999, .value false⟩
  else if endpoint = "b" then ⟨1000000000001, .value false⟩
  else if endpoint = "c" then ⟨10000000000000, .value false⟩
  else ⟨70000, .value false⟩

/-- Beyond its horizon, a clock of thirty years does not tell delays from the timeout: no endpoint
is found to be offline, although the delays of two are longer than the timeout. -/
theorem distant_endpoints_not_offline :
    let env : Environment := ⟨"east", {}, .ofMillis 1000000000000⟩
    let sight := endpointsAlone 0 ["a", "b", "c", "d"] fun e =>
      (distantReply e).on .ofThirtyYears
    ¬(((Kind.offline .etcd).evaluate env sight "" 0).finding = .value none ↔
      ∀ e ∈ ["a", "b", "c", "d"], (distantReply e).delay ≤ env.probeTimeout.millis) := by
  intro env sight hiff
  have hlisted : (sight.probe 0).endpoints .etcd = ⟨0, .value ["a", "b", "c", "d"]⟩ := rfl
  have hquiet : offlineProblem .etcd (Gather.arrivals env.probeTimeout
      ((sight.probe 0).leads .etcd) ["a", "b", "c", "d"]) = none := by
    decide +kernel
  have hfound : ((Kind.offline .etcd).evaluate env sight "" 0).finding = .value none := by
    rw [finding_offline hlisted, hquiet]
  have hlate : ¬(distantReply "b").delay ≤ env.probeTimeout.millis := by
    decide +kernel
  exact hlate (hiff.mp hfound "b" (by decide))

end Alert

end CopysetWatch
