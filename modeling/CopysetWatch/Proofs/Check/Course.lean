import CopysetWatch.Check.Judgement
import CopysetWatch.Proofs.Check.Testimonies
import CopysetWatch.Proofs.Inquiry
import Mathlib.Data.List.Nodup
import Mathlib.Data.List.TakeWhile

/-!
# Course of a health check

A health check asks its questions at moments that depend on how long earlier answers took, and
hears the answers of many targets in an order that nobody controls. What it is told is therefore
kept apart from when it asks: `Answers` holds the answer to every question, and `Courses` relates
them to all outcomes that some order of arrival leads to. The main statement is that a health
check, whenever it begins, runs one of these courses.
-/

namespace CopysetWatch.Check

/-- What a health check is told. The placement of a server is asked for at most once, and the
memberships that follow from it are told for this server. -/
structure Answers where
  servers : Ending (List ChunkServer)
  raftStatus : String → Reply (List Raft.Fields)
  assignments : String → Reply (List Location)
  members : String → UInt32 → List UInt32 → Reply (List Members)
  copysets : Ending (List ScanStatus)

/-- The addresses in a list of servers, if there is one. -/
def listedAddresses (servers : Ending (List ChunkServer)) : List String :=
  (servers.value?.getD []).map ChunkServer.address

namespace Answers

/-- The memberships of one group of copysets that a server should hold. -/
def membersOf (a : Answers) (address : String) (group : UInt32 × List UInt32) :
    Reply (List Members) :=
  a.members address group.1 group.2

/-- The addresses of the listed servers. -/
def addresses (a : Answers) : List String :=
  listedAddresses a.servers

end Answers

/-- The outcomes of rebuilding the copysets of one server. -/
def Rebuilds (settings : CheckSettings) (a : Answers) (address : String)
    (outcome : Ending (List Hosted)) : Prop :=
  match (a.assignments address).ending with
  | .fault f => outcome = .fault f
  | .panic => outcome = .panic
  | .value locations => ∃ heard,
      Gather.Heard settings.gatewayTimeout (a.membersOf address) (byPool locations) heard ∧
      outcome = (Outcome.ofExcept (Gather.firstError heard)).map fun answers =>
        answers.flatMap fun answer => hostedIn answer.1.1 answer.2

/-- The outcomes of rebuilding the copysets of several servers, one after the other. -/
def RebuildsAll (settings : CheckSettings) (a : Answers) :
    List String → Ending (List (String × List Hosted)) → Prop
  | [], outcome => outcome = .value []
  | address :: rest, outcome => ∃ hosted others,
      Rebuilds settings a address hosted ∧ RebuildsAll settings a rest others ∧
      outcome = hosted.bind fun hosted => others.map fun others => (address, hosted) :: others

/-- The outcomes of asking for everything that a health check judges by. -/
def Collects (settings : CheckSettings) (a : Answers) (outcome : Ending Evidence) : Prop :=
  match a.servers with
  | .fault f => outcome = .fault f
  | .panic => outcome = .panic
  | .value _ => ∃ heard rebuilt placed,
      Gather.Heard settings.raftTimeout a.raftStatus a.addresses heard ∧
      RebuildsAll settings a (unreachableServers (beforeOverflow settings (testimonies heard)))
        rebuilt ∧
      Gather.Heard settings.gatewayTimeout a.assignments
        (candidateServers (testimonies heard)) placed ∧
      outcome = rebuilt.bind fun rebuilt =>
        if overflowsSomewhere settings (testimonies heard) then .panic
        else (Outcome.ofExcept (Gather.firstError placed)).bind fun placement =>
          a.copysets.map fun listing =>
            { testimonies := testimonies heard, rebuilt, placement, listing }

/-- The outcomes of a health check, over all orders in which answers may arrive. -/
def Courses (settings : CheckSettings) (a : Answers) (outcome : Ending Registry) : Prop :=
  ∃ evidence, Collects settings a evidence ∧
    outcome = evidence.bind fun e => .ofExcept (judge settings e)

/-! ### The answers given to a health check -/

/-- The moment at which some servers have been rebuilt one after the other. -/
def momentAfter (settings : CheckSettings) (gateway : Nat → Gateway) (addresses : List String)
    (moment : Nat) : Nat :=
  addresses.foldl (fun moment address =>
    moment + ((rebuild settings gateway address).run moment).2) moment

section

variable (settings : CheckSettings) (gateway : Nat → Gateway) (start : Nat)

/-- The moment at which the servers are listed and asked for their raft status. -/
def listedAt : Nat :=
  start + (gateway start).servers.delay

/-- What a health check hears of the chunk servers. -/
def heardServers : List (Arrival String (List Raft.Fields)) :=
  Gather.arrivals settings.raftTimeout (gateway (listedAt gateway start)).raftStatus
    (listedAddresses (gateway start).servers.ending)

/-- The servers that a health check finds unreachable. -/
def foundUnreachable : List String :=
  unreachableServers (testimonies (heardServers settings gateway start))

/-- The moment at which a health check asks where a server belongs: an unreachable one in its
turn, and any other one when all unreachable servers are rebuilt. -/
def askedAt (address : String) : Nat :=
  momentAfter settings gateway
    ((foundUnreachable settings gateway start).takeWhile (· != address))
    (listedAt gateway start + Gather.elapsed (heardServers settings gateway start))

/-- The moment at which all unreachable servers are rebuilt. -/
def rebuiltAt : Nat :=
  momentAfter settings gateway (foundUnreachable settings gateway start)
    (listedAt gateway start + Gather.elapsed (heardServers settings gateway start))

/-- What a health check hears of where the servers with candidates belong. -/
def heardPlacements : List (Arrival String (List Location)) :=
  Gather.arrivals settings.gatewayTimeout
    (gateway (rebuiltAt settings gateway start)).assignments
    (candidateServers (testimonies (heardServers settings gateway start)))

/-- The answers of a gateway to a health check that begins at a moment, each of them given at the
moment at which its question is asked. -/
def Answers.during : Answers where
  servers := (gateway start).servers.ending
  raftStatus := (gateway (listedAt gateway start)).raftStatus
  assignments address := (gateway (askedAt settings gateway start address)).assignments address
  members address :=
    let asked := askedAt settings gateway start address
    (gateway (asked + ((gateway asked).assignments address).delay)).members
  copysets := (gateway (rebuiltAt settings gateway start +
    Gather.elapsed (heardPlacements settings gateway start))).copysets.ending

end

/-- A gateway that does not change gives the answers that it gives at any moment. -/
theorem Answers.during_const (settings : CheckSettings) (view : Gateway) (start : Nat) :
    during settings (fun _ => view) start =
      { servers := view.servers.ending
        raftStatus := view.raftStatus
        assignments := view.assignments
        members := fun _ => view.members
        copysets := view.copysets.ending } :=
  rfl

/-! ### A health check runs one of its courses -/

/-- Rebuilding a server gives one of the outcomes of its answers. -/
theorem rebuilds_run (settings : CheckSettings) {gateway : Nat → Gateway} {a : Answers}
    {address : String} {moment : Nat}
    (hassignments : a.assignments address = (gateway moment).assignments address)
    (hmembers : a.members address =
      (gateway (moment + ((gateway moment).assignments address).delay)).members) :
    Rebuilds settings a address ((rebuild settings gateway address).run moment).1 := by
  have hquery : a.membersOf address = fun group =>
      (gateway (moment + ((gateway moment).assignments address).delay)).members
        group.1 group.2 := by
    funext group
    rw [Answers.membersOf, hmembers]
  unfold Rebuilds rebuild
  rw [Inquiry.ending_bind, Inquiry.run_ask, hassignments]
  cases ((gateway moment).assignments address).ending with
  | fault f => rfl
  | panic => rfl
  | value locations =>
    simp only [Outcome.bind, Inquiry.ending_bind, Inquiry.run_gatherAll, Inquiry.run_pure]
    refine ⟨_, Gather.heard_arrivals _ _ _, ?_⟩
    rw [hquery]
    cases Gather.firstError _ <;> rfl

/-- Where several servers are rebuilt, the time that passes is that of each of them in turn. -/
theorem moment_rebuildAll {settings : CheckSettings} {gateway : Nat → Gateway}
    {addresses : List String} {moment : Nat} {rebuilt : List (String × List Hosted)}
    (h : ((rebuildAll settings gateway addresses).run moment).1 = .value rebuilt) :
    moment + ((rebuildAll settings gateway addresses).run moment).2 =
      momentAfter settings gateway addresses moment := by
  induction addresses generalizing moment rebuilt with
  | nil => rfl
  | cons first rest ih =>
    rw [rebuildAll] at h ⊢
    obtain ⟨hosted, -, h, hfirst⟩ := Inquiry.exists_of_run_bind_eq_value h
    obtain ⟨others, hothers, -, hrest⟩ := Inquiry.exists_of_run_bind_eq_value h
    rw [hfirst, hrest, Inquiry.run_pure, ← Nat.add_assoc, Nat.add_zero]
    exact ih hothers

/-- The turn of a server behind the first one comes when the first one is rebuilt. -/
theorem momentAfter_takeWhile_cons (settings : CheckSettings) (gateway : Nat → Gateway)
    {first address : String} (hne : first ≠ address) (rest : List String) (moment : Nat) :
    momentAfter settings gateway ((first :: rest).takeWhile (· != address)) moment =
      momentAfter settings gateway (rest.takeWhile (· != address))
        (moment + ((rebuild settings gateway first).run moment).2) := by
  simp [momentAfter, hne]

/-- Rebuilding several servers one after the other gives one of the outcomes of the answers that
each of them gets when its turn has come. -/
theorem rebuildsAll_run {settings : CheckSettings} {gateway : Nat → Gateway} {a : Answers}
    {addresses : List String} (hnodup : addresses.Nodup) (moment : Nat)
    (hassignments : ∀ address ∈ addresses, a.assignments address =
      (gateway (momentAfter settings gateway (addresses.takeWhile (· != address))
        moment)).assignments address)
    (hmembers : ∀ address ∈ addresses, a.members address =
      (gateway (momentAfter settings gateway (addresses.takeWhile (· != address)) moment +
        (a.assignments address).delay)).members) :
    RebuildsAll settings a addresses ((rebuildAll settings gateway addresses).run moment).1 := by
  -- The moment moves on with each server, so the turn of a server depends on those before it.
  induction addresses generalizing moment with
  | nil => rfl
  | cons first rest ih =>
    obtain ⟨hfirst, hrest⟩ := List.nodup_cons.mp hnodup
    have hturn {address : String} (haddress : address ∈ rest) :=
      momentAfter_takeWhile_cons settings gateway (ne_of_mem_of_not_mem haddress hfirst).symm
        rest moment
    have hnow := hassignments first List.mem_cons_self
    have hthen := hmembers first List.mem_cons_self
    simp only [List.takeWhile_cons, bne_self_eq_false, Bool.false_eq_true, if_false, momentAfter,
      List.foldl_nil] at hnow hthen
    have hhosted := rebuilds_run settings hnow (hnow ▸ hthen)
    have hothers := ih hrest (moment + ((rebuild settings gateway first).run moment).2)
      (fun address haddress => hturn haddress ▸
        hassignments address (List.mem_cons_of_mem first haddress))
      (fun address haddress => hturn haddress ▸
        hmembers address (List.mem_cons_of_mem first haddress))
    refine ⟨_, _, hhosted, hothers, ?_⟩
    rw [rebuildAll, Inquiry.ending_bind]
    congr 1
    funext hosted
    rw [Inquiry.ending_bind]
    cases ((rebuildAll settings gateway rest).run _).1 <;> rfl

section

variable (settings : CheckSettings) (gateway : Nat → Gateway) (start : Nat)

/-- The servers are heard in one of the orders of arrival. -/
theorem heard_heardServers :
    Gather.Heard settings.raftTimeout (Answers.during settings gateway start).raftStatus
      (Answers.during settings gateway start).addresses (heardServers settings gateway start) :=
  Gather.heard_arrivals _ _ _

/-- A server with candidates was not unreachable, and is asked about when all others are rebuilt. -/
theorem askedAt_of_mem_candidateServers {address : String}
    (h : address ∈ candidateServers (testimonies (heardServers settings gateway start))) :
    askedAt settings gateway start address = rebuiltAt settings gateway start := by
  have hnot : address ∉ foundUnreachable settings gateway start := by
    rw [testimonies_eq (heard_heardServers settings gateway start)] at h
    rw [foundUnreachable, testimonies_eq (heard_heardServers settings gateway start)]
    exact not_mem_unreachableServers h
  unfold askedAt rebuiltAt
  congr 1
  generalize foundUnreachable settings gateway start = unreachable at hnot ⊢
  induction unreachable with
  | nil => rfl
  | cons other rest ih =>
    rw [List.mem_cons, not_or] at hnot
    simp [Ne.symm hnot.1, ih hnot.2]

/-- The placements are heard in one of the orders of arrival. -/
theorem heard_heardPlacements :
    Gather.Heard settings.gatewayTimeout (Answers.during settings gateway start).assignments
      (candidateServers (testimonies (heardServers settings gateway start)))
      (heardPlacements settings gateway start) := by
  have hsame : heardPlacements settings gateway start =
      Gather.arrivals settings.gatewayTimeout (Answers.during settings gateway start).assignments
        (candidateServers (testimonies (heardServers settings gateway start))) := by
    apply Gather.arrivals_congr
    intro address haddress
    simp only [Answers.during, askedAt_of_mem_candidateServers settings gateway start haddress]
  rw [hsame]
  exact Gather.heard_arrivals _ _ _

/-- The unreachable servers are rebuilt once each. -/
theorem nodup_foundUnreachable : (foundUnreachable settings gateway start).Nodup := by
  rw [foundUnreachable, testimonies_eq (heard_heardServers settings gateway start),
    unreachableServers_oneEach]
  exact (ascending_distinct _).nodup.filter _

/-- Where no server overflows, none is left out of those that are gone through. -/
theorem beforeOverflow_eq_self {found : List (String × Testimony)}
    (h : overflowsSomewhere settings found = false) : beforeOverflow settings found = found := by
  rw [beforeOverflow, List.takeWhile_eq_self_iff]
  simpa [overflowsSomewhere] using h

/-- The unreachable servers before an overflow are the first ones of all. -/
theorem unreachableServers_beforeOverflow_isInitial (found : List (String × Testimony)) :
    unreachableServers (beforeOverflow settings found) <+: unreachableServers found :=
  ((List.takeWhile_prefix _).filter _).map _

/-- What comes before an item of a list stays the same when the list goes on. -/
theorem takeWhile_ne_append {address : String} {addresses : List String}
    (h : address ∈ addresses) (later : List String) :
    (addresses ++ later).takeWhile (· != address) = addresses.takeWhile (· != address) := by
  induction addresses with
  | nil => cases h
  | cons first rest ih =>
    by_cases hfirst : first = address
    · simp [hfirst]
    · have hrest := (List.mem_cons.mp h).resolve_left (Ne.symm hfirst)
      simp [hfirst, ih hrest]

/-- The unreachable servers before an overflow are rebuilt in one of the ways that their answers
allow. -/
theorem rebuildsAll_during :
    RebuildsAll settings (.during settings gateway start)
      (unreachableServers (beforeOverflow settings
        (testimonies (heardServers settings gateway start))))
      ((rebuildAll settings gateway (unreachableServers (beforeOverflow settings
        (testimonies (heardServers settings gateway start))))).run
          (listedAt gateway start + Gather.elapsed (heardServers settings gateway start))).1 := by
  have hprefix := unreachableServers_beforeOverflow_isInitial settings
    (testimonies (heardServers settings gateway start))
  have hnodup := (nodup_foundUnreachable settings gateway start).sublist hprefix.sublist
  obtain ⟨later, hsplit⟩ := hprefix
  -- the turn of a server depends on the servers before it alone
  have hturn {address : String} (haddress : address ∈ unreachableServers (beforeOverflow settings
      (testimonies (heardServers settings gateway start)))) :
      (foundUnreachable settings gateway start).takeWhile (· != address) =
        (unreachableServers (beforeOverflow settings
          (testimonies (heardServers settings gateway start)))).takeWhile (· != address) := by
    rw [foundUnreachable, ← hsplit]
    exact takeWhile_ne_append haddress later
  refine rebuildsAll_run hnodup _ (fun address haddress => ?_) fun address haddress => ?_
  all_goals simp only [Answers.during, askedAt, hturn haddress]

/-- What is left to be asked comes to the placements and the list of copysets. -/
theorem ending_collectRest (found : List (String × Testimony))
    (rebuilt : List (String × List Hosted)) (moment : Nat) :
    let placed := Gather.arrivals settings.gatewayTimeout (gateway moment).assignments
      (candidateServers found)
    ((collectRest settings gateway found rebuilt).run moment).1 =
      (Outcome.ofExcept (Gather.firstError placed)).bind fun placement =>
        (gateway (moment + Gather.elapsed placed)).copysets.ending.map fun listing =>
          { testimonies := found, rebuilt, placement, listing } := by
  intro placed
  rw [collectRest, Inquiry.ending_bind, Inquiry.run_gatherAll]
  congr 1
  funext placement
  rw [Inquiry.ending_bind, Inquiry.run_ask]
  cases (gateway _).copysets.ending <;> rfl

/-- What the testimonies leave open comes to the rebuilt servers and, where none overflows, to what
is asked when all of them are rebuilt. -/
theorem ending_collectBeyond (found : List (String × Testimony)) (moment : Nat) :
    ((collectBeyond settings gateway found).run moment).1 =
      ((rebuildAll settings gateway (unreachableServers (beforeOverflow settings found))).run
        moment).1.bind fun rebuilt =>
      if overflowsSomewhere settings found then .panic
      else ((collectRest settings gateway found rebuilt).run
        (momentAfter settings gateway (unreachableServers found) moment)).1 := by
  rw [collectBeyond, Inquiry.ending_bind]
  cases hoverflow : overflowsSomewhere settings found with
  | true => rfl
  | false =>
    -- no server overflows, so all that are unreachable have been rebuilt by then
    rw [beforeOverflow_eq_self settings hoverflow]
    cases hrebuilt : ((rebuildAll settings gateway (unreachableServers found)).run moment).1 with
    | fault f => rfl
    | panic => rfl
    | value rebuilt =>
      simp only [Outcome.bind, moment_rebuildAll hrebuilt]
      rfl

/-- What asking for everything comes to, once the servers are listed. -/
theorem ending_collect {servers : List ChunkServer}
    (h : (gateway start).servers.ending = .value servers) :
    let found := testimonies (heardServers settings gateway start)
    ((collect settings gateway).run start).1 =
      ((rebuildAll settings gateway (unreachableServers (beforeOverflow settings found))).run
        (listedAt gateway start + Gather.elapsed (heardServers settings gateway start))).1.bind
          fun rebuilt =>
      if overflowsSomewhere settings found then .panic
      else (Outcome.ofExcept (Gather.firstError (heardPlacements settings gateway start))).bind
          fun placement =>
        (Answers.during settings gateway start).copysets.map fun listing =>
          { testimonies := found, rebuilt, placement, listing } := by
  intro found
  have hheard : heardServers settings gateway start =
      Gather.arrivals settings.raftTimeout (gateway (listedAt gateway start)).raftStatus
        (servers.map ChunkServer.address) := by
    rw [heardServers, h]
    rfl
  have hlisted : ((Inquiry.ask fun m => (gateway m).servers).run start).1 = .value servers := h
  have hrun : ((collect settings gateway).run start).1 = ((collectBeyond settings gateway
      (testimonies (Gather.arrivals settings.raftTimeout
        (gateway (listedAt gateway start)).raftStatus (servers.map ChunkServer.address)))).run
      (listedAt gateway start + Gather.elapsed (Gather.arrivals settings.raftTimeout
        (gateway (listedAt gateway start)).raftStatus (servers.map ChunkServer.address)))).1 := by
    rw [collect, Inquiry.run_bind_of_value hlisted, Inquiry.run_bind_of_value rfl]
    rfl
  rw [hrun, ← hheard, ending_collectBeyond]
  simp only [ending_collectRest]
  rfl

/-- Everything is asked for in one of the courses that the answers during the check allow. -/
theorem collects_run :
    Collects settings (.during settings gateway start)
      ((collect settings gateway).run start).1 := by
  unfold Collects
  have htold : (Answers.during settings gateway start).servers = (gateway start).servers.ending :=
    rfl
  rw [htold]
  cases hservers : (gateway start).servers.ending with
  | fault f =>
    rw [collect, Inquiry.ending_bind, Inquiry.run_ask, hservers]
    rfl
  | panic =>
    rw [collect, Inquiry.ending_bind, Inquiry.run_ask, hservers]
    rfl
  | value servers =>
    exact ⟨_, _, _, heard_heardServers settings gateway start,
      rebuildsAll_during settings gateway start, heard_heardPlacements settings gateway start,
      ending_collect settings gateway start hservers⟩

end

/-- A health check runs one of the courses that the answers given during the check allow. -/
theorem courses_inspect (settings : CheckSettings) (gateway : Nat → Gateway) (start : Nat) :
    Courses settings (.during settings gateway start)
      ((inspect settings gateway).run start).1 := by
  refine ⟨_, collects_run settings gateway start, ?_⟩
  rw [inspect, Inquiry.ending_bind]
  rfl

end CopysetWatch.Check
