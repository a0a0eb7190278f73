import CopysetWatch.Proofs.Check.Course
import CopysetWatch.Proofs.GroupIds

/-!
# Evidence of a course

Whether a health check gets as far as a judgement depends only on what it is told, and so does
the evidence it judges by, apart from the order in which the copysets of different pools come.
`Complete` says that everything is told that has to be told, and `Overflows` that judging some
server overflows. Where something is missing or overflows, the check ends with a fault that it was
given, or it unwinds.
-/

namespace CopysetWatch.Check

namespace Answers

variable (settings : CheckSettings) (a : Answers)

/-- What became of asking a server for its raft status. -/
def testimony (address : String) : Testimony :=
  .ofAnswer (Gather.arrival settings.raftTimeout a.raftStatus address).result

/-- Whether a listed server could not be asked. -/
def IsUnreachable (address : String) : Prop :=
  address ∈ a.addresses ∧ a.testimony settings address = .unreachable

/-- Whether a listed server reported a follower without a leader. -/
def IsCandidate (address : String) : Prop :=
  address ∈ a.addresses ∧
    ∃ record ∈ (a.testimony settings address).recordList, record.isLeaderlessFollower

/-- Where the metadata service places a server, as far as it tells so in time. -/
def placed (address : String) : List Location :=
  Gather.told settings.gatewayTimeout a.assignments address

/-- The copysets that a server should hold, pool by pool, as far as the metadata service tells
them in time. -/
def hosted (address : String) : List Hosted :=
  match (a.assignments address).ending with
  | .value locations => (byPool locations).flatMap fun group =>
      hostedIn group.1 (Gather.told settings.gatewayTimeout (a.membersOf address) group)
  | _ => []

/-- Which server reported which copyset in time. -/
def reports : Reports := fun address id =>
  a.addresses.contains address &&
    (a.testimony settings address).recordList.any fun record => record.groupId == id

/-- Whether the metadata service tells which copysets a server should hold: where it belongs, at
any time, and the members of each pool in time. -/
def TellsHosted (address : String) : Prop :=
  ∃ locations, (a.assignments address).ending = .value locations ∧
    ∀ group ∈ byPool locations,
      ∃ members, (a.membersOf address group).InTime settings.gatewayTimeout members

/-- Everything that a health check judges by, where all of it is told. -/
def evidence : Evidence :=
  let found := oneEach a.addresses (a.testimony settings)
  { testimonies := found
    rebuilt := (unreachableServers found).map fun address => (address, a.hosted settings address)
    placement := (candidateServers found).map fun address => (address, a.placed settings address)
    listing := a.copysets.value?.getD [] }

/-- Judging the records of some listed server overflows. -/
def Overflows : Prop :=
  ∃ address ∈ a.addresses, (a.testimony settings address).overflows settings (a.reports settings)

end Answers

/-- Everything is told that has to be told: the servers, the copysets of each unreachable server,
the placement of each server with candidates, and the listed copysets. -/
structure Complete (settings : CheckSettings) (a : Answers) : Prop where
  servers : ∃ servers, a.servers = .value servers
  rebuilt : ∀ address, a.IsUnreachable settings address → a.TellsHosted settings address
  placement : ∀ address, a.IsCandidate settings address →
    ∃ locations, (a.assignments address).InTime settings.gatewayTimeout locations
  listing : ∃ listing, a.copysets = .value listing

/-- A fault with which the metadata service fails to tell something that has to be told. -/
inductive Gives (settings : CheckSettings) (a : Answers) (f : Fault) : Prop where
  | servers (h : a.servers = .fault f)
  | assignments (address : String) (haddress : a.IsUnreachable settings address)
      (h : (a.assignments address).ending = .fault f)
  | members (address : String) (haddress : a.IsUnreachable settings address)
      (locations : List Location) (hlocations : (a.assignments address).ending = .value locations)
      (group : UInt32 × List UInt32) (hgroup : group ∈ byPool locations)
      (h : (Gather.arrival settings.gatewayTimeout (a.membersOf address) group).result = .error f)
  | placement (address : String) (haddress : a.IsCandidate settings address)
      (h : (Gather.arrival settings.gatewayTimeout a.assignments address).result = .error f)
  | listing (h : a.copysets = .fault f)

/-- Why a check unwinds: a question that nobody else hears out panics, or a judgement overflows. -/
inductive Unwinds (settings : CheckSettings) (a : Answers) : Prop where
  | servers (h : a.servers = .panic)
  | assignments (address : String) (haddress : a.IsUnreachable settings address)
      (h : (a.assignments address).ending = .panic)
  | overflow (h : a.Overflows settings)
  | listing (h : a.copysets = .panic)

/-- Where a fault is given, something is missing. -/
theorem Gives.not_complete {settings : CheckSettings} {a : Answers} {f : Fault}
    (h : Gives settings a f) : ¬Complete settings a := by
  intro hcomplete
  cases h with
  | servers h =>
    obtain ⟨servers, hservers⟩ := hcomplete.servers
    rw [hservers] at h
    cases h
  | assignments address haddress h =>
    obtain ⟨locations, hlocations, -⟩ := hcomplete.rebuilt address haddress
    rw [hlocations] at h
    cases h
  | members address haddress locations hlocations group hgroup h =>
    obtain ⟨others, hothers, hmembers⟩ := hcomplete.rebuilt address haddress
    rw [hlocations] at hothers
    cases hothers
    obtain ⟨members, hintime⟩ := hmembers group hgroup
    rw [(Gather.result_arrival_eq_ok_iff _ _ _ _).mpr hintime] at h
    cases h
  | placement address haddress h =>
    obtain ⟨locations, hintime⟩ := hcomplete.placement address haddress
    rw [(Gather.result_arrival_eq_ok_iff _ _ _ _).mpr hintime] at h
    cases h
  | listing h =>
    obtain ⟨listing, hlisting⟩ := hcomplete.listing
    rw [hlisting] at h
    cases h

/-- Where a check that is told everything unwinds, a judgement overflows. -/
theorem Unwinds.overflows {settings : CheckSettings} {a : Answers} (h : Unwinds settings a)
    (hcomplete : Complete settings a) : a.Overflows settings := by
  cases h with
  | servers h =>
    obtain ⟨servers, hservers⟩ := hcomplete.servers
    cases hservers.symm.trans h
  | assignments address haddress h =>
    obtain ⟨locations, hlocations, -⟩ := hcomplete.rebuilt address haddress
    cases hlocations.symm.trans h
  | overflow h => exact h
  | listing h =>
    obtain ⟨listing, hlisting⟩ := hcomplete.listing
    cases hlisting.symm.trans h

/-! ### The copysets of a server in every order of its pools -/

/-- Two bodies of evidence say the same of every single copyset. -/
structure Evidence.Agrees (e e' : Evidence) : Prop where
  testimonies : e.testimonies = e'.testimonies
  hosted : ∀ address id, (e.hostedBy address).filter (·.groupId == id) =
    (e'.hostedBy address).filter (·.groupId == id)
  placed : ∀ address id, e.isPlacedOn address id = e'.isPlacedOn address id
  listing : e.listing = e'.listing

/-- The members of one pool are no copysets of another one. -/
theorem filter_hostedIn {pool : UInt32} {id : GroupId} (h : pool ≠ id.pool)
    (members : List Members) : (hostedIn pool members).filter (·.groupId == id) = [] := by
  simp only [hostedIn, List.filter_eq_nil_iff, List.forall_mem_map, beq_iff_eq]
  rintro m - rfl
  exact h (GroupId.pool_pack pool m.copyset).symm

/-- The members of different pools may come in any order, as far as one copyset is concerned. -/
theorem filter_flatMap_hostedIn {answers answers' : List ((UInt32 × List UInt32) × List Members)}
    (hperm : answers.Perm answers') (id : GroupId) :
    (answers.map fun answer => answer.1.1).Nodup →
      (answers.flatMap fun answer => hostedIn answer.1.1 answer.2).filter (·.groupId == id) =
        (answers'.flatMap fun answer => hostedIn answer.1.1 answer.2).filter (·.groupId == id) := by
  induction hperm with
  | nil => exact fun _ => rfl
  | cons answer _ ih =>
    intro hnodup
    simp only [List.flatMap_cons, List.filter_append, ih (List.nodup_cons.mp hnodup).2]
  | swap first second rest =>
    intro hnodup
    simp only [List.map_cons, List.nodup_cons, List.mem_cons, not_or] at hnodup
    simp only [List.flatMap_cons, List.filter_append]
    -- At most one of the two pools is that of the copyset.
    by_cases hfirst : first.1.1 = id.pool
    · rw [filter_hostedIn (hfirst ▸ hnodup.1.1)]
      rfl
    · rw [filter_hostedIn hfirst]
      rfl
  | trans hperm _ ih ih' =>
    intro hnodup
    exact (ih hnodup).trans (ih' ((hperm.map _).nodup_iff.mp hnodup))

/-- Each pool is asked about once. -/
theorem nodup_byPool (locations : List Location) : ((byPool locations).map Prod.fst).Nodup := by
  have hpools := (ascending_toList (Std.ExtTreeSet.ofList (locations.map Location.pool))).nodup
  simpa [byPool, Function.comp_def] using hpools

/-- Rebuilding an unreachable server gives its copysets or a fault that was given, or it unwinds. -/
theorem Rebuilds.cases {settings : CheckSettings} {a : Answers} {address : String}
    {outcome : Ending (List Hosted)} (h : Rebuilds settings a address outcome)
    (haddress : a.IsUnreachable settings address) :
    (∃ hosted, outcome = .value hosted ∧ a.TellsHosted settings address ∧
      ∀ id, hosted.filter (·.groupId == id) =
        (a.hosted settings address).filter (·.groupId == id)) ∨
    (∃ f, outcome = .fault f ∧ Gives settings a f) ∨
    (outcome = .panic ∧ Unwinds settings a) := by
  unfold Rebuilds at h
  cases hending : (a.assignments address).ending with
  | fault f =>
    rw [hending] at h
    exact .inr (.inl ⟨f, h, .assignments address haddress hending⟩)
  | panic =>
    rw [hending] at h
    exact .inr (.inr ⟨h, .assignments address haddress hending⟩)
  | value locations =>
    rw [hending] at h
    obtain ⟨heard, hheard, rfl⟩ := h
    rcases hheard.firstError_cases with
      ⟨answers, houtcome, hperm, hintime⟩ | ⟨f, houtcome, group, hgroup, hfault⟩
    · rw [houtcome]
      refine .inl ⟨_, rfl, ⟨locations, hending, hintime⟩, fun id => ?_⟩
      have hnodup : (answers.map fun answer => answer.1.1).Nodup := by
        rw [(hperm.map _).nodup_iff, List.map_map]
        exact nodup_byPool locations
      rw [filter_flatMap_hostedIn hperm id hnodup, Answers.hosted, hending, List.flatMap_map]
    · rw [houtcome]
      exact .inr (.inl
        ⟨f, rfl, .members address haddress locations hending group hgroup hfault⟩)

/-- Rebuilding some unreachable servers gives the copysets of each or a fault that was given, or it
unwinds. -/
theorem RebuildsAll.cases {settings : CheckSettings} {a : Answers} {addresses : List String}
    {outcome : Ending (List (String × List Hosted))}
    (h : RebuildsAll settings a addresses outcome)
    (haddresses : ∀ address ∈ addresses, a.IsUnreachable settings address) :
    (∃ rebuilt, outcome = .value rebuilt ∧ rebuilt.map Prod.fst = addresses ∧
      (∀ address ∈ addresses, a.TellsHosted settings address) ∧
      ∀ entry ∈ rebuilt, ∀ id, entry.2.filter (·.groupId == id) =
        (a.hosted settings entry.1).filter (·.groupId == id)) ∨
    (∃ f, outcome = .fault f ∧ Gives settings a f) ∨
    (outcome = .panic ∧ Unwinds settings a) := by
  induction addresses generalizing outcome with
  | nil => exact .inl ⟨[], h, rfl, by simp, by simp⟩
  | cons address rest ih =>
    rw [List.forall_mem_cons] at haddresses
    obtain ⟨first, others, hfirst, hothers, rfl⟩ := h
    rcases hfirst.cases haddresses.1 with
      ⟨hosted, rfl, htells, hhosted⟩ | ⟨f, rfl, hf⟩ | ⟨rfl, hunwinds⟩
    · rcases ih hothers haddresses.2 with
        ⟨rebuilt, rfl, rfl, htold, hrebuilt⟩ | ⟨f, rfl, hf⟩ | ⟨rfl, hunwinds⟩
      · refine .inl ⟨(address, hosted) :: rebuilt, rfl, rfl, ?_, ?_⟩
        · exact List.forall_mem_cons.mpr ⟨htells, htold⟩
        · exact List.forall_mem_cons.mpr ⟨hhosted, hrebuilt⟩
      · exact .inr (.inl ⟨f, rfl, hf⟩)
      · exact .inr (.inr ⟨rfl, hunwinds⟩)
    · exact .inr (.inl ⟨f, rfl, hf⟩)
    · exact .inr (.inr ⟨rfl, hunwinds⟩)

/-! ### The evidence of a course -/

section

variable {settings : CheckSettings} {a : Answers}

/-- In every order of arrival, the testimonies are those of the listed servers. -/
theorem testimonies_heard {heard : List (Arrival String (List Raft.Fields))}
    (h : Gather.Heard settings.raftTimeout a.raftStatus a.addresses heard) :
    testimonies heard = (a.evidence settings).testimonies :=
  testimonies_eq h

theorem mem_unreachableServers_evidence {address : String} :
    address ∈ unreachableServers (a.evidence settings).testimonies ↔
      a.IsUnreachable settings address :=
  mem_unreachableServers

theorem mem_candidateServers_evidence {address : String} :
    address ∈ candidateServers (a.evidence settings).testimonies ↔
      a.IsCandidate settings address :=
  mem_candidateServers

theorem listing_evidence {listing : List ScanStatus} (h : a.copysets = .value listing) :
    (a.evidence settings).listing = listing := by
  simp [Answers.evidence, h]

/-- Lists of copysets by server that have the same copysets on each server. -/
theorem filter_lookup {rebuilt : List (String × List Hosted)} {hosted : String → List Hosted}
    {id : GroupId} (h : ∀ entry ∈ rebuilt,
      entry.2.filter (·.groupId == id) = (hosted entry.1).filter (·.groupId == id))
    (address : String) :
    ((rebuilt.lookup address).getD []).filter (·.groupId == id) =
      ((((rebuilt.map Prod.fst).map fun address => (address, hosted address)).lookup
        address).getD []).filter (·.groupId == id) := by
  induction rebuilt with
  | nil => rfl
  | cons entry rest ih =>
    rw [List.forall_mem_cons] at h
    obtain ⟨first, found⟩ := entry
    simp only [List.map_cons, List.lookup_cons]
    cases address == first with
    | true => exact h.1
    | false => exact ih h.2

/-- Evidence says the same as all that is told if it has the copysets of every unreachable server,
pool by pool in any order, and the placements, server by server in any order. -/
theorem agrees_evidence {rebuilt : List (String × List Hosted)}
    {places : List (String × List Location)} {listing : List ScanStatus}
    (hkeys : rebuilt.map Prod.fst = unreachableServers (a.evidence settings).testimonies)
    (hrebuilt : ∀ entry ∈ rebuilt, ∀ id, entry.2.filter (·.groupId == id) =
      (a.hosted settings entry.1).filter (·.groupId == id))
    (hplaces : places.Perm (a.evidence settings).placement)
    (hlisting : a.copysets = .value listing) :
    Evidence.Agrees ⟨(a.evidence settings).testimonies, rebuilt, places, listing⟩
      (a.evidence settings) where
  testimonies := rfl
  hosted address id := by
    have hlookup := filter_lookup (fun entry hentry => hrebuilt entry hentry id) address
    rw [hkeys] at hlookup
    exact hlookup
  placed address id := by
    have hplaced : ∀ entry ∈ places, entry.2 = a.placed settings entry.1 := by
      intro entry hentry
      obtain ⟨address, -, rfl⟩ := List.mem_map.mp (hplaces.mem_iff.mp hentry)
      rfl
    unfold Evidence.isPlacedOn
    rw [lookup_perm hplaces hplaced address]
  listing := (listing_evidence hlisting).symm

/-- Every server reported what its answer in time holds. -/
theorem reports_evidence : (a.evidence settings).reports = a.reports settings := by
  funext address id
  have hfound : (a.evidence settings).testimonies.lookup address =
      if address ∈ a.addresses then some (a.testimony settings address) else none :=
    lookup_oneEach address
  rw [Evidence.reports, reportsOf, hfound, Answers.reports]
  by_cases haddress : address ∈ a.addresses
  · simp [haddress]
  · simp [haddress]

/-- Some server of the evidence overflows if one of the listed servers does. -/
theorem overflowsSomewhere_evidence :
    overflowsSomewhere settings (a.evidence settings).testimonies ↔ a.Overflows settings := by
  have hreports : reportsOf (a.evidence settings).testimonies = a.reports settings :=
    reports_evidence
  rw [overflowsSomewhere, hreports]
  simp [Answers.Overflows, Answers.evidence, oneEach]

/-- The servers before an overflow cannot be asked only where a listed server cannot. -/
theorem isUnreachable_of_mem_beforeOverflow {address : String} (h : address ∈ unreachableServers
    (beforeOverflow settings (a.evidence settings).testimonies)) :
    a.IsUnreachable settings address :=
  mem_unreachableServers_evidence.mp
    ((unreachableServers_beforeOverflow_isInitial settings _).subset h)

/-- Asking for the evidence gives evidence that says the same as all that is told, where
everything is told and nothing overflows, and otherwise a fault that was given, or it unwinds. -/
theorem Collects.cases {outcome : Ending Evidence} (h : Collects settings a outcome) :
    (∃ e, outcome = .value e ∧ Complete settings a ∧ ¬a.Overflows settings ∧
      e.Agrees (a.evidence settings)) ∨
    (∃ f, outcome = .fault f ∧ Gives settings a f) ∨
    (outcome = .panic ∧ Unwinds settings a) := by
  unfold Collects at h
  cases hservers : a.servers with
  | fault f =>
    rw [hservers] at h
    exact .inr (.inl ⟨f, h, .servers hservers⟩)
  | panic =>
    rw [hservers] at h
    exact .inr (.inr ⟨h, .servers hservers⟩)
  | value servers =>
    rw [hservers] at h
    obtain ⟨heard, rebuilt, placed, hheard, hrebuilt, hplaced, rfl⟩ := h
    rw [testimonies_heard hheard] at hrebuilt hplaced ⊢
    -- The first of the questions and judgements that does not go through ends the course.
    rcases hrebuilt.cases fun address => isUnreachable_of_mem_beforeOverflow with
      ⟨hosts, rfl, hkeys, htells, hhosts⟩ | ⟨f, rfl, hf⟩ | ⟨rfl, hunwinds⟩
    case inr.inl => exact .inr (.inl ⟨f, rfl, hf⟩)
    case inr.inr => exact .inr (.inr ⟨rfl, hunwinds⟩)
    cases hoverflow : overflowsSomewhere settings (a.evidence settings).testimonies with
    | true => exact .inr (.inr ⟨rfl, .overflow (overflowsSomewhere_evidence.mp hoverflow)⟩)
    | false =>
      rw [beforeOverflow_eq_self settings hoverflow] at hkeys htells
      have hfits : ¬a.Overflows settings := by
        rw [← overflowsSomewhere_evidence, hoverflow]
        exact Bool.false_ne_true
      rcases hplaced.firstError_cases with
        ⟨places, houtcome, hperm, hintime⟩ | ⟨f, houtcome, address, haddress, hfault⟩
      case inr =>
        rw [houtcome]
        exact .inr (.inl
          ⟨f, rfl, .placement address (mem_candidateServers_evidence.mp haddress) hfault⟩)
      rw [houtcome]
      cases hlisting : a.copysets with
      | fault f => exact .inr (.inl ⟨f, rfl, .listing hlisting⟩)
      | panic => exact .inr (.inr ⟨rfl, .listing hlisting⟩)
      | value listing =>
        have hcomplete : Complete settings a := {
          servers := ⟨servers, hservers⟩
          rebuilt := fun address haddress =>
            htells address (mem_unreachableServers_evidence.mpr haddress)
          placement := fun address haddress =>
            hintime address (mem_candidateServers_evidence.mpr haddress)
          listing := ⟨listing, hlisting⟩ }
        exact .inl ⟨_, rfl, hcomplete, hfits, agrees_evidence hkeys hhosts hperm hlisting⟩

/-! ### What the evidence says about a server -/

/-- The copysets of an unreachable server are those that it should hold. -/
theorem hostedBy_evidence {address : String} (h : a.IsUnreachable settings address) :
    (a.evidence settings).hostedBy address = a.hosted settings address := by
  have hvalue : ∀ entry ∈ (a.evidence settings).rebuilt,
      entry.2 = a.hosted settings entry.1 := by
    simp [Answers.evidence]
  have hkey : address ∈ (a.evidence settings).rebuilt.map Prod.fst := by
    simpa [Answers.evidence, Function.comp_def] using mem_unreachableServers_evidence.mpr h
  rw [Evidence.hostedBy, lookup_of_forall _ hvalue, if_pos hkey]
  rfl

/-- A server with candidates holds the copysets that are placed on it. -/
theorem isPlacedOn_evidence {address : String} (h : a.IsCandidate settings address)
    (id : GroupId) : (a.evidence settings).isPlacedOn address id =
      (a.placed settings address).any fun location => location.groupId == id := by
  have hvalue : ∀ entry ∈ (a.evidence settings).placement,
      entry.2 = a.placed settings entry.1 := by
    simp [Answers.evidence]
  have hkey : address ∈ (a.evidence settings).placement.map Prod.fst := by
    simpa [Answers.evidence, Function.comp_def] using mem_candidateServers_evidence.mpr h
  rw [Evidence.isPlacedOn, lookup_of_forall _ hvalue, if_pos hkey]
  rfl

end

end CopysetWatch.Check
