import CopysetWatch.Proofs.Check.Outcome
import Mathlib.Data.List.Find

/-!
# Verdict on a copyset

Three passes decide about a copyset: what the servers and the metadata service contribute, where
the last problem stays; then the followers without a leader, where the first one on the smallest
address decides over everything else; and last the failed scans, which count where there is no
problem. `Verdict` says in what is told which class they come to, and the main theorem that this is
the class in the registry of every health check that succeeds.
-/

namespace CopysetWatch.Check

/-- The problem that a record contributes: a leader's health, the lack of a leader where one is
being elected or transferred, nothing for a follower, and any other state by its name. -/
def contribution (settings : CheckSettings) (reports : Reports) (record : Raft.Record) :
    Option Problem :=
  match record.state with
  | .leader => leaderStanding settings reports record
  | .follower => none
  | .candidate | .transferring => some .noLeader
  | state => some (.otherState state.name)

namespace Answers

variable (settings : CheckSettings) (a : Answers) (id : GroupId)

/-- A server reports a follower of a copyset without a leader, and the metadata service places this
copyset on the server. -/
structure IsLeaderlessOn (address : String) : Prop where
  listed : address ∈ a.addresses
  reported : ∃ record ∈ (a.testimony settings address).recordList,
    record.groupId = id ∧ record.isLeaderlessFollower
  placed : ∃ location ∈ a.placed settings address, location.groupId = id

/-- The first record of a follower of a copyset without a leader that a server reports. -/
def firstLeaderless (address : String) : Option Raft.Record :=
  (a.testimony settings address).recordList.find? fun record =>
    record.groupId == id && record.isLeaderlessFollower

/-- The problems of a copyset that a server contributes, in order: those of its records if it can
be asked, and those of the copysets that it should hold otherwise. -/
def contributionsOf (address : String) : List Problem :=
  match a.testimony settings address with
  | .unreachable => ((a.hosted settings address).filter (·.groupId == id)).filterMap fun hosted =>
      peerStanding (a.reports settings) hosted.groupId hosted.peers
  | .silent => []
  | .records rs => (rs.filter (·.groupId == id)).filterMap
      (contribution settings (a.reports settings))

/-- The problems of a copyset that all servers contribute, in the order of their addresses. -/
def contributions : List Problem :=
  (distinct a.addresses).flatMap (a.contributionsOf settings id)

end Answers

/-- The class of a copyset that follows from what is told. -/
inductive Verdict (settings : CheckSettings) (a : Answers) (id : GroupId) :
    Classification → Prop where
  /-- The first record without a leader on the smallest address decides. -/
  | leaderless {address : String} {record : Raft.Record}
      (hleaderless : a.IsLeaderlessOn settings id address)
      (hsmallest : ∀ other, a.IsLeaderlessOn settings id other → (compare address other).isLE)
      (hfirst : a.firstLeaderless settings id address = some record) :
      Verdict settings a id (.problem
        (if peerStanding (a.reports settings) id record.peers = some .majorityPeerOffline then
          .majorityPeerOffline else .noLeader))
  /-- Without such a record, the last contribution decides. -/
  | contributed {p : Problem} (hnone : ∀ address, ¬a.IsLeaderlessOn settings id address)
      (hlast : (a.contributions settings id).getLast? = some p) :
      Verdict settings a id (.problem p)
  /-- Without a contribution, a failed scan decides. -/
  | inconsistent {listing : List ScanStatus} {s : ScanStatus}
      (hnone : ∀ address, ¬a.IsLeaderlessOn settings id address)
      (hempty : a.contributions settings id = []) (hlisting : a.copysets = .value listing)
      (hs : s ∈ listing) (hid : s.groupId = id) (hscan : s.isInconsistent) :
      Verdict settings a id (.problem .inconsistent)
  | healthy {listing : List ScanStatus}
      (hnone : ∀ address, ¬a.IsLeaderlessOn settings id address)
      (hempty : a.contributions settings id = []) (hlisting : a.copysets = .value listing)
      (hscan : ∀ s ∈ listing, s.groupId = id → ¬s.isInconsistent) :
      Verdict settings a id .healthy

/-! ### Followers without a leader -/

section

variable {settings : CheckSettings} {a : Answers} {id : GroupId}

/-- The candidate of a server that decides about a copyset, as far as this server goes. -/
def deciding (settings : CheckSettings) (a : Answers) (id : GroupId) (address : String) :
    Option Candidate :=
  ((candidatesOf (address, a.testimony settings address)).filter fun c =>
    (a.evidence settings).isPlacedOn c.address c.groupId).find? (·.groupId == id)

/-- It is the first one of the copyset, provided that the metadata service places the copyset on
the server. -/
theorem deciding_eq {address : String} (haddress : address ∈ a.addresses) :
    deciding settings a id address =
      if (a.placed settings address).any (·.groupId == id) then
        (a.firstLeaderless settings id address).map fun record =>
          ⟨address, record.groupId, record.peers⟩
      else none := by
  let place := (a.placed settings address).any (·.groupId == id)
  have hsame : ∀ record ∈ (a.testimony settings address).recordList,
      (record.isLeaderlessFollower && ((a.evidence settings).isPlacedOn address record.groupId &&
        record.groupId == id)) =
      (record.groupId == id && record.isLeaderlessFollower && place) := by
    intro record hrecord
    -- The placement was asked for only if the server has some record without a leader.
    by_cases hleaderless : record.isLeaderlessFollower
    · rw [isPlacedOn_evidence ⟨haddress, record, hrecord, hleaderless⟩]
      by_cases hid : record.groupId = id
      · simp [hid, hleaderless, place]
      · simp only [beq_false_of_ne hid, Bool.and_false, Bool.false_and]
    · simp [hleaderless]
  have hfound := List.find?_congr hsame
  simp only [deciding, candidatesOf, List.find?_filter, List.find?_map, Function.comp_def,
    Bool.decide_and, Bool.decide_eq_true, hfound, Answers.firstLeaderless]
  change _ = if place then _ else _
  cases place <;> simp

/-- A server has a candidate that decides if it has a record without a leader. -/
theorem isSome_deciding {address : String} (haddress : address ∈ a.addresses) :
    (deciding settings a id address).isSome ↔ a.IsLeaderlessOn settings id address := by
  have hleaderless : a.IsLeaderlessOn settings id address ↔
      (a.placed settings address).any (·.groupId == id) ∧
        (a.firstLeaderless settings id address).isSome := by
    simp only [Answers.firstLeaderless, List.find?_isSome, List.any_eq_true, beq_iff_eq,
      Bool.and_eq_true]
    exact ⟨fun h => ⟨h.placed, h.reported⟩, fun h => ⟨haddress, h.2, h.1⟩⟩
  rw [deciding_eq haddress, hleaderless]
  split
  case isTrue hplaced => simp [hplaced]
  case isFalse hplaced => simp [hplaced]

/-- The candidate that decides about a copyset comes from the smallest address that has one. -/
theorem find?_resident : (resident (a.evidence settings)).find? (·.groupId == id) =
    (distinct a.addresses).findSome? (deciding settings a id) := by
  simp only [resident, candidates, Answers.evidence, oneEach, List.flatMap_map,
    List.filter_flatMap, List.find?_flatMap]
  rfl

/-- No candidate decides about a copyset if no server has a record of it without a leader. -/
theorem find?_resident_eq_none_iff :
    (resident (a.evidence settings)).find? (·.groupId == id) = none ↔
      ∀ address, ¬a.IsLeaderlessOn settings id address := by
  rw [find?_resident, List.findSome?_eq_none_iff]
  constructor
  · intro hnone address hleaderless
    have hsome := (isSome_deciding hleaderless.listed).mpr hleaderless
    rw [hnone address (mem_distinct.mpr hleaderless.listed)] at hsome
    cases hsome
  · intro hnone address haddress
    rw [← Option.not_isSome_iff_eq_none, isSome_deciding (mem_distinct.mp haddress)]
    exact hnone address

/-- Otherwise the first such record on the smallest address decides. -/
theorem find?_resident_eq_some_iff {c : Candidate} :
    (resident (a.evidence settings)).find? (·.groupId == id) = some c ↔
      ∃ address record, a.IsLeaderlessOn settings id address ∧
        (∀ other, a.IsLeaderlessOn settings id other → (compare address other).isLE) ∧
        a.firstLeaderless settings id address = some record ∧
        c = ⟨address, record.groupId, record.peers⟩ := by
  rw [find?_resident, (ascending_distinct a.addresses).findSome?_eq_some_iff]
  simp only [mem_distinct]
  constructor
  · rintro ⟨address, haddress, hc, hsmallest⟩
    have hleaderless := (isSome_deciding haddress).mp (Option.isSome_iff_exists.mpr ⟨c, hc⟩)
    rw [deciding_eq haddress] at hc
    split at hc
    case isTrue =>
      obtain ⟨record, hrecord, rfl⟩ := Option.map_eq_some_iff.mp hc
      exact ⟨address, record, hleaderless, fun other hother =>
        hsmallest other hother.listed ((isSome_deciding hother.listed).mpr hother), hrecord, rfl⟩
    case isFalse => cases hc
  · rintro ⟨address, record, hleaderless, hsmallest, hrecord, rfl⟩
    refine ⟨address, hleaderless.listed, ?_, fun other hother hsome =>
      hsmallest other ((isSome_deciding hother).mp hsome)⟩
    have hplaced : (a.placed settings address).any (·.groupId == id) := by
      simpa using hleaderless.placed
    rw [deciding_eq hleaderless.listed, if_pos hplaced, hrecord]
    rfl

/-! ### Contributions -/

/-- A record is noted with the problem that it contributes. -/
theorem problem_noteOfRecord (settings : CheckSettings) (reports : Reports)
    (record : Raft.Record) :
    (noteOfRecord settings reports record).problem = contribution settings reports record := by
  unfold noteOfRecord contribution
  dsimp only
  cases record.state <;> rfl

/-- The problems in the notes about a copyset are those that the servers contribute. -/
theorem filterMap_notes :
    ((notes settings (a.evidence settings)).filter (·.groupId == id)).filterMap Note.problem =
      a.contributions settings id := by
  have htestimonies : (a.evidence settings).testimonies =
      (distinct a.addresses).map fun address => (address, a.testimony settings address) := rfl
  rw [notes, htestimonies, List.flatMap_map, List.filter_flatMap, List.filterMap_flatMap,
    Answers.contributions]
  apply List.flatMap_congr
  intro address haddress
  unfold notesOf Answers.contributionsOf
  rw [reports_evidence]
  cases htold : a.testimony settings address with
  | unreachable =>
    dsimp only
    rw [hostedBy_evidence ⟨mem_distinct.mp haddress, htold⟩, List.filter_map, List.filterMap_map]
    rfl
  | silent => rfl
  | records rs =>
    dsimp only
    rw [List.filter_map, List.filterMap_map]
    exact List.filterMap_congr fun record _ => problem_noteOfRecord settings _ record

/-! ### The class of a copyset -/

/-- What an observed copyset is filed under before the failed scans count. -/
theorem standing_register_of_mem (hid : id ∈ (register settings (a.evidence settings)).total) :
    (register settings (a.evidence settings)).standing id = some
      (match (resident (a.evidence settings)).find? (·.groupId == id) with
      | some c => some (leaderlessProblem (a.reports settings) c)
      | none => (a.contributions settings id).getLast?) := by
  rw [Registry.mem_total_iff] at hid
  rw [standing_register] at hid ⊢
  rw [reports_evidence] at hid ⊢
  cases hfound : (resident (a.evidence settings)).find? (·.groupId == id) with
  | some c => rfl
  | none =>
    rw [hfound] at hid
    dsimp only at hid ⊢
    rw [foldl_afterNote] at hid ⊢
    split at hid
    case isTrue => cases hid
    case isFalse hnotes =>
      rw [if_neg hnotes, filterMap_notes]
      simp

/-- The class of an observed copyset after a favourable judgement. -/
theorem classificationOf_judge {r : Registry} (h : judge settings (a.evidence settings) = .ok r)
    {listing : List ScanStatus} (hlisting : a.copysets = .value listing) (hid : id ∈ r.total) :
    r.classificationOf id = some
      (match (resident (a.evidence settings)).find? (·.groupId == id) with
      | some c => .problem (leaderlessProblem (a.reports settings) c)
      | none =>
        match (a.contributions settings id).getLast? with
        | some p => .problem p
        | none =>
          if ∃ s ∈ listing.filter ScanStatus.isInconsistent, s.groupId = id then
            .problem .inconsistent
          else .healthy) := by
  have hconsistent := consistent_register settings (a.evidence settings)
  have hpasses := exists_judge_eq_ok_iff.mp ⟨r, h⟩
  rw [crossValidate_eq_ok_iff] at hpasses
  obtain rfl := eq_of_judge_eq_ok h
  rw [total_flagInconsistent hconsistent fun id => (hpasses.2 id).mp] at hid
  rw [Registry.classificationOf_eq, standing_flagInconsistent hconsistent,
    hconsistent.problemOf_eq, standing_register_of_mem hid, listing_evidence hlisting]
  cases (resident (a.evidence settings)).find? (·.groupId == id) with
  | some c => simp [Classification.ofProblem?]
  | none =>
    cases (a.contributions settings id).getLast? with
    | some p => simp [Classification.ofProblem?]
    | none =>
      dsimp only
      split
      case isTrue hfailed => rw [if_pos hfailed.2]; rfl
      case isFalse hfailed =>
        rw [if_neg fun hscan => hfailed ⟨rfl, hscan⟩]
        rfl

/-- There is a verdict on every copyset as soon as the copysets are listed. -/
theorem exists_verdict {listing : List ScanStatus} (hlisting : a.copysets = .value listing) :
    ∃ c, Verdict settings a id c := by
  cases hfound : (resident (a.evidence settings)).find? (·.groupId == id) with
  | some c =>
    obtain ⟨address, record, hleaderless, hsmallest, hfirst, -⟩ :=
      find?_resident_eq_some_iff.mp hfound
    exact ⟨_, .leaderless hleaderless hsmallest hfirst⟩
  | none =>
    have hnone := find?_resident_eq_none_iff.mp hfound
    cases hlast : (a.contributions settings id).getLast? with
    | some p => exact ⟨_, .contributed hnone hlast⟩
    | none =>
      have hempty := List.getLast?_eq_none_iff.mp hlast
      by_cases hscan : ∃ s ∈ listing, s.groupId = id ∧ s.isInconsistent
      · obtain ⟨s, hs, hid, hfailed⟩ := hscan
        exact ⟨_, .inconsistent hnone hempty hlisting hs hid hfailed⟩
      · exact ⟨_, .healthy hnone hempty hlisting fun s hs hid hfailed =>
          hscan ⟨s, hs, hid, hfailed⟩⟩

/-- The verdict on an observed copyset is its class after a favourable judgement. -/
theorem Verdict.classificationOf_eq {r : Registry} {c : Classification}
    (hverdict : Verdict settings a id c) (h : judge settings (a.evidence settings) = .ok r)
    {listing : List ScanStatus} (hlisting : a.copysets = .value listing) (hid : id ∈ r.total) :
    r.classificationOf id = some c := by
  rw [classificationOf_judge h hlisting hid]
  cases hverdict with
  | leaderless hleaderless hsmallest hfirst =>
    rw [find?_resident_eq_some_iff.mpr ⟨_, _, hleaderless, hsmallest, hfirst, rfl⟩]
    have hrecord := List.find?_some hfirst
    rw [Bool.and_eq_true, beq_iff_eq] at hrecord
    simp only [leaderlessProblem, hrecord.1]
  | contributed hnone hlast =>
    rw [find?_resident_eq_none_iff.mpr hnone, hlast]
  | @inconsistent others s hnone hempty hothers hs hsid hscan =>
    obtain rfl : others = listing := Outcome.value.inj (hothers.symm.trans hlisting)
    have hfailed : ∃ s ∈ others.filter ScanStatus.isInconsistent, s.groupId = id :=
      ⟨s, List.mem_filter.mpr ⟨hs, hscan⟩, hsid⟩
    rw [find?_resident_eq_none_iff.mpr hnone, hempty]
    exact congrArg some (if_pos hfailed)
  | @healthy others hnone hempty hothers hscan =>
    obtain rfl : others = listing := Outcome.value.inj (hothers.symm.trans hlisting)
    have hpassed : ¬∃ s ∈ others.filter ScanStatus.isInconsistent, s.groupId = id := by
      rintro ⟨s, hs, hsid⟩
      exact hscan s (List.mem_of_mem_filter hs) hsid (List.mem_filter.mp hs).2
    rw [find?_resident_eq_none_iff.mpr hnone, hempty]
    exact congrArg some (if_neg hpassed)

end

/-- **The verdict on every copyset.** In the registry of a health check that succeeds, with a
gateway that may change while it runs, a copyset has a class exactly if that is its verdict. -/
theorem inspect_verdict {settings : CheckSettings} {gateway : Nat → Gateway} {start taken : Nat}
    {r : Registry} (h : (inspect settings gateway).run start = (.value r, taken)) {id : GroupId}
    (hid : id ∈ r.total) (c : Classification) :
    r.classificationOf id = some c ↔
      Verdict settings (.during settings gateway start) id c := by
  have hcourse := courses_inspect settings gateway start
  rw [h] at hcourse
  obtain ⟨hcomplete, -, hjudge⟩ := hcourse.of_value
  obtain ⟨listing, hlisting⟩ := hcomplete.listing
  constructor
  · intro hclass
    obtain ⟨d, hverdict⟩ := exists_verdict hlisting
    have hverdictClass := hverdict.classificationOf_eq hjudge hlisting hid
    rw [hclass, Option.some.injEq] at hverdictClass
    exact hverdictClass ▸ hverdict
  · intro hverdict
    exact hverdict.classificationOf_eq hjudge hlisting hid

/-- A cluster of two servers: one cannot be asked, and the other one has lost a leader. -/
def brokenCluster : Gateway where
  servers := .now (.ok [⟨"10.0.0.2:8200", .offline⟩, ⟨"10.0.0.1:8200", .online⟩])
  assignments _ := .now (.ok [⟨1, 7⟩, ⟨2, 9⟩])
  members _ copysets := .now (.ok (copysets.map fun copyset =>
    ⟨copyset, [⟨"10.0.0.1", 8200⟩, ⟨"10.0.0.2", 8200⟩]⟩))
  copysets := .now (.ok [⟨1, 7, 0, true⟩, ⟨2, 9, 5, false⟩])
  raftStatus address := .now (if address = "10.0.0.1:8200" then
      .ok [.ofList [("groupId", "4294967303"), ("state", "FOLLOWER"),
        ("peers", "10.0.0.1:8200:0 10.0.0.2:8200:0 10.0.0.3:8200:0")]]
    else .error (.unreachable address))

/-- The peers of the lost leader decide over what is known of the server that cannot be asked. -/
theorem inspect_verdict_brokenCluster : ∃ r taken,
    (inspect {} fun _ => brokenCluster).run 0 = (.value r, taken) ∧ .pack 1 7 ∈ r.total ∧
      Verdict {} (.during {} (fun _ => brokenCluster) 0) (.pack 1 7)
        (.problem .majorityPeerOffline) := by
  have hclass : ((inspect {} fun _ => brokenCluster).run 0).1.value?.bind
      (·.classificationOf (.pack 1 7)) = some (.problem .majorityPeerOffline) := by
    decide +kernel
  cases hrun : (inspect {} fun _ => brokenCluster).run 0 with
  | mk result taken =>
    rw [hrun] at hclass
    cases result with
    | fault f => cases hclass
    | panic => cases hclass
    | value r =>
      have hid : .pack 1 7 ∈ r.total :=
        (r.isSome_classificationOf _).mp (Option.isSome_iff_exists.mpr ⟨_, hclass⟩)
      exact ⟨r, taken, rfl, hid, (inspect_verdict hrun hid _).mp hclass⟩

end CopysetWatch.Check
