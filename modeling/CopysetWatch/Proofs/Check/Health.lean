import CopysetWatch.Proofs.Check.Standing
import CopysetWatch.Proofs.Check.Verdict
import CopysetWatch.Proofs.Registry.PlainMap

/-!
# Healthy copysets

Nothing makes a copyset healthy but that nothing is told against it. Where a leader reports it, this
comes to what one would expect of health: every record of a leader passes all tests. Where no leader
reports it, nobody has vouched for it, and the main statement says what is left: followers that know
a leader or do not belong to their server any more, or a membership without members.
-/

namespace CopysetWatch.Check

namespace Answers

variable (settings : CheckSettings) (a : Answers) (id : GroupId)

/-- A listed server reports a record of a copyset in time. -/
def HasRecord (record : Raft.Record) : Prop :=
  record.groupId = id ∧ ∃ address ∈ a.addresses,
    record ∈ (a.testimony settings address).recordList

/-- An unreachable server should hold a copyset, with members that are hosted like this. -/
def Hosts (hosted : Hosted) : Prop :=
  hosted.groupId = id ∧ ∃ address, a.IsUnreachable settings address ∧
    hosted ∈ a.hosted settings address

/-- Nothing is told against a copyset: its leaders' records pass all tests, its other records are
those of followers, no follower without a leader belongs to its server, all members of which an
unreachable server is one are on servers that reported the copyset, and no scan of it failed. -/
structure Unblemished : Prop where
  leaders : ∀ record, a.HasRecord settings id record → record.state = .leader →
    InGoodHealth settings (a.reports settings) record
  others : ∀ record, a.HasRecord settings id record → record.state ≠ .leader →
    record.state = .follower
  followers : ∀ address, ¬a.IsLeaderlessOn settings id address
  members : ∀ hosted, a.Hosts settings id hosted → ∀ peer ∈ hosted.peers,
    a.reports settings (serverAddress peer) id
  scans : ∀ listing, a.copysets = .value listing → ∀ s ∈ listing, s.groupId = id →
    ¬s.isInconsistent

end Answers

section

variable {settings : CheckSettings} {a : Answers} {id : GroupId}

/-! ### Contributions that are missing -/

/-- A record contributes nothing if it is that of a leader in good health or of a follower. -/
theorem contribution_eq_none_iff {reports : Reports} {record : Raft.Record} :
    contribution settings reports record = none ↔
      (record.state = .leader → InGoodHealth settings reports record) ∧
        (record.state ≠ .leader → record.state = .follower) := by
  unfold contribution
  cases record.state <;> simp [leaderStanding_eq_none_iff]

/-- A server contributes nothing if none of its records and none of the copysets that it should
hold does. -/
theorem contributionsOf_eq_nil_iff {address : String} :
    a.contributionsOf settings id address = [] ↔
      (∀ record ∈ (a.testimony settings address).recordList, record.groupId = id →
        contribution settings (a.reports settings) record = none) ∧
      (a.testimony settings address = .unreachable →
        ∀ hosted ∈ a.hosted settings address, hosted.groupId = id →
          peerStanding (a.reports settings) id hosted.peers = none) := by
  unfold Answers.contributionsOf
  cases htold : a.testimony settings address with
  | unreachable =>
    simp only [List.filterMap_eq_nil_iff, List.mem_filter, beq_iff_eq, Testimony.recordList,
      List.not_mem_nil, false_imp_iff, implies_true, true_and, true_imp_iff, and_imp]
    constructor
    · rintro h hosted hmem rfl
      exact h hosted hmem rfl
    · rintro h hosted hmem rfl
      exact h hosted hmem rfl
  | silent => simp [Testimony.recordList]
  | records rs => simp [Testimony.recordList, List.filterMap_eq_nil_iff]

/-- Nothing is contributed about a copyset if all its records and all its memberships are in
order. -/
theorem contributions_eq_nil_iff : a.contributions settings id = [] ↔
    (∀ record, a.HasRecord settings id record →
      contribution settings (a.reports settings) record = none) ∧
    (∀ hosted, a.Hosts settings id hosted →
      peerStanding (a.reports settings) id hosted.peers = none) := by
  simp only [Answers.contributions, List.flatMap_eq_nil_iff, mem_distinct,
    contributionsOf_eq_nil_iff]
  constructor
  · intro h
    constructor
    · rintro record ⟨hid, address, haddress, hrecord⟩
      exact (h address haddress).1 record hrecord hid
    · rintro hosted ⟨hid, address, ⟨haddress, htold⟩, hhosted⟩
      exact (h address haddress).2 htold hosted hhosted hid
  · rintro ⟨hrecords, hhosts⟩ address haddress
    exact ⟨fun record hrecord hid => hrecords record ⟨hid, address, haddress, hrecord⟩,
      fun htold hosted hhosted hid => hhosts hosted ⟨hid, address, ⟨haddress, htold⟩, hhosted⟩⟩

/-! ### Copysets without a problem -/

/-- A copyset is unblemished if nothing decides against it in any of the three passes. -/
theorem unblemished_iff {listing : List ScanStatus} (hlisting : a.copysets = .value listing) :
    a.Unblemished settings id ↔ (∀ address, ¬a.IsLeaderlessOn settings id address) ∧
      a.contributions settings id = [] ∧
      ¬∃ s ∈ listing.filter ScanStatus.isInconsistent, s.groupId = id := by
  rw [contributions_eq_nil_iff]
  simp only [contribution_eq_none_iff, peerStanding_eq_none_iff]
  constructor
  · rintro ⟨hleaders, hothers, hfollowers, hmembers, hscans⟩
    refine ⟨hfollowers, ⟨fun record hrecord => ?_, hmembers⟩, ?_⟩
    · exact ⟨hleaders record hrecord, hothers record hrecord⟩
    · rintro ⟨s, hs, hid⟩
      obtain ⟨hlisted, hfailed⟩ := List.mem_filter.mp hs
      exact hscans listing hlisting s hlisted hid hfailed
  · rintro ⟨hfollowers, ⟨hrecords, hmembers⟩, hscans⟩
    refine ⟨fun record hrecord => (hrecords record hrecord).1,
      fun record hrecord => (hrecords record hrecord).2, hfollowers, hmembers, ?_⟩
    intro other hother s hs hid hfailed
    obtain rfl : other = listing := Outcome.value.inj (hother.symm.trans hlisting)
    exact hscans ⟨s, List.mem_filter.mpr ⟨hs, hfailed⟩, hid⟩

/-- An observed copyset is healthy after a favourable judgement if it is unblemished. -/
theorem classificationOf_judge_eq_healthy_iff {r : Registry}
    (h : judge settings (a.evidence settings) = .ok r) {listing : List ScanStatus}
    (hlisting : a.copysets = .value listing) (hid : id ∈ r.total) :
    r.classificationOf id = some .healthy ↔ a.Unblemished settings id := by
  rw [classificationOf_judge h hlisting hid, unblemished_iff hlisting,
    ← find?_resident_eq_none_iff, ← List.getLast?_eq_none_iff]
  cases (resident (a.evidence settings)).find? (·.groupId == id) with
  | some c => simp
  | none =>
    cases (a.contributions settings id).getLast? with
    | some p => simp
    | none =>
      by_cases hscan : ∃ s ∈ listing.filter ScanStatus.isInconsistent, s.groupId = id
      · rw [if_pos hscan]
        constructor
        · intro hclass
          cases hclass
        · rintro ⟨-, -, hpassed⟩
          exact absurd hscan hpassed
      · rw [if_neg hscan]
        exact ⟨fun _ => ⟨rfl, rfl, hscan⟩, fun _ => rfl⟩

/-- A registry is healthy if all its copysets are. -/
theorem isHealthy_iff_forall_healthy {r : Registry} (h : r.Consistent) :
    r.isHealthy ↔ ∀ id ∈ r.total, r.classificationOf id = some .healthy := by
  have hmap : r.Represents r.classificationOf := ⟨h, fun _ => rfl⟩
  rw [hmap.isHealthy_iff]
  constructor
  · intro hnone id hid
    obtain ⟨c, hc⟩ := Option.isSome_iff_exists.mp ((r.isSome_classificationOf id).mpr hid)
    rw [Registry.classificationOf_eq] at hc
    obtain ⟨s, hs, rfl⟩ := Option.map_eq_some_iff.mp hc
    cases s with
    | none => rw [Registry.classificationOf_eq, hs]; rfl
    | some p =>
      have hp : r.classificationOf id = some (.problem p) := by
        rw [Registry.classificationOf_eq, hs]
        rfl
      exact absurd hp (hnone id p)
  · intro hall id p hp
    have hid : id ∈ r.total := (r.isSome_classificationOf id).mp (by rw [hp]; rfl)
    rw [hall id hid] at hp
    cases hp

/-- Where no leader reports an unblemished copyset that was observed, followers report it, or it
has no members on any server that should hold it. -/
theorem Answers.Unblemished.unled (h : a.Unblemished settings id)
    (hobserved : a.Observes settings id)
    (hunled : ∀ record, a.HasRecord settings id record → record.state ≠ .leader) :
    (∃ record, a.HasRecord settings id record ∧ record.state = .follower) ∨
      ∃ hosted, a.Hosts settings id hosted ∧ hosted.peers = [] := by
  cases hobserved with
  | reported address haddress record hrecord hid =>
    have hhas : a.HasRecord settings id record := ⟨hid, address, haddress, hrecord⟩
    exact .inl ⟨record, hhas, h.others record hhas (hunled record hhas)⟩
  | rebuilt address haddress hosted hhosted hid =>
    have hhosts : a.Hosts settings id hosted := ⟨hid, address, haddress, hhosted⟩
    cases hpeers : hosted.peers with
    | nil => exact .inr ⟨hosted, hhosts, hpeers⟩
    | cons peer rest =>
      -- The server of the first member reported the copyset.
      have honline := h.members hosted hhosts peer (hpeers ▸ List.mem_cons_self)
      rw [Answers.reports, Bool.and_eq_true, List.any_eq_true] at honline
      obtain ⟨hlisted, record, hrecord, hsame⟩ := honline
      have hhas : a.HasRecord settings id record :=
        ⟨beq_iff_eq.mp hsame, _, List.contains_iff_mem.mp hlisted, hrecord⟩
      exact .inl ⟨record, hhas, h.others record hhas (hunled record hhas)⟩

end

/-- **Healthy copysets.** In the registry of a health check that succeeds, a copyset is healthy
exactly if it is observed and nothing is told against it, and the registry is healthy exactly if all
its copysets are. A healthy copyset that leaders report is one for which all their records pass the
tests of a leader; one that no leader reports is reported by followers alone, or has no members. -/
theorem inspect_healthy {settings : CheckSettings} {gateway : Nat → Gateway} {start taken : Nat}
    {r : Registry} (h : (inspect settings gateway).run start = (.value r, taken)) :
    let a := Answers.during settings gateway start
    (∀ id, r.classificationOf id = some .healthy ↔ id ∈ r.total ∧ a.Unblemished settings id) ∧
      (r.isHealthy ↔ ∀ id ∈ r.total, r.classificationOf id = some .healthy) ∧
      ∀ id, r.classificationOf id = some .healthy →
        (∀ record, a.HasRecord settings id record → record.state = .leader →
          leaderStanding settings (a.reports settings) record = none ∧
            InGoodHealth settings (a.reports settings) record) ∧
        ((∃ record, a.HasRecord settings id record ∧ record.state = .leader) ∨
          (∃ record, a.HasRecord settings id record ∧ record.state = .follower) ∨
          ∃ hosted, a.Hosts settings id hosted ∧ hosted.peers = []) := by
  intro a
  have hcourse := courses_inspect settings gateway start
  rw [h] at hcourse
  obtain ⟨hcomplete, -, hjudge⟩ := hcourse.of_value
  obtain ⟨listing, hlisting⟩ := hcomplete.listing
  have hhealthy : ∀ id, r.classificationOf id = some .healthy ↔
      id ∈ r.total ∧ a.Unblemished settings id := by
    intro id
    by_cases hid : id ∈ r.total
    · simp only [hid, true_and]
      exact classificationOf_judge_eq_healthy_iff hjudge hlisting hid
    · have hnone : r.classificationOf id = none := by
        rw [← Option.not_isSome_iff_eq_none, r.isSome_classificationOf]
        exact hid
      simp [hid, hnone]
  refine ⟨hhealthy, isHealthy_iff_forall_healthy (consistent_and_sameServers_of_judge hjudge).1,
    fun id hid => ?_⟩
  obtain ⟨htotal, hunblemished⟩ := (hhealthy id).mp hid
  constructor
  · intro record hrecord hleader
    have hgood := hunblemished.leaders record hrecord hleader
    exact ⟨leaderStanding_eq_none_iff.mpr hgood, hgood⟩
  · by_cases hled : ∃ record, a.HasRecord settings id record ∧ record.state = .leader
    · exact .inl hled
    · have hobserved : a.Observes settings id := by
        rw [total_judge hjudge] at htotal
        exact mem_total_register.mp htotal
      exact .inr (hunblemished.unled hobserved fun record hrecord hleader =>
        hled ⟨record, hrecord, hleader⟩)

/-- A cluster of one copyset on three servers, whose leader's server may have nothing to report. -/
def trio (reportsLeader : Bool) : Gateway where
  servers := .now (.ok
    [⟨"10.0.0.1:8200", .online⟩, ⟨"10.0.0.2:8200", .online⟩, ⟨"10.0.0.3:8200", .online⟩])
  assignments _ := .now (.ok [⟨1, 7⟩])
  members _ _ := .now (.ok [])
  copysets := .now (.ok [⟨1, 7, 0, true⟩])
  raftStatus address := .now (.ok (
    if address ≠ "10.0.0.1:8200" then
      [.ofList [("groupId", "4294967303"), ("state", "FOLLOWER"), ("leader", "10.0.0.1:8200:0"),
        ("peers", "10.0.0.1:8200:0 10.0.0.2:8200:0 10.0.0.3:8200:0")]]
    else if reportsLeader then
      [.ofList [("groupId", "4294967303"), ("state", "LEADER"), ("last_log_id", "term=1,index=10"),
        ("peers", "10.0.0.1:8200:0 10.0.0.2:8200:0 10.0.0.3:8200:0")]]
    else []))

/-- The copyset of three servers is healthy if its leader reports it, and the leader's record passes
the tests. -/
theorem inspect_healthy_trio : ∃ r taken,
    (inspect {} fun _ => trio true).run 0 = (.value r, taken) ∧ r.isHealthy ∧
      Answers.Unblemished {} (.during {} (fun _ => trio true) 0) (.pack 1 7) := by
  have hclass : ((inspect {} fun _ => trio true).run 0).1.value?.map
      (fun r => (r.isHealthy, r.classificationOf (.pack 1 7))) = some (true, some .healthy) := by
    decide +kernel
  cases hrun : (inspect {} fun _ => trio true).run 0 with
  | mk result taken =>
    rw [hrun] at hclass
    cases result with
    | fault f => cases hclass
    | panic => cases hclass
    | value r =>
      obtain ⟨hhealthy, hid⟩ := Prod.mk.inj (Option.some.inj hclass)
      exact ⟨r, taken, rfl, hhealthy, (((inspect_healthy hrun).1 _).mp hid).2⟩

/-- A copyset whose leader's server has nothing to report is healthy all the same, as long as its
followers know their leader: no record of a leader stands behind it. -/
theorem trio_healthy_without_leader : ∃ r taken,
    (inspect {} fun _ => trio false).run 0 = (.value r, taken) ∧ r.isHealthy ∧
      r.classificationOf (.pack 1 7) = some .healthy ∧
      ¬∃ record, Answers.HasRecord {} (.during {} (fun _ => trio false) 0) (.pack 1 7) record ∧
        record.state = .leader := by
  have hclass : ((inspect {} fun _ => trio false).run 0).1.value?.map
      (fun r => (r.isHealthy, r.classificationOf (.pack 1 7))) = some (true, some .healthy) := by
    decide +kernel
  have hunled : ∀ address ∈ (Answers.during {} (fun _ => trio false) 0).addresses,
      ∀ record ∈ ((Answers.during {} (fun _ => trio false) 0).testimony {} address).recordList,
        record.state ≠ .leader := by
    decide +kernel
  cases hrun : (inspect {} fun _ => trio false).run 0 with
  | mk result taken =>
    rw [hrun] at hclass
    cases result with
    | fault f => cases hclass
    | panic => cases hclass
    | value r =>
      obtain ⟨hhealthy, hid⟩ := Prod.mk.inj (Option.some.inj hclass)
      refine ⟨r, taken, rfl, hhealthy, hid, ?_⟩
      rintro ⟨record, ⟨-, address, haddress, hrecord⟩, hleader⟩
      exact hunled address haddress record hrecord hleader

end CopysetWatch.Check
