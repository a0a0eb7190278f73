import CopysetWatch.Proofs.Check.Register
import Mathlib.Data.List.Perm.Subperm

/-!
# Success and failure of a health check

A health check observes the copysets that servers report in time and those that the unreachable
servers should hold. It succeeds exactly if everything is told that has to be told and the listed
copysets are the observed ones, each listed once. If everything is told and it fails all the same,
the fault says how the two differ.
-/

namespace CopysetWatch.Check

/-- A copyset is observed if a server reports it in time, or if it is one of those that an
unreachable server should hold. -/
inductive Answers.Observes (settings : CheckSettings) (a : Answers) (id : GroupId) : Prop where
  | reported (address : String) (haddress : address ∈ a.addresses) (record : Raft.Record)
      (hrecord : record ∈ (a.testimony settings address).recordList) (hid : record.groupId = id)
  | rebuilt (address : String) (haddress : a.IsUnreachable settings address) (hosted : Hosted)
      (hhosted : hosted ∈ a.hosted settings address) (hid : hosted.groupId = id)

/-! ### The observed copysets -/

section

variable {settings : CheckSettings} {a : Answers}

theorem mem_testimonies_evidence {entry : String × Testimony} :
    entry ∈ (a.evidence settings).testimonies ↔
      entry.1 ∈ a.addresses ∧ entry.2 = a.testimony settings entry.1 := by
  obtain ⟨address, testimony⟩ := entry
  simp only [Answers.evidence, oneEach, List.mem_map, mem_distinct, Prod.mk.injEq]
  constructor
  · rintro ⟨_, haddress, rfl, rfl⟩
    exact ⟨haddress, rfl⟩
  · rintro ⟨haddress, rfl⟩
    exact ⟨address, haddress, rfl, rfl⟩

/-- The notes about a server are about the copysets that it reports, or about those that it should
hold if it cannot be asked. -/
theorem exists_mem_notesOf_iff {address : String} (haddress : address ∈ a.addresses)
    {id : GroupId} :
    (∃ note ∈ notesOf settings (a.evidence settings) (address, a.testimony settings address),
      note.groupId = id) ↔
    (∃ record ∈ (a.testimony settings address).recordList, record.groupId = id) ∨
      (a.testimony settings address = .unreachable ∧
        ∃ hosted ∈ a.hosted settings address, hosted.groupId = id) := by
  unfold notesOf
  cases htold : a.testimony settings address with
  | unreachable =>
    rw [hostedBy_evidence ⟨haddress, htold⟩]
    simp [noteOfHosted, Testimony.recordList]
  | silent => simp [Testimony.recordList]
  | records rs => simp [noteOfRecord, Testimony.recordList]

/-- A copyset is observed if some listed server reports it in time, or should hold it and cannot be
asked. -/
theorem observes_iff_exists {id : GroupId} : a.Observes settings id ↔ ∃ address ∈ a.addresses,
    (∃ record ∈ (a.testimony settings address).recordList, record.groupId = id) ∨
      (a.IsUnreachable settings address ∧
        ∃ hosted ∈ a.hosted settings address, hosted.groupId = id) := by
  constructor
  · rintro (⟨address, haddress, record, hrecord, hid⟩ | ⟨address, haddress, hosted, hhosted, hid⟩)
    · exact ⟨address, haddress, .inl ⟨record, hrecord, hid⟩⟩
    · exact ⟨address, haddress.1, .inr ⟨haddress, hosted, hhosted, hid⟩⟩
  · rintro ⟨address, haddress, ⟨record, hrecord, hid⟩ | ⟨hunreachable, hosted, hhosted, hid⟩⟩
    · exact .reported address haddress record hrecord hid
    · exact .rebuilt address hunreachable hosted hhosted hid

/-- There is a note about each observed copyset, and about no other one. -/
theorem exists_note_iff {id : GroupId} :
    (∃ note ∈ notes settings (a.evidence settings), note.groupId = id) ↔
      a.Observes settings id := by
  simp only [notes, List.mem_flatMap, mem_testimonies_evidence, observes_iff_exists]
  constructor
  · rintro ⟨note, ⟨⟨address, testimony⟩, ⟨haddress, htestimony⟩, hnote⟩, hid⟩
    dsimp only at haddress htestimony
    subst htestimony
    refine ⟨address, haddress, ?_⟩
    rcases (exists_mem_notesOf_iff haddress).mp ⟨note, hnote, hid⟩ with hreported | hhosted
    · exact .inl hreported
    · exact .inr ⟨⟨haddress, hhosted.1⟩, hhosted.2⟩
  · rintro ⟨address, haddress, hsource⟩
    have hnoted : (∃ record ∈ (a.testimony settings address).recordList, record.groupId = id) ∨
        (a.testimony settings address = .unreachable ∧
          ∃ hosted ∈ a.hosted settings address, hosted.groupId = id) :=
      hsource.imp_right fun hhosted => ⟨hhosted.1.2, hhosted.2⟩
    obtain ⟨note, hnote, hid⟩ := (exists_mem_notesOf_iff haddress).mpr hnoted
    exact ⟨note, ⟨(address, _), ⟨haddress, rfl⟩, hnote⟩, hid⟩

/-- A follower without a leader that still belongs to its server is observed. -/
theorem observes_of_mem_resident {c : Candidate} (h : c ∈ resident (a.evidence settings)) :
    a.Observes settings c.groupId := by
  obtain ⟨entry, hentry, hc⟩ := List.mem_flatMap.mp (List.mem_of_mem_filter h)
  obtain ⟨record, hrecord, rfl⟩ := List.mem_map.mp hc
  obtain ⟨haddress, htestimony⟩ := mem_testimonies_evidence.mp hentry
  have hreported := List.mem_of_mem_filter hrecord
  rw [htestimony] at hreported
  exact .reported entry.1 haddress record hreported rfl

/-- The registry has entered exactly the observed copysets. -/
theorem mem_total_register {id : GroupId} :
    id ∈ (register settings (a.evidence settings)).total ↔ a.Observes settings id := by
  rw [Registry.mem_total_iff, standing_register]
  cases hfound : (resident (a.evidence settings)).find? (·.groupId == id) with
  | some c =>
    have hc : c.groupId = id := by simpa using List.find?_some hfound
    simpa using hc ▸ observes_of_mem_resident (List.mem_of_find?_eq_some hfound)
  | none =>
    dsimp only
    rw [foldl_afterNote, ← exists_note_iff]
    split
    case isTrue hnone =>
      rw [List.filter_eq_nil_iff] at hnone
      simpa using hnone
    case isFalse hsome =>
      rw [List.filter_eq_nil_iff] at hsome
      simpa using hsome

end

/-! ### Comparing the observed copysets with the listed ones -/

/-- The group ids of a listing. -/
def listedIds (listing : List ScanStatus) : List GroupId :=
  listing.map ScanStatus.groupId

theorem ascending_missing (r : Registry) (listing : List ScanStatus) :
    Ascending (missing r listing) :=
  (ascending_toList _).filter _

theorem mem_missing {r : Registry} {listing : List ScanStatus} {id : GroupId} :
    id ∈ missing r listing ↔ id ∈ listedIds listing ∧ id ∉ r.total := by
  simp [missing, listedIds, Registry.total, ← Std.ExtTreeSet.contains_iff_mem]

theorem ascending_unexpected (r : Registry) (listing : List ScanStatus) :
    Ascending (unexpected r listing) :=
  (ascending_toList _).filter _

theorem mem_unexpected {r : Registry} {listing : List ScanStatus} {id : GroupId} :
    id ∈ unexpected r listing ↔ id ∈ r.total ∧ id ∉ listedIds listing := by
  simp [unexpected, listedIds]

/-- Nothing is missing and nothing unexpected if the listed copysets are those of the registry. -/
theorem missing_unexpected_eq_nil_iff {r : Registry} {listing : List ScanStatus} :
    missing r listing = [] ∧ unexpected r listing = [] ↔
      ∀ id, id ∈ listedIds listing ↔ id ∈ r.total := by
  simp only [List.eq_nil_iff_forall_not_mem, mem_missing, mem_unexpected]
  constructor
  · rintro ⟨hmissing, hunexpected⟩ id
    exact ⟨fun hid => by_contra fun hno => hmissing id ⟨hid, hno⟩,
      fun hid => by_contra fun hno => hunexpected id ⟨hid, hno⟩⟩
  · intro hsame
    exact ⟨fun id hid => hid.2 ((hsame id).mp hid.1), fun id hid => hid.2 ((hsame id).mpr hid.1)⟩

/-- A registry passes the two tests of its count and of its copysets. -/
theorem crossValidate_eq_ok_iff_tests {r : Registry} {listing : List ScanStatus} :
    crossValidate r listing = .ok () ↔ listing.length = r.totalCount ∧
      missing r listing = [] ∧ unexpected r listing = [] := by
  unfold crossValidate
  dsimp only
  split
  case isTrue hcount => simp [hcount]
  case isFalse hcount =>
    rw [not_not] at hcount
    split
    case isTrue hdiffer =>
      simp only [Bool.or_eq_true, Bool.not_eq_true', List.isEmpty_eq_false_iff] at hdiffer
      simp only [reduceCtorEq, false_iff]
      rintro ⟨-, hmissing, hunexpected⟩
      exact hdiffer.elim (· hmissing) (· hunexpected)
    case isFalse hdiffer =>
      simp only [Bool.or_eq_true, Bool.not_eq_true', List.isEmpty_eq_false_iff, not_or,
        not_not] at hdiffer
      exact ⟨fun _ => ⟨hcount, hdiffer⟩, fun _ => rfl⟩

/-- A registry passes if the listed copysets are its own, each listed once. -/
theorem crossValidate_eq_ok_iff {r : Registry} {listing : List ScanStatus} :
    crossValidate r listing = .ok () ↔
      (listedIds listing).Nodup ∧ ∀ id, id ∈ listedIds listing ↔ id ∈ r.total := by
  have hnodup : r.total.Nodup := (ascending_toList r.observed).nodup
  have hlength : (listedIds listing).length = listing.length := List.length_map _
  rw [crossValidate_eq_ok_iff_tests, missing_unexpected_eq_nil_iff, ← hlength, r.totalCount_eq]
  constructor
  · rintro ⟨hcount, hsame⟩
    have hsubperm := hnodup.subperm fun id hid => (hsame id).mpr hid
    exact ⟨(hsubperm.perm_of_length_le (Nat.le_of_eq hcount)).nodup hnodup, hsame⟩
  · rintro ⟨hlisted, hsame⟩
    exact ⟨((List.perm_ext_iff_of_nodup hlisted hnodup).mpr hsame).length_eq, hsame⟩

/-- The fault of a registry that does not pass: one of the counts if they differ, and otherwise one
of the sets. -/
theorem crossValidate_eq_error {r : Registry} {listing : List ScanStatus} {f : Fault}
    (h : crossValidate r listing = .error f) :
    f = if listing.length ≠ r.totalCount then
        .countMismatch listing.length r.totalCount (missing r listing) (unexpected r listing)
      else .setMismatch (missing r listing) (unexpected r listing) := by
  unfold crossValidate at h
  dsimp only at h
  split at h
  case isTrue hcount =>
    rw [if_pos hcount]
    exact (Except.error.inj h).symm
  case isFalse hcount =>
    rw [if_neg hcount]
    split at h
    · exact (Except.error.inj h).symm
    · cases h

/-! ### The outcome of a judgement -/

section

variable {settings : CheckSettings} {e : Evidence}

/-- Evidence is judged favourably if its registry passes. -/
theorem exists_judge_eq_ok_iff :
    (∃ r, judge settings e = .ok r) ↔ crossValidate (register settings e) e.listing = .ok () := by
  unfold judge
  dsimp only
  cases crossValidate (register settings e) e.listing <;> simp

/-- A favourable judgement files the failed scans. -/
theorem eq_of_judge_eq_ok {r : Registry} (h : judge settings e = .ok r) :
    r = flagInconsistent (register settings e) e.listing := by
  unfold judge at h
  dsimp only at h
  split at h
  · cases h
  · exact (Except.ok.inj h).symm

/-- The registry of a favourable judgement has no contradictions, and knows of the servers what
they answered. -/
theorem consistent_and_sameServers_of_judge {r : Registry} (h : judge settings e = .ok r) :
    r.Consistent ∧ r.SameServers (beginning e) := by
  obtain rfl := eq_of_judge_eq_ok h
  exact ⟨consistent_flagInconsistent (consistent_register settings e) e.listing,
    (sameServers_flagInconsistent _ _).trans (sameServers_register settings e)⟩

/-- Evidence is refused with the fault of its registry. -/
theorem crossValidate_of_judge_eq_error {f : Fault} (h : judge settings e = .error f) :
    crossValidate (register settings e) e.listing = .error f := by
  unfold judge at h
  dsimp only at h
  split at h
  case h_1 g hg => rw [hg, Except.error.inj h]
  case h_2 => cases h

/-- Filing the failed scans observes nothing new where all listed copysets were observed. -/
theorem total_flagInconsistent {r : Registry} (h : r.Consistent) {listing : List ScanStatus}
    (hlisted : ∀ id ∈ listedIds listing, id ∈ r.total) :
    (flagInconsistent r listing).total = r.total := by
  apply Ascending.eq_of_mem_iff (ascending_toList _) (ascending_toList _)
  intro id
  change id ∈ (flagInconsistent r listing).total ↔ id ∈ r.total
  rw [Registry.mem_total_iff, standing_flagInconsistent h]
  split
  case isTrue hflagged =>
    obtain ⟨-, s, hs, rfl⟩ := hflagged
    have hid := hlisted s.groupId (List.mem_map_of_mem (List.mem_of_mem_filter hs))
    simp [hid]
  case isFalse => rw [Registry.mem_total_iff]

/-- The registry of a favourable judgement holds the copysets that were registered. -/
theorem total_judge {r : Registry} (h : judge settings e = .ok r) :
    r.total = (register settings e).total := by
  have hpasses := exists_judge_eq_ok_iff.mp ⟨r, h⟩
  rw [crossValidate_eq_ok_iff] at hpasses
  rw [eq_of_judge_eq_ok h]
  exact total_flagInconsistent (consistent_register settings e) fun id => (hpasses.2 id).mp

end

/-- **Success and failure of a health check.** A health check succeeds exactly if everything is told
that has to be told, no judgement overflows, and the listed copysets are the observed ones, each
listed once; its registry then holds the observed copysets. If everything is told and it fails, the
fault is that of the counts where as many copysets are not listed as were observed, and that of the
sets otherwise, with the copysets that are listed and not observed, and those that are observed and
not listed; and it unwinds exactly if a judgement overflows. If something is not told, it fails with
a fault that it was given, or it unwinds. -/
theorem inspect_outcome (settings : CheckSettings) (gateway : Nat → Gateway) (start : Nat) :
    let a := Answers.during settings gateway start
    let outcome := ((inspect settings gateway).run start).1
    ∃ observed : List GroupId, Ascending observed ∧
      (∀ id, id ∈ observed ↔ a.Observes settings id) ∧
      ((∃ r, outcome = .value r) ↔ Complete settings a ∧ ¬a.Overflows settings ∧
        ∃ listing, a.copysets = .value listing ∧ (listedIds listing).Nodup ∧
          ∀ id, id ∈ listedIds listing ↔ id ∈ observed) ∧
      (∀ r, outcome = .value r → r.total = observed) ∧
      (∀ f, outcome = .fault f → Complete settings a →
        ∃ listing missing unexpected, a.copysets = .value listing ∧
          Ascending missing ∧ (∀ id, id ∈ missing ↔ id ∈ listedIds listing ∧ id ∉ observed) ∧
          Ascending unexpected ∧ (∀ id, id ∈ unexpected ↔ id ∈ observed ∧ id ∉ listedIds listing) ∧
          f = if listing.length ≠ observed.length then
              .countMismatch listing.length observed.length missing unexpected
            else .setMismatch missing unexpected) ∧
      (Complete settings a → (outcome = .panic ↔ a.Overflows settings)) ∧
      (¬Complete settings a → (∃ f, outcome = .fault f ∧ Gives settings a f) ∨
        outcome = .panic ∧ Unwinds settings a) := by
  intro a outcome
  have hcourse : Courses settings a outcome := courses_inspect settings gateway start
  let r := register settings (a.evidence settings)
  refine ⟨r.total, ascending_toList _, fun id => mem_total_register, ?_, ?_, ?_,
    hcourse.eq_panic_iff, ?_⟩
  · constructor
    · rintro ⟨q, hq⟩
      rw [hq] at hcourse
      obtain ⟨hcomplete, hfits, hjudge⟩ := hcourse.of_value
      obtain ⟨listing, hlisting⟩ := hcomplete.listing
      have hpasses := exists_judge_eq_ok_iff.mp ⟨q, hjudge⟩
      rw [listing_evidence hlisting, crossValidate_eq_ok_iff] at hpasses
      exact ⟨hcomplete, hfits, listing, hlisting, hpasses⟩
    · rintro ⟨hcomplete, hfits, listing, hlisting, hpasses⟩
      rw [← crossValidate_eq_ok_iff, ← listing_evidence hlisting] at hpasses
      obtain ⟨q, hq⟩ := exists_judge_eq_ok_iff.mpr hpasses
      exact ⟨q, by rw [hcourse.eq_judge hcomplete hfits, hq, Outcome.ofExcept_ok]⟩
  · intro q hq
    rw [hq] at hcourse
    obtain ⟨-, -, hjudge⟩ := hcourse.of_value
    exact total_judge hjudge
  · intro f hf hcomplete
    rw [hf] at hcourse
    have hfits : ¬a.Overflows settings := fun hoverflows => by
      cases (hcourse.eq_panic_iff hcomplete).mpr hoverflows
    have hjudge := hcourse.eq_judge hcomplete hfits
    obtain ⟨listing, hlisting⟩ := hcomplete.listing
    have hrefused := crossValidate_of_judge_eq_error (Outcome.ofExcept_eq_fault_iff.mp hjudge.symm)
    rw [listing_evidence hlisting] at hrefused
    have hfault := crossValidate_eq_error hrefused
    rw [Registry.totalCount_eq] at hfault
    exact ⟨listing, missing r listing, unexpected r listing, hlisting,
      ascending_missing r listing, fun id => mem_missing,
      ascending_unexpected r listing, fun id => mem_unexpected, hfault⟩
  · intro hincomplete
    rcases hcourse.cases with ⟨hcomplete, -⟩ | hfault | hunwinds
    · exact absurd hcomplete hincomplete
    · exact .inl hfault
    · exact .inr hunwinds

/-- A cluster of one server, whose leader says of a follower that it will be sent an entry next that
no signed word of 64 bits can number. -/
def runawayCluster : Gateway where
  servers := .now (.ok [⟨"10.0.0.1:8200", .online⟩])
  assignments _ := .now (.ok [⟨1, 7⟩])
  members _ _ := .now (.ok [])
  copysets := .now (.ok [⟨1, 7, 0, true⟩])
  raftStatus _ := .now (.ok [.ofList [("groupId", "4294967303"), ("state", "LEADER"),
    ("peers", "10.0.0.1:8200:0"), ("last_log_id", "term=3,index=5000"),
    ("replicator_1", "next_index=9223372036854775808 flying_append_entries_size=0")]])

/-- Everything is told of this cluster, and what is listed is what is observed, but the check
unwinds. -/
theorem inspect_runaway :
    let settings : CheckSettings := { replicationFactor := 1 }
    let a := Answers.during settings (fun _ => runawayCluster) 0
    Complete settings a ∧
      (∃ listing, a.copysets = .value listing ∧ (listedIds listing).Nodup ∧
        ∀ id, id ∈ listedIds listing ↔ a.Observes settings id) ∧
      ((inspect settings fun _ => runawayCluster).run 0).1 = .panic := by
  intro settings a
  have htold : a.testimony settings "10.0.0.1:8200" ≠ .unreachable ∧
      ∀ record ∈ (a.testimony settings "10.0.0.1:8200").recordList,
        ¬record.isLeaderlessFollower := by decide +kernel
  have hcomplete : Complete settings a := {
    servers := ⟨_, rfl⟩
    rebuilt := fun address haddress => by
      obtain rfl : address = "10.0.0.1:8200" := List.mem_singleton.mp haddress.1
      exact absurd haddress.2 htold.1
    placement := fun address haddress => by
      obtain rfl : address = "10.0.0.1:8200" := List.mem_singleton.mp haddress.1
      obtain ⟨record, hrecord, hleaderless⟩ := haddress.2
      exact absurd hleaderless (htold.2 record hrecord)
    listing := ⟨_, rfl⟩ }
  have hobserved : (register settings (a.evidence settings)).total =
      listedIds [⟨1, 7, 0, true⟩] := by decide +kernel
  refine ⟨hcomplete, ⟨_, rfl, by decide +kernel, fun id => ?_⟩, ?_⟩
  · rw [← mem_total_register, hobserved]
  · rw [← Outcome.returned?_eq_none_iff, ← Option.isNone_iff_eq_none]
    decide +kernel

end CopysetWatch.Check
