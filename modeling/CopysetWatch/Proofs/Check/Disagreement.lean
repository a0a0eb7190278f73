import CopysetWatch.Proofs.Check.Outcome

/-!
# What a fault of consistency names

A health check that is refused names copysets on which the metadata service and the chunk servers
disagree. It counts the listed copysets one by one, though, and names those that are in only one of
two sets. So a fault of consistency names all copysets in dispute, and none at all exactly if it was
raised only because a copyset is listed twice.
-/

namespace CopysetWatch.Check

/-- The metadata service lists a copyset that was not observed, or fails to list one that was. -/
def Answers.IsDisputed (settings : CheckSettings) (a : Answers) (listing : List ScanStatus)
    (id : GroupId) : Prop :=
  ¬(id ∈ listedIds listing ↔ a.Observes settings id)

section

variable {r : Registry} {listing : List ScanStatus} {f : Fault}

/-- The fault of a registry that does not pass carries what is missing and what is unexpected. -/
theorem offending_of_crossValidate_eq_error (h : crossValidate r listing = .error f) :
    f.offending = missing r listing ++ unexpected r listing := by
  rw [crossValidate_eq_error h]
  split <;> rfl

/-- The fault of a registry that does not pass is one of consistency. -/
theorem isConsistencyFault_of_crossValidate_eq_error (h : crossValidate r listing = .error f) :
    f.isConsistencyFault := by
  rw [crossValidate_eq_error h]
  split <;> rfl

/-- The fault of a registry that does not pass carries the copysets that are either listed or in
the registry. -/
theorem mem_offending_iff (h : crossValidate r listing = .error f) {id : GroupId} :
    id ∈ f.offending ↔ ¬(id ∈ listedIds listing ↔ id ∈ r.total) := by
  rw [offending_of_crossValidate_eq_error h, List.mem_append, mem_missing, mem_unexpected]
  tauto

/-- A registry whose copysets are those of a listing passes unless one is listed repeatedly. -/
theorem not_nodup_of_crossValidate_eq_error (h : crossValidate r listing = .error f)
    (hsame : ∀ id, id ∈ listedIds listing ↔ id ∈ r.total) : ¬(listedIds listing).Nodup := by
  intro hnodup
  rw [crossValidate_eq_ok_iff.mpr ⟨hnodup, hsame⟩] at h
  cases h

end

/-- A course that fails was given its fault, or the observed copysets were not the listed ones. -/
theorem Courses.of_fault {settings : CheckSettings} {a : Answers} {f : Fault}
    (h : Courses settings a (.fault f)) :
    Gives settings a f ∨ ∃ listing, a.copysets = .value listing ∧
      crossValidate (register settings (a.evidence settings)) listing = .error f := by
  rcases h.cases with ⟨hcomplete, -, hjudge⟩ | ⟨g, hg, hgives⟩ | ⟨hpanic, -⟩
  · obtain ⟨listing, hlisting⟩ := hcomplete.listing
    have hrefused := crossValidate_of_judge_eq_error (Outcome.ofExcept_eq_fault_iff.mp hjudge.symm)
    rw [listing_evidence hlisting] at hrefused
    exact .inr ⟨listing, hlisting, hrefused⟩
  · rw [Outcome.fault.inj hg]
    exact .inl hgives
  · cases hpanic

/-- **What a fault of consistency names.** A health check that fails was given its fault, or fails
with a fault of consistency that names exactly the copysets in dispute. It names some if no copyset
is listed repeatedly, and none exactly if a copyset is listed repeatedly and none is in dispute. -/
theorem inspect_offending {settings : CheckSettings} {gateway : Nat → Gateway} {start taken : Nat}
    {f : Fault} (h : (inspect settings gateway).run start = (.fault f, taken)) :
    let a := Answers.during settings gateway start
    Gives settings a f ∨ ∃ listing, a.copysets = .value listing ∧ f.isConsistencyFault ∧
      (∀ id, id ∈ f.offending ↔ a.IsDisputed settings listing id) ∧
      ((listedIds listing).Nodup → f.offending ≠ []) ∧
      (f.offending = [] ↔
        ¬(listedIds listing).Nodup ∧ ∀ id, ¬a.IsDisputed settings listing id) := by
  intro a
  have hcourse := courses_inspect settings gateway start
  rw [h] at hcourse
  rcases hcourse.of_fault with hgives | ⟨listing, hlisting, hrefused⟩
  · exact .inl hgives
  have hnamed : ∀ id, id ∈ f.offending ↔ a.IsDisputed settings listing id := by
    intro id
    rw [mem_offending_iff hrefused, mem_total_register, Answers.IsDisputed]
  -- Where no copyset is in dispute, only the counts are left to differ.
  have hrepeated : f.offending = [] → ¬(listedIds listing).Nodup := by
    intro hnone
    refine not_nodup_of_crossValidate_eq_error hrefused fun id => by_contra fun hdiffer => ?_
    have hid := (mem_offending_iff hrefused).mpr hdiffer
    simp [hnone] at hid
  refine .inr ⟨listing, hlisting, isConsistencyFault_of_crossValidate_eq_error hrefused, hnamed,
    fun hnodup hnone => hrepeated hnone hnodup, ?_⟩
  constructor
  · intro hnone
    exact ⟨hrepeated hnone, fun id hid => by simpa [hnone] using (hnamed id).mpr hid⟩
  · rintro ⟨-, hundisputed⟩
    exact List.eq_nil_iff_forall_not_mem.mpr fun id hid => hundisputed id ((hnamed id).mp hid)

/-- A cluster of one server, which follows another one for a copyset, with some listing. -/
def solo (listing : List ScanStatus) : Gateway where
  servers := .now (.ok [⟨"10.0.0.1:8200", .online⟩])
  assignments _ := .now (.ok [⟨1, 7⟩])
  members _ _ := .now (.ok [])
  copysets := .now (.ok listing)
  raftStatus _ := .now (.ok [.ofList [("groupId", "4294967303"), ("state", "FOLLOWER"),
    ("leader", "10.0.0.2:8200:0"), ("peers", "10.0.0.1:8200:0 10.0.0.2:8200:0")]])

/-- The one server can be asked, and everything else is told at once. -/
theorem complete_solo (listing : List ScanStatus) :
    Complete {} (.during {} (fun _ => solo listing) 0) where
  servers := ⟨_, rfl⟩
  rebuilt address haddress := by
    cases haddress.2
  placement address haddress := ⟨[⟨1, 7⟩], Nat.zero_le _, rfl⟩
  listing := ⟨_, rfl⟩

/-- Where nothing is listed, the fault names the copyset that the server reports. -/
theorem inspect_offending_solo : ∃ f taken,
    (inspect {} fun _ => solo []).run 0 = (.fault f, taken) ∧ f.isConsistencyFault ∧
      f.offending = [.pack 1 7] ∧
      Answers.IsDisputed {} (.during {} (fun _ => solo []) 0) [] (.pack 1 7) := by
  have hrun : (inspect {} fun _ => solo []).run 0 =
      (.fault (.countMismatch 0 1 [] [.pack 1 7]), 0) := rfl
  refine ⟨_, _, hrun, rfl, rfl, ?_⟩
  rcases inspect_offending hrun with hgives | ⟨listing, hlisting, -, hnamed, -⟩
  · exact absurd (complete_solo []) hgives.not_complete
  · obtain rfl := Outcome.value.inj hlisting
    exact (hnamed _).mp (by decide)

/-- Where the copyset that the server reports is listed twice, the check fails with a fault of
consistency that names no copyset at all. -/
theorem solo_refused_for_nothing : ∃ f taken,
    (inspect {} fun _ => solo [⟨1, 7, 0, true⟩, ⟨1, 7, 0, true⟩]).run 0 = (.fault f, taken) ∧
      f.isConsistencyFault ∧ f.offending = [] := by
  have hrun : (inspect {} fun _ => solo [⟨1, 7, 0, true⟩, ⟨1, 7, 0, true⟩]).run 0 =
      (.fault (.countMismatch 2 1 [] []), 0) := rfl
  exact ⟨_, _, hrun, rfl, rfl⟩

end CopysetWatch.Check
