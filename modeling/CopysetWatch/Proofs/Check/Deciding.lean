import CopysetWatch.Proofs.Check.Verdict

/-!
# Who decides about a copyset

Of all servers that say something about a copyset, one decides. Where followers have lost their
leader, it is the one on the smallest address; otherwise a later contribution replaces an earlier
one, and it is the one on the greatest address. The listed scans count where nobody says anything.
-/

namespace CopysetWatch.Check

namespace Answers

variable (settings : CheckSettings) (a : Answers) (id : GroupId)

/-- What a server says about a copyset: what its first follower without a leader shows, and, if no
server has any, the last one of its contributions. -/
inductive Asserts (address : String) : Problem → Prop where
  | leaderless {record : Raft.Record} (hleaderless : a.IsLeaderlessOn settings id address)
      (hfirst : a.firstLeaderless settings id address = some record) :
      Asserts address
        (if peerStanding (a.reports settings) id record.peers = some .majorityPeerOffline then
          .majorityPeerOffline else .noLeader)
  | contributed {p : Problem} (haddress : address ∈ a.addresses)
      (hnone : ¬∃ other, a.IsLeaderlessOn settings id other)
      (hlast : (a.contributionsOf settings id address).getLast? = some p) : Asserts address p

/-- A server decides about a copyset: it says something, and no server that says something comes
before it if there are followers without a leader, or behind it if there are none. -/
structure Decides (address : String) (p : Problem) : Prop where
  asserts : a.Asserts settings id address p
  smallest : (∃ other, a.IsLeaderlessOn settings id other) →
    ∀ other q, a.Asserts settings id other q → (compare address other).isLE
  greatest : (¬∃ other, a.IsLeaderlessOn settings id other) →
    ∀ other q, a.Asserts settings id other q → (compare other address).isLE

variable {settings a id}

/-- Only listed servers say anything. -/
theorem Asserts.mem_addresses {address : String} {p : Problem}
    (h : a.Asserts settings id address p) : address ∈ a.addresses := by
  cases h with
  | leaderless hleaderless => exact hleaderless.listed
  | contributed haddress => exact haddress

/-- A server says one thing. -/
theorem Asserts.unique {address : String} {p q : Problem} (hp : a.Asserts settings id address p)
    (hq : a.Asserts settings id address q) : p = q := by
  cases hp with
  | leaderless hleaderless hfirst =>
    cases hq with
    | leaderless _ hfirst' =>
      rw [hfirst] at hfirst'
      cases hfirst'
      rfl
    | contributed _ hnone => exact absurd ⟨address, hleaderless⟩ hnone
  | contributed _ hnone hlast =>
    cases hq with
    | leaderless hleaderless => exact absurd ⟨address, hleaderless⟩ hnone
    | contributed _ _ hlast' => exact Option.some.inj (hlast.symm.trans hlast')

end Answers

section

variable {settings : CheckSettings} {a : Answers} {id : GroupId}

/-- The first candidate that belongs to its server comes from the server that decides. -/
theorem decides_of_find?_resident {c : Candidate}
    (h : (resident (a.evidence settings)).find? (·.groupId == id) = some c) :
    a.Decides settings id c.address (leaderlessProblem (a.reports settings) c) := by
  obtain ⟨address, record, hleaderless, hsmallest, hfirst, rfl⟩ := find?_resident_eq_some_iff.mp h
  have hrecord : record.groupId = id := by
    have hkept := List.find?_some hfirst
    rw [Bool.and_eq_true, beq_iff_eq] at hkept
    exact hkept.1
  refine ⟨?_, fun _ other q hother => ?_, fun hnone => absurd ⟨address, hleaderless⟩ hnone⟩
  · have hasserts := Answers.Asserts.leaderless hleaderless hfirst
    rwa [← hrecord] at hasserts ⊢
  · cases hother with
    | leaderless hother => exact hsmallest other hother
    | contributed _ hnone => exact absurd ⟨address, hleaderless⟩ hnone

/-- Without such a candidate, the last contribution comes from the server that decides. -/
theorem exists_decides_of_contributions {p : Problem}
    (hnone : ¬∃ other, a.IsLeaderlessOn settings id other)
    (h : (a.contributions settings id).getLast? = some p) :
    ∃ address, a.Decides settings id address p := by
  obtain ⟨address, haddress, hlast, hgreatest⟩ :=
    (ascending_distinct a.addresses).exists_of_getLast?_flatMap h
  have hlisted := mem_distinct.mp haddress
  refine ⟨address, .contributed hlisted hnone hlast, fun hsome => absurd hsome hnone,
    fun _ other q hother => ?_⟩
  cases hother with
  | leaderless hother => exact absurd ⟨other, hother⟩ hnone
  | contributed hother _ hsaid =>
    apply hgreatest other (mem_distinct.mpr hother)
    rintro hempty
    rw [hempty] at hsaid
    cases hsaid

/-- Where nothing is contributed, and no follower is without a leader, nobody says anything. -/
theorem not_asserts_of_contributions (hnone : ¬∃ other, a.IsLeaderlessOn settings id other)
    (h : a.contributions settings id = []) (address : String) (p : Problem) :
    ¬a.Asserts settings id address p := by
  intro hasserts
  cases hasserts with
  | leaderless hleaderless => exact hnone ⟨address, hleaderless⟩
  | contributed haddress _ hlast =>
    have hempty := List.flatMap_eq_nil_iff.mp h address (mem_distinct.mpr haddress)
    rw [hempty] at hlast
    cases hlast

/-- The class of an observed copyset is the problem that the deciding server says, and follows from
the scans where nobody says anything. -/
theorem classificationOf_judge_cases {r : Registry}
    (h : judge settings (a.evidence settings) = .ok r) {listing : List ScanStatus}
    (hlisting : a.copysets = .value listing) (hid : id ∈ r.total) :
    (∃ address p, a.Decides settings id address p ∧
      r.classificationOf id = some (.problem p)) ∨
    ((∀ address p, ¬a.Asserts settings id address p) ∧ r.classificationOf id = some
      (if ∃ s ∈ listing.filter ScanStatus.isInconsistent, s.groupId = id then
        .problem .inconsistent else .healthy)) := by
  rw [classificationOf_judge h hlisting hid]
  cases hfound : (resident (a.evidence settings)).find? (·.groupId == id) with
  | some c => exact .inl ⟨c.address, _, decides_of_find?_resident hfound, rfl⟩
  | none =>
    have hnone := not_exists.mpr (find?_resident_eq_none_iff.mp hfound)
    cases hlast : (a.contributions settings id).getLast? with
    | some p =>
      obtain ⟨address, hdecides⟩ := exists_decides_of_contributions hnone hlast
      exact .inl ⟨address, p, hdecides, rfl⟩
    | none =>
      have hempty := List.getLast?_eq_none_iff.mp hlast
      exact .inr ⟨not_asserts_of_contributions hnone hempty, rfl⟩

end

end CopysetWatch.Check
