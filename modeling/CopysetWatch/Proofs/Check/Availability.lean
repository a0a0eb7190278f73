import CopysetWatch.Proofs.Addresses
import CopysetWatch.Proofs.Check.Standing
import Mathlib.Data.List.Forall2

/-!
# Availability of peers

A peer is offline if its server did not report the copyset, and peers are judged by how many of them
are. The main statement is the verdict for lists of any length, in which a peer may stand more than
once: nothing is wrong if no peer is offline, the majority is offline if more than half of the peers
are, and otherwise a minority is. Neither the order of the peers nor the notation of their addresses
matters, and a verdict never gets worse with more reports.
-/

namespace CopysetWatch.Check

section

variable {reports later : Reports} {id : GroupId} {peers others : List String}

/-! ### Offline peers -/

/-- How many peers are offline follows from their servers. -/
theorem offlineCount_eq_countP (reports : Reports) (id : GroupId) (peers : List String) :
    offlineCount reports id peers =
      (peers.map serverAddress).countP fun server => !reports server id := by
  rw [offlineCount, ← List.countP_eq_length_filter, List.countP_map]
  rfl

/-- With more reports, no more peers are offline. -/
theorem offlineCount_le_of_reports (h : ∀ address, reports address id → later address id)
    (peers : List String) : offlineCount later id peers ≤ offlineCount reports id peers := by
  rw [offlineCount_eq_countP, offlineCount_eq_countP]
  refine List.countP_mono_left fun server _ hoffline => ?_
  have hmissing : later server id ≠ true := by simpa using hoffline
  simpa using fun hreported => hmissing (h server hreported)

/-! ### Verdicts -/

/-- Peers show nothing but how many of them are offline. -/
theorem eq_or_eq_of_peerStanding_eq_some {p : Problem}
    (h : peerStanding reports id peers = some p) :
    p = .minorityPeerOffline ∨ p = .majorityPeerOffline := by
  unfold peerStanding at h
  split at h
  · cases h
  · split at h
    · exact .inl (Option.some.inj h).symm
    · exact .inr (Option.some.inj h).symm

/-- Peers show nothing if none of them is offline. -/
theorem peerStanding_eq_none_iff_offlineCount :
    peerStanding reports id peers = none ↔ offlineCount reports id peers = 0 := by
  rw [peerStanding_eq_none_iff, offlineCount, List.length_eq_zero_iff, List.filter_eq_nil_iff]
  simp

/-- The majority is offline if more than half of the peers are. -/
theorem peerStanding_eq_majority_iff :
    peerStanding reports id peers = some .majorityPeerOffline ↔
      peers.length < 2 * offlineCount reports id peers := by
  unfold peerStanding
  split
  · simp only [reduceCtorEq, false_iff]
    omega
  · split
    · simp only [Option.some.injEq, reduceCtorEq, false_iff]
      omega
    · simp only [true_iff]
      omega

/-- A minority is offline if some peers are, but no more than half of them. -/
theorem peerStanding_eq_minority_iff :
    peerStanding reports id peers = some .minorityPeerOffline ↔
      0 < offlineCount reports id peers ∧ 2 * offlineCount reports id peers ≤ peers.length := by
  unfold peerStanding
  split
  · simp only [reduceCtorEq, false_iff]
    omega
  · split
    · simp only [true_iff]
      omega
    · simp only [Option.some.injEq, reduceCtorEq, false_iff]
      omega

/-- Peers on the same servers have the same standing, in whatever order and notation. -/
theorem peerStanding_of_perm
    (h : (peers.map serverAddress).Perm (others.map serverAddress)) :
    peerStanding reports id peers = peerStanding reports id others := by
  have hcount : offlineCount reports id peers = offlineCount reports id others := by
    rw [offlineCount_eq_countP, offlineCount_eq_countP, h.countP_eq]
  have hlength : peers.length = others.length := by simpa using h.length_eq
  unfold peerStanding
  rw [hcount, hlength]

end

/-! ### Notations of a peer -/

/-- A peer as it may be written instead: an address may get a raft index behind it. -/
inductive MayIndex : String → String → Prop
  | same (peer : String) : MayIndex peer peer
  | indexed {address : String} (h : IsAddress address) (index : String) :
      MayIndex address (address ++ ":" ++ index)

/-- A raft index does not move a peer to another server. -/
theorem MayIndex.serverAddress_eq {peer other : String} (h : MayIndex peer other) :
    serverAddress other = serverAddress peer := by
  cases h with
  | same => rfl
  | indexed haddress index =>
    have hparts : peer ++ ":" ++ index = .ofList (peer.toList ++ ':' :: index.toList) := by
      rw [← String.toList_inj]
      simp
    rw [hparts, haddress.serverAddress_append, haddress.serverAddress_eq]

/-- Peers that are written in another way are on the same servers. -/
theorem map_serverAddress_of_mayIndex {peers others : List String}
    (h : List.Forall₂ MayIndex peers others) :
    others.map serverAddress = peers.map serverAddress := by
  induction h with
  | nil => rfl
  | cons hpeer _ ih => rw [List.map_cons, List.map_cons, hpeer.serverAddress_eq, ih]

/-- **Availability of peers.** Of a list of peers in which `offline` of the entries are on servers
that did not report the copyset, nothing is wrong if there is none of these, the majority is offline
if they are more than half of the entries, and otherwise a minority is. The verdict is the same for
the peers in another order and with or without raft indices, and once there are more reports, peers
that were fine stay so, and of peers with a minority offline the majority does not go offline. -/
theorem peerStanding_verdict (r : Registry) (id : GroupId) (peers : List String) :
    let offline := peers.countP fun peer => !r.isReportedOn (serverAddress peer) id
    (peerStanding r.isReportedOn id peers = none ↔ offline = 0) ∧
    (peerStanding r.isReportedOn id peers = some .majorityPeerOffline ↔
      peers.length < 2 * offline) ∧
    (peerStanding r.isReportedOn id peers = some .minorityPeerOffline ↔
      0 < offline ∧ 2 * offline ≤ peers.length) ∧
    (∀ others : List String, others.Perm peers →
      peerStanding r.isReportedOn id others = peerStanding r.isReportedOn id peers) ∧
    (∀ others : List String, List.Forall₂ MayIndex peers others →
      peerStanding r.isReportedOn id others = peerStanding r.isReportedOn id peers) ∧
    ∀ later : Registry,
      (∀ address group, r.isReportedOn address group → later.isReportedOn address group) →
      (peerStanding r.isReportedOn id peers = none →
        peerStanding later.isReportedOn id peers = none) ∧
      (peerStanding r.isReportedOn id peers = some .minorityPeerOffline →
        peerStanding later.isReportedOn id peers ≠ some .majorityPeerOffline) := by
  intro offline
  have hoffline : offlineCount r.isReportedOn id peers = offline :=
    List.countP_eq_length_filter.symm
  refine ⟨?none, ?majority, ?minority, fun others hperm => ?order,
    fun others hindexed => ?indexed, fun later hmore => ?more⟩
  case none => rw [peerStanding_eq_none_iff_offlineCount, hoffline]
  case majority => rw [peerStanding_eq_majority_iff, hoffline]
  case minority => rw [peerStanding_eq_minority_iff, hoffline]
  case order => exact peerStanding_of_perm (hperm.map serverAddress)
  case indexed => exact peerStanding_of_perm (.of_eq (map_serverAddress_of_mayIndex hindexed))
  case more =>
    have hfewer := offlineCount_le_of_reports (fun address => hmore address id) peers
    constructor
    · rw [peerStanding_eq_none_iff_offlineCount, peerStanding_eq_none_iff_offlineCount]
      omega
    · rw [peerStanding_eq_minority_iff, ne_eq, peerStanding_eq_majority_iff]
      omega

/-- A registry in which two of three servers reported a copyset. -/
def reportedByTwo : Registry :=
  (Registry.empty.setReported "10.0.0.1:8200" [.pack 1 7]).setReported "10.0.0.2:8200" [.pack 1 7]

/-- Four entries for three servers, the last of which stands twice. -/
def quartet : List String :=
  ["10.0.0.1:8200", "10.0.0.2:8200", "10.0.0.3:8200", "10.0.0.3:8200"]

/-- The same entries, two of them with a raft index. -/
def indexedQuartet : List String :=
  ["10.0.0.1:8200:0", "10.0.0.2:8200", "10.0.0.3:8200", "10.0.0.3:8200" ++ ":" ++ "2"]

/-- Two of four entries are no majority yet, in reverse order and with raft indices as well, and
nothing is wrong once the last server has reported the copyset. -/
theorem peerStanding_verdict_quartet :
    quartet.reverse.Perm quartet ∧ List.Forall₂ MayIndex quartet indexedQuartet ∧
      peerStanding reportedByTwo.isReportedOn (.pack 1 7) quartet = some .minorityPeerOffline ∧
      peerStanding reportedByTwo.isReportedOn (.pack 1 7) quartet.reverse =
        some .minorityPeerOffline ∧
      peerStanding reportedByTwo.isReportedOn (.pack 1 7) indexedQuartet =
        some .minorityPeerOffline ∧
      peerStanding (reportedByTwo.setReported "10.0.0.3:8200" [.pack 1 7]).isReportedOn (.pack 1 7)
        quartet ≠ some .majorityPeerOffline := by
  obtain ⟨-, -, hminority, horder, hindexed, hmore⟩ :=
    peerStanding_verdict reportedByTwo (.pack 1 7) quartet
  have hquartet := hminority.mpr (by decide)
  have hperm : quartet.reverse.Perm quartet := List.reverse_perm quartet
  have hindex : List.Forall₂ MayIndex quartet indexedQuartet := by
    have hfirst : IsAddress "10.0.0.1:8200" := by decide
    have hlast : IsAddress "10.0.0.3:8200" := by decide
    exact .cons (.indexed hfirst "0") (.cons (.same _) (.cons (.same _)
      (.cons (.indexed hlast "2") .nil)))
  have hreports : ∀ address group, reportedByTwo.isReportedOn address group →
      (reportedByTwo.setReported "10.0.0.3:8200" [.pack 1 7]).isReportedOn address group := by
    intro address group hreported
    by_cases haddress : address = "10.0.0.3:8200"
    · subst haddress
      simp [reportedByTwo, Registry.isReportedOn, Registry.setReported, Registry.empty] at hreported
    · simpa [Registry.isReportedOn, Registry.setReported, haddress] using hreported
  refine ⟨hperm, hindex, hquartet, (horder _ hperm).trans hquartet,
    (hindexed _ hindex).trans hquartet, (hmore _ hreports).2 hquartet⟩

end CopysetWatch.Check
