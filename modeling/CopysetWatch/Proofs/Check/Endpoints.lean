import CopysetWatch.Proofs.Check.Availability
import CopysetWatch.Proofs.Text.Numerals

/-!
# Endpoints as peers

The metadata service names an endpoint by its address, and a leader puts a raft index behind it.
Both notations are taken for the same server, even for an ip that contains colons itself. But only
for an ip without any is this the server under the endpoint's address: a second colon counts as the
one in front of a raft index, so that the port, and some of the ip, are cut off with it.
-/

namespace CopysetWatch

namespace PeerEndpoint

/-- An endpoint as a leader names it, its address with a raft index behind it. -/
def raftPeer (e : PeerEndpoint) (index : String) : String :=
  e.address ++ ":" ++ index

variable (e : PeerEndpoint)

/-- The address of an endpoint has one more colon than its ip. -/
theorem count_colon_address : e.address.toList.count ':' = e.ip.toList.count ':' + 1 := by
  have hport : ':' ∉ e.port.toNat.repr.toList := by
    intro hcolon
    have hdigit := Text.isDigit_of_mem_repr hcolon
    revert hdigit
    decide
  have hcolon : ":".toList.count ':' = 1 := by decide
  rw [address, String.toList_append, String.toList_append, List.count_append, List.count_append,
    hcolon, List.count_eq_zero.mpr hport]

/-- The address of an endpoint has a colon in front of the port. -/
theorem mem_colon_address : ':' ∈ e.address.toList :=
  List.count_pos_iff.mp (e.count_colon_address ▸ Nat.succ_pos _)

/-- A raft index does not change for which server an endpoint is taken. -/
theorem serverAddress_raftPeer (index : String) :
    serverAddress (e.raftPeer index) = serverAddress e.address := by
  have hparts : e.raftPeer index = .ofList (e.address.toList ++ ':' :: index.toList) := by
    rw [← String.toList_inj]
    simp [raftPeer]
  rw [hparts, serverAddress_append_of_mem e.mem_colon_address]

/-- An endpoint is taken for the server under its address if its ip has no colon. -/
theorem serverAddress_address_iff : serverAddress e.address = e.address ↔ ':' ∉ e.ip.toList := by
  have hone : IsAddress e.address ↔ ':' ∉ e.ip.toList := by
    rw [isAddress_iff_count_eq_one, count_colon_address, Nat.add_eq_right, List.count_eq_zero]
  rw [← hone]
  exact ⟨fun h => h ▸ isAddress_serverAddress e.mem_colon_address, IsAddress.serverAddress_eq⟩

end PeerEndpoint

namespace Check

/-- One more peer counts if its server did not report the copyset. -/
theorem offlineCount_cons (reports : Reports) (id : GroupId) (peer : String) (peers : List String) :
    offlineCount reports id (peer :: peers) =
      offlineCount reports id peers + if reports (serverAddress peer) id then 0 else 1 := by
  rw [offlineCount_eq_countP, offlineCount_eq_countP, List.map_cons, List.countP_cons]
  cases reports (serverAddress peer) id <;> rfl

/-- **Two notations, one server.** With a raft index or without, an endpoint is taken for the same
server, and any peers have the same standing with it in either notation. The server is the one under
the address of the endpoint exactly if the ip has no colon, and only then the endpoint counts as
offline, in both notations, just if the server under its address did not report the copyset. -/
theorem serverAddress_of_notations (e : PeerEndpoint) :
    (∀ index, serverAddress (e.raftPeer index) = serverAddress e.address) ∧
    (∀ (r : Registry) (id : GroupId) (index : String) (before behind : List String),
      peerStanding r.isReportedOn id (before ++ e.raftPeer index :: behind) =
        peerStanding r.isReportedOn id (before ++ e.address :: behind)) ∧
    ((serverAddress e.address = e.address ∧
      ∀ index, serverAddress (e.raftPeer index) = e.address) ↔ ':' ∉ e.ip.toList) ∧
    ((∀ (r : Registry) (id : GroupId) (index : String) (others : List String),
      ∀ peer ∈ [e.address, e.raftPeer index],
        offlineCount r.isReportedOn id (peer :: others) =
          offlineCount r.isReportedOn id others + if r.isReportedOn e.address id then 0 else 1) ↔
      ':' ∉ e.ip.toList) := by
  refine ⟨e.serverAddress_raftPeer, fun r id index before behind => ?alike, ?server, ?counted⟩
  case alike =>
    apply peerStanding_of_perm
    rw [List.map_append, List.map_append, List.map_cons, List.map_cons, e.serverAddress_raftPeer]
  case server =>
    simp only [e.serverAddress_raftPeer, forall_const, and_self, e.serverAddress_address_iff]
  case counted =>
    rw [← e.serverAddress_address_iff]
    constructor
    · intro hcounted
      -- Only the server under the address reports the copyset, so the peer is taken for this one.
      let r := Registry.empty.setReported e.address [⟨0⟩]
      have hreported (address : String) : r.isReportedOn address ⟨0⟩ ↔ address = e.address := by
        simp [r, Registry.isReportedOn, Registry.setReported, Registry.empty]
      have honline := hcounted r ⟨0⟩ "" [] e.address List.mem_cons_self
      rw [offlineCount_cons, Nat.add_left_cancel_iff, if_pos ((hreported _).mpr rfl)] at honline
      by_contra hother
      rw [if_neg (mt (hreported _).mp hother)] at honline
      cases honline
    · intro hserver r id index others peer hpeer
      have htaken : serverAddress peer = e.address := by
        rcases List.mem_pair.mp hpeer with rfl | rfl
        · exact hserver
        · rw [e.serverAddress_raftPeer, hserver]
      rw [offlineCount_cons, htaken]

/-- A chunk server on an ip with colons. -/
def loopback : PeerEndpoint :=
  ⟨"[::1]", 8200⟩

/-- A registry in which that chunk server reported a copyset. -/
def reportedByLoopback : Registry :=
  Registry.empty.setReported "[::1]:8200" [.pack 1 7]

/-- The endpoint is not taken for the server under its address and counts as offline, although this
server reported the copyset. -/
theorem loopback_offline_though_reported :
    loopback.address = "[::1]:8200" ∧ serverAddress loopback.address = "[:" ∧
      serverAddress (loopback.raftPeer "0") = "[:" ∧
      reportedByLoopback.isReportedOn loopback.address (.pack 1 7) ∧
      peerStanding reportedByLoopback.isReportedOn (.pack 1 7) [loopback.address] =
        some .majorityPeerOffline ∧
      peerStanding reportedByLoopback.isReportedOn (.pack 1 7) [loopback.raftPeer "0"] =
        some .majorityPeerOffline := by
  decide +kernel

end Check

end CopysetWatch
