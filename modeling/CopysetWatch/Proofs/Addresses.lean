import CopysetWatch.Cluster
import CopysetWatch.Proofs.Text.Cutting

/-!
# Addresses of chunk servers

An address is an ip and a port with one colon between them. The chunk server of a raft peer is
found by its first two colons, so it is an address as soon as there is one, whatever the peer has
behind it; and a peer that is an address already stands for itself.
-/

namespace CopysetWatch

/-- An ip and a port with the only colon between them. -/
def IsAddress (s : String) : Prop :=
  ∃ ip port : List Char, s.toList = ip ++ ':' :: port ∧ ':' ∉ ip ∧ ':' ∉ port

/-- An address is a text with exactly one colon. -/
theorem isAddress_iff_count_eq_one {s : String} : IsAddress s ↔ s.toList.count ':' = 1 := by
  constructor
  · rintro ⟨ip, port, hparts, hip, hport⟩
    rw [hparts, List.count_append, List.count_cons_self, List.count_eq_zero.mpr hip,
      List.count_eq_zero.mpr hport]
  · intro hcount
    have hmem : ':' ∈ s.toList := List.count_pos_iff.mp (by omega)
    obtain ⟨ip, port, hparts, hip⟩ := List.eq_append_cons_of_mem hmem
    rw [hparts, List.count_append, List.count_cons_self, List.count_eq_zero.mpr hip] at hcount
    exact ⟨ip, port, hparts, hip, List.count_eq_zero.mp (by omega)⟩

instance : DecidablePred IsAddress := fun _ =>
  decidable_of_iff _ isAddress_iff_count_eq_one.symm

/-- Where there is no colon, there is nothing to take away. -/
theorem serverAddress_of_not_mem {peer : String} (h : ':' ∉ peer.toList) :
    serverAddress peer = peer := by
  rw [serverAddress, Text.cut_singleton_of_not_mem h]

namespace IsAddress

/-- An address has a colon. -/
theorem mem_colon {address : String} (h : IsAddress address) : ':' ∈ address.toList := by
  obtain ⟨ip, port, hparts, -, -⟩ := h
  simp [hparts]

/-- The server of an address is the address. -/
theorem serverAddress_eq {address : String} (h : IsAddress address) :
    serverAddress address = address := by
  obtain ⟨ip, port, hparts, hip, hport⟩ := h
  rw [serverAddress, hparts, Text.cut_singleton_append hip]
  dsimp only
  rw [Text.cut_singleton_of_not_mem hport]

/-- The server of a peer is its address, whatever stands behind the next colon. -/
theorem serverAddress_append {address : String} (h : IsAddress address) (behind : List Char) :
    serverAddress (.ofList (address.toList ++ ':' :: behind)) = address := by
  obtain ⟨ip, port, hparts, hip, hport⟩ := h
  rw [serverAddress, String.toList_ofList, hparts, List.append_assoc, List.cons_append,
    Text.cut_singleton_append hip]
  dsimp only
  rw [Text.cut_singleton_append hport]
  dsimp only
  rw [← hparts, String.ofList_toList]

end IsAddress

/-- A peer with a colon is an address with nothing behind it, or with another colon and what
follows. -/
theorem exists_address_of_mem {peer : String} (h : ':' ∈ peer.toList) :
    ∃ address, IsAddress address ∧
      (peer = address ∨ ∃ behind, peer = .ofList (address.toList ++ ':' :: behind)) := by
  obtain ⟨ip, rest, hpeer, hip⟩ := List.eq_append_cons_of_mem h
  by_cases hrest : ':' ∈ rest
  · obtain ⟨port, behind, rfl, hport⟩ := List.eq_append_cons_of_mem hrest
    have haddress : (String.ofList (ip ++ ':' :: port)).toList = ip ++ ':' :: port :=
      String.toList_ofList
    refine ⟨_, ⟨ip, port, haddress, hip, hport⟩, .inr ⟨behind, ?_⟩⟩
    rw [haddress, List.append_assoc, List.cons_append, ← hpeer, String.ofList_toList]
  · exact ⟨peer, ⟨ip, rest, hpeer, hip, hrest⟩, .inl rfl⟩

/-- The server of a peer with a colon is an address. -/
theorem isAddress_serverAddress {peer : String} (h : ':' ∈ peer.toList) :
    IsAddress (serverAddress peer) := by
  obtain ⟨address, haddress, rfl | ⟨behind, rfl⟩⟩ := exists_address_of_mem h
  · rwa [haddress.serverAddress_eq]
  · rwa [haddress.serverAddress_append]

/-- A peer with a colon is on the same server with anything behind another colon. -/
theorem serverAddress_append_of_mem {peer : String} (h : ':' ∈ peer.toList)
    (behind : List Char) :
    serverAddress (.ofList (peer.toList ++ ':' :: behind)) = serverAddress peer := by
  obtain ⟨address, haddress, rfl | ⟨further, rfl⟩⟩ := exists_address_of_mem h
  · rw [haddress.serverAddress_append, haddress.serverAddress_eq]
  · rw [String.toList_ofList, List.append_assoc, List.cons_append, haddress.serverAddress_append,
      haddress.serverAddress_append]

/-! ### Other names for the servers -/

/-- Other names for addresses, each address under a name of its own. -/
structure Renames (σ : String → String) : Prop where
  isAddress : ∀ {address}, IsAddress address → IsAddress (σ address)
  injective : ∀ {first second}, IsAddress first → IsAddress second → σ first = σ second →
    first = second

/-- A raft peer whose server has another name; what stands behind the address is kept. -/
def renamePeer (σ : String → String) (peer : String) : String :=
  if ':' ∈ peer.toList then
    .ofList ((σ (serverAddress peer)).toList ++
      peer.toList.drop (serverAddress peer).toList.length)
  else peer

/-- An address is renamed as a whole. -/
theorem IsAddress.renamePeer_eq {address : String} (h : IsAddress address)
    (σ : String → String) : renamePeer σ address = σ address := by
  rw [renamePeer, if_pos h.mem_colon, h.serverAddress_eq, List.drop_length, List.append_nil,
    String.ofList_toList]

/-- What stands behind an address is kept. -/
theorem IsAddress.renamePeer_append {address : String} (h : IsAddress address)
    (σ : String → String) (behind : List Char) :
    renamePeer σ (.ofList (address.toList ++ ':' :: behind)) =
      .ofList ((σ address).toList ++ ':' :: behind) := by
  have hcolon : ':' ∈ (String.ofList (address.toList ++ ':' :: behind)).toList := by
    simp
  rw [renamePeer, if_pos hcolon, h.serverAddress_append, String.toList_ofList, List.drop_left]

/-- The server of a renamed peer is the server of the peer, renamed. -/
theorem serverAddress_renamePeer {σ : String → String} (hσ : Renames σ) {peer : String}
    (h : ':' ∈ peer.toList) : serverAddress (renamePeer σ peer) = σ (serverAddress peer) := by
  obtain ⟨address, haddress, rfl | ⟨behind, rfl⟩⟩ := exists_address_of_mem h
  · rw [haddress.renamePeer_eq, haddress.serverAddress_eq,
      (hσ.isAddress haddress).serverAddress_eq]
  · rw [haddress.renamePeer_append, haddress.serverAddress_append,
      (hσ.isAddress haddress).serverAddress_append]

end CopysetWatch
