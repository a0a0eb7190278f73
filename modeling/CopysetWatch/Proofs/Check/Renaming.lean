import CopysetWatch.Proofs.Check.Deciding
import CopysetWatch.Proofs.Check.Outcome
import CopysetWatch.Proofs.Raft.Renaming
import CopysetWatch.Proofs.Registry.PlainMap
import Mathlib.Data.List.Forall2

/-!
# A cluster under other names

Two health checks see the same cluster, but its servers have other names for the second one. What
every server says about a copyset is the same for both. The names matter all the same, since their
order decides who has the last word: a copyset has the same class for both checks unless two
servers say different things about it and change places.
-/

namespace CopysetWatch

/-! ### Lists in step -/

section

variable {α β γ : Type} {R : α → β → Prop} {l : List α} {l' : List β}

/-- What is left of two lists in step is the same if it is for each two entries. -/
theorem filterMap_eq_of_forall₂ (h : List.Forall₂ R l l') {f : α → Option γ} {g : β → Option γ}
    (hfg : ∀ a b, R a b → g b = f a) : l'.filterMap g = l.filterMap f := by
  induction h with
  | nil => rfl
  | cons hab _ ih => rw [List.filterMap_cons, List.filterMap_cons, hfg _ _ hab, ih]

/-- Of two lists in step, both have an entry of a kind or none. -/
theorem exists_mem_iff_of_forall₂ (h : List.Forall₂ R l l') {P : α → Prop} {Q : β → Prop}
    (hPQ : ∀ a b, R a b → (Q b ↔ P a)) : (∃ b ∈ l', Q b) ↔ ∃ a ∈ l, P a := by
  induction h with
  | nil => simp
  | cons hab _ ih => rw [List.exists_mem_cons_iff, List.exists_mem_cons_iff, hPQ _ _ hab, ih]

/-- What is found in two lists in step stands at the same place. -/
theorem rel_find?_of_forall₂ (h : List.Forall₂ R l l') {p : α → Bool} {q : β → Bool}
    (hpq : ∀ a b, R a b → q b = p a) : Option.Rel R (l.find? p) (l'.find? q) := by
  induction h with
  | nil => exact .none
  | @cons a b _ _ hab _ ih =>
    rw [List.find?_cons, List.find?_cons, hpq a b hab]
    cases p a with
    | true => exact .some hab
    | false => exact ih

end

namespace Check

open Raft (Record RenamedFields RenamedRecord)

/-! ### Standing under other names -/

/-- Who reported what is told of the same servers by other names. -/
def SameReports (σ : String → String) (reports reports' : Reports) : Prop :=
  ∀ peer id, reports' (serverAddress (renamePeer σ peer)) id = reports (serverAddress peer) id

namespace SameReports

variable {σ : String → String} {reports reports' : Reports}

/-- As many peers are offline. -/
theorem offlineCount (h : SameReports σ reports reports') (id : GroupId) (peers : List String) :
    offlineCount reports' id (peers.map (renamePeer σ)) = offlineCount reports id peers := by
  simp only [Check.offlineCount, List.filter_map, List.length_map, Function.comp_def, h _ id]

/-- The peers show the same problem. -/
theorem peerStanding (h : SameReports σ reports reports') (id : GroupId) (peers : List String) :
    peerStanding reports' id (peers.map (renamePeer σ)) = peerStanding reports id peers := by
  rw [Check.peerStanding, Check.peerStanding, h.offlineCount, List.length_map]

/-- A leader's record shows the same problem. -/
theorem leaderStanding (h : SameReports σ reports reports') {settings : CheckSettings}
    {record record' : Record} (hrecord : RenamedRecord σ record record') :
    leaderStanding settings reports' record' = leaderStanding settings reports record := by
  rw [Check.leaderStanding, Check.leaderStanding, hrecord.peers, hrecord.groupId,
    hrecord.lastLogId, hrecord.replicators, h.peerStanding, List.length_map]

/-- A record contributes the same problem. -/
theorem contribution (h : SameReports σ reports reports') {settings : CheckSettings}
    {record record' : Record} (hrecord : RenamedRecord σ record record') :
    contribution settings reports' record' = contribution settings reports record := by
  rw [Check.contribution, Check.contribution, hrecord.state, h.leaderStanding hrecord]

end SameReports

/-! ### What is told under other names -/

/-- The members of a copyset on the same hosts by other names. -/
structure RenamedMembers (σ : String → String) (members members' : Members) : Prop where
  copyset : members'.copyset = members.copyset
  peers : members'.peers.map PeerEndpoint.address =
    (members.peers.map PeerEndpoint.address).map (renamePeer σ)

/-- A hosted copyset on the same hosts by other names. -/
structure RenamedHosted (σ : String → String) (hosted hosted' : Hosted) : Prop where
  groupId : hosted'.groupId = hosted.groupId
  peers : hosted'.peers = hosted.peers.map (renamePeer σ)

/-- Testimonies that name the same servers by other names. -/
inductive RenamedTestimony (σ : String → String) : Testimony → Testimony → Prop where
  | unreachable : RenamedTestimony σ .unreachable .unreachable
  | silent : RenamedTestimony σ .silent .silent
  | records {rs rs' : List Record} (h : List.Forall₂ (RenamedRecord σ) rs rs') :
      RenamedTestimony σ (.records rs) (.records rs')

/-- Two checks are told the same of a cluster whose servers have other names for the second one:
the listed servers are addresses, their answers in time and their memberships name all servers by
the other names, and the placements and the listed copysets are the same. -/
structure Answers.Renamed (settings : CheckSettings) (σ : String → String) (a b : Answers) :
    Prop where
  isAddress : ∀ address ∈ a.addresses, IsAddress address
  addresses : ∀ address, address ∈ b.addresses ↔ ∃ former ∈ a.addresses, σ former = address
  raftStatus : ∀ address ∈ a.addresses, Option.Rel (List.Forall₂ (RenamedFields σ))
    (Gather.arrival settings.raftTimeout a.raftStatus address).result.toOption
    (Gather.arrival settings.raftTimeout b.raftStatus (σ address)).result.toOption
  assignments : ∀ address ∈ a.addresses,
    (b.assignments (σ address)).ending = (a.assignments address).ending
  members : ∀ address ∈ a.addresses, ∀ group, Option.Rel (List.Forall₂ (RenamedMembers σ))
    (a.membersOf address group).ending.result.toOption
    (b.membersOf (σ address) group).ending.result.toOption
  copysets : b.copysets = a.copysets

/-- An answer under other names gives a testimony under other names. -/
theorem renamedTestimony_ofAnswer {σ : String → String}
    {answer answer' : Except Fault (List Raft.Fields)}
    (h : Option.Rel (List.Forall₂ (RenamedFields σ)) answer.toOption answer'.toOption) :
    RenamedTestimony σ (.ofAnswer answer) (.ofAnswer answer') := by
  cases answer with
  | error f =>
    cases answer' with
    | error f' => exact .unreachable
    | ok fields' => cases h
  | ok fields =>
    cases answer' with
    | error f' => cases h
    | ok fields' =>
      obtain ⟨hfields⟩ : Option.Rel _ (some fields) (some fields') := h
      have hrecords : List.Forall₂ (RenamedRecord σ)
          (fields.filterMap fun fields => (Record.parse fields).toOption)
          (fields'.filterMap fun fields => (Record.parse fields).toOption) :=
        List.rel_filterMap (fun _ _ h => h.parse) hfields
      unfold Testimony.ofAnswer
      dsimp only
      generalize fields.filterMap _ = rs at hrecords ⊢
      generalize fields'.filterMap _ = rs' at hrecords ⊢
      cases hrecords with
      | nil => exact .silent
      | cons hrecord hrest => exact .records (.cons hrecord hrest)

/-- The records of testimonies under other names are in step. -/
theorem RenamedTestimony.recordList {σ : String → String} {t t' : Testimony}
    (h : RenamedTestimony σ t t') :
    List.Forall₂ (RenamedRecord σ) t.recordList t'.recordList := by
  cases h with
  | unreachable => exact .nil
  | silent => exact .nil
  | records h => exact h

namespace Answers.Renamed

variable {settings : CheckSettings} {σ : String → String} {a b : Answers}

/-! ### What servers report and hold under other names -/

/-- A server gives the same testimony under its other name. -/
theorem testimony (h : a.Renamed settings σ b) {address : String}
    (haddress : address ∈ a.addresses) :
    RenamedTestimony σ (a.testimony settings address) (b.testimony settings (σ address)) :=
  renamedTestimony_ofAnswer (h.raftStatus address haddress)

/-- A listed server is listed under its other name. -/
theorem mem_addresses (h : a.Renamed settings σ b) {address : String}
    (haddress : address ∈ a.addresses) : σ address ∈ b.addresses :=
  (h.addresses (σ address)).mpr ⟨address, haddress, rfl⟩

/-- The second check knows of some listed server what the first one knows of a server under its
former name. -/
theorem exists_mem_addresses_iff (h : a.Renamed settings σ b) {P Q : String → Prop}
    (hPQ : ∀ address ∈ a.addresses, (Q (σ address) ↔ P address)) :
    (∃ address ∈ b.addresses, Q address) ↔ ∃ address ∈ a.addresses, P address := by
  constructor
  · rintro ⟨_, hlisted, hQ⟩
    obtain ⟨former, hformer, rfl⟩ := (h.addresses _).mp hlisted
    exact ⟨former, hformer, (hPQ former hformer).mp hQ⟩
  · rintro ⟨address, hlisted, hP⟩
    exact ⟨σ address, h.mem_addresses hlisted, (hPQ address hlisted).mpr hP⟩

/-- A server is listed if it is listed under its other name. -/
theorem mem_addresses_iff (hσ : Renames σ) (h : a.Renamed settings σ b) {address : String}
    (haddress : IsAddress address) : σ address ∈ b.addresses ↔ address ∈ a.addresses := by
  rw [h.addresses]
  constructor
  · rintro ⟨former, hformer, hsame⟩
    rwa [← hσ.injective (h.isAddress former hformer) haddress hsame]
  · intro hlisted
    exact ⟨address, hlisted, rfl⟩

/-- A server reports the same copysets under its other name. -/
theorem reports_eq (hσ : Renames σ) (h : a.Renamed settings σ b) {address : String}
    (haddress : IsAddress address) (id : GroupId) :
    b.reports settings (σ address) id = a.reports settings address id := by
  rw [Bool.eq_iff_iff]
  simp only [Answers.reports, Bool.and_eq_true, List.contains_iff_mem, List.any_eq_true, beq_iff_eq]
  rw [h.mem_addresses_iff hσ haddress]
  refine and_congr_right fun hlisted => ?_
  apply exists_mem_iff_of_forall₂ (h.testimony hlisted).recordList
  intro record record' hrecord
  rw [hrecord.groupId]

/-- The peers of every copyset are as much online under their other names. -/
theorem sameReports (hσ : Renames σ) (h : a.Renamed settings σ b) :
    SameReports σ (a.reports settings) (b.reports settings) := by
  intro peer id
  by_cases hpeer : ':' ∈ peer.toList
  · rw [serverAddress_renamePeer hσ hpeer]
    exact h.reports_eq hσ (isAddress_serverAddress hpeer) id
  · -- Such a peer keeps its name, and no server has it.
    have hnot {c : Answers} (hc : ∀ address ∈ c.addresses, IsAddress address) :
        c.reports settings (serverAddress peer) id = false := by
      rw [Answers.reports, Bool.and_eq_false_iff]
      left
      rw [← Bool.not_eq_true, List.contains_iff_mem, serverAddress_of_not_mem hpeer]
      exact fun hlisted => hpeer (hc peer hlisted).mem_colon
    have hrenamed : ∀ address ∈ b.addresses, IsAddress address := by
      intro address haddress
      obtain ⟨former, hformer, rfl⟩ := (h.addresses address).mp haddress
      exact hσ.isAddress (h.isAddress former hformer)
    rw [renamePeer, if_neg hpeer, hnot h.isAddress, hnot hrenamed]

/-- A server that cannot be asked cannot be asked under its other name. -/
theorem isUnreachable (h : a.Renamed settings σ b) {address : String}
    (haddress : address ∈ a.addresses) :
    b.IsUnreachable settings (σ address) ↔ a.IsUnreachable settings address := by
  have htestimony := h.testimony haddress
  simp only [Answers.IsUnreachable, haddress, h.mem_addresses haddress, true_and]
  generalize a.testimony settings address = t at htestimony ⊢
  generalize b.testimony settings (σ address) = t' at htestimony ⊢
  cases htestimony with
  | unreachable => simp
  | silent => simp
  | records => simp

/-- A server that cannot be asked should hold the same copysets under its other name. -/
theorem hosted (h : a.Renamed settings σ b) (ha : Complete settings a)
    (hb : Complete settings b) {address : String} (haddress : a.IsUnreachable settings address) :
    List.Forall₂ (RenamedHosted σ) (a.hosted settings address)
      (b.hosted settings (σ address)) := by
  obtain ⟨locations, hending, htold⟩ := ha.rebuilt address haddress
  obtain ⟨locations', hending', htold'⟩ := hb.rebuilt _ ((h.isUnreachable haddress.1).mpr haddress)
  have hsame := h.assignments address haddress.1
  obtain rfl : locations' = locations := by
    rw [hending, hending'] at hsame
    cases hsame
    rfl
  unfold Answers.hosted
  rw [hending, hending']
  have hpools : List.Forall₂ (fun group group' => group' = group ∧ group ∈ byPool locations')
      (byPool locations') (byPool locations') :=
    List.forall₂_same.mpr fun group hgroup => ⟨rfl, hgroup⟩
  refine List.rel_flatMap hpools ?_
  rintro _ group ⟨rfl, hgroup⟩
  obtain ⟨members, hmembers⟩ := htold group hgroup
  obtain ⟨members', hmembers'⟩ := htold' group hgroup
  have hrenamed := h.members address haddress.1 group
  rw [hmembers.2, hmembers'.2] at hrenamed
  obtain ⟨hrenamed⟩ : Option.Rel _ (some members) (some members') := hrenamed
  dsimp only
  rw [Gather.told_eq hmembers, Gather.told_eq hmembers', hostedIn, hostedIn,
    List.forall₂_map_left_iff, List.forall₂_map_right_iff]
  exact hrenamed.imp fun m m' hm => ⟨by rw [hm.copyset], hm.peers⟩

/-- The metadata service places a server with candidates where it places it under its other name. -/
theorem placed (h : a.Renamed settings σ b) (ha : Complete settings a) (hb : Complete settings b)
    {address : String} (haddress : a.IsCandidate settings address)
    (haddress' : b.IsCandidate settings (σ address)) :
    b.placed settings (σ address) = a.placed settings address := by
  obtain ⟨locations, hlocations⟩ := ha.placement address haddress
  obtain ⟨locations', hlocations'⟩ := hb.placement (σ address) haddress'
  have hsame := h.assignments address haddress.1
  rw [hlocations.2, hlocations'.2, Outcome.value.injEq] at hsame
  rw [Answers.placed, Answers.placed, Gather.told_eq hlocations, Gather.told_eq hlocations', hsame]

/-! ### What servers say under other names -/

/-- The same copysets are observed. -/
theorem observes_iff (h : a.Renamed settings σ b) (ha : Complete settings a)
    (hb : Complete settings b) (id : GroupId) :
    b.Observes settings id ↔ a.Observes settings id := by
  rw [observes_iff_exists, observes_iff_exists]
  apply h.exists_mem_addresses_iff
  intro address haddress
  apply or_congr
  · apply exists_mem_iff_of_forall₂ (h.testimony haddress).recordList
    intro record record' hrecord
    rw [hrecord.groupId]
  · rw [h.isUnreachable haddress]
    refine and_congr_right fun hunreachable => ?_
    apply exists_mem_iff_of_forall₂ (h.hosted ha hb hunreachable)
    intro hosted hosted' hhosted
    rw [hhosted.groupId]

/-- A server with a follower without a leader has it under its other name. -/
theorem isLeaderlessOn_iff (h : a.Renamed settings σ b) (ha : Complete settings a)
    (hb : Complete settings b) {address : String} (haddress : address ∈ a.addresses)
    (id : GroupId) :
    b.IsLeaderlessOn settings id (σ address) ↔ a.IsLeaderlessOn settings id address := by
  have hreported : (∃ record ∈ (b.testimony settings (σ address)).recordList,
      record.groupId = id ∧ record.isLeaderlessFollower) ↔
      ∃ record ∈ (a.testimony settings address).recordList,
        record.groupId = id ∧ record.isLeaderlessFollower := by
    apply exists_mem_iff_of_forall₂ (h.testimony haddress).recordList
    intro record record' hrecord
    rw [hrecord.groupId, hrecord.isLeaderlessFollower]
  have hplaced (hfound : ∃ record ∈ (b.testimony settings (σ address)).recordList,
      record.groupId = id ∧ record.isLeaderlessFollower) :
      b.placed settings (σ address) = a.placed settings address := by
    obtain ⟨record, hrecord, -, hfollower⟩ := hreported.mp hfound
    obtain ⟨record', hrecord', -, hfollower'⟩ := hfound
    exact h.placed ha hb ⟨haddress, record, hrecord, hfollower⟩
      ⟨h.mem_addresses haddress, record', hrecord', hfollower'⟩
  constructor
  · rintro ⟨-, hfound, hon⟩
    exact ⟨haddress, hreported.mp hfound, hplaced hfound ▸ hon⟩
  · rintro ⟨-, hfound, hon⟩
    have hfound' := hreported.mpr hfound
    exact ⟨h.mem_addresses haddress, hfound', hplaced hfound' ▸ hon⟩

/-- Both checks have a follower without a leader, or none of them has. -/
theorem exists_isLeaderlessOn_iff (h : a.Renamed settings σ b) (ha : Complete settings a)
    (hb : Complete settings b) (id : GroupId) :
    (∃ address, b.IsLeaderlessOn settings id address) ↔
      ∃ address, a.IsLeaderlessOn settings id address := by
  have hlisted (c : Answers) : (∃ address, c.IsLeaderlessOn settings id address) ↔
      ∃ address ∈ c.addresses, c.IsLeaderlessOn settings id address :=
    ⟨fun ⟨address, hon⟩ => ⟨address, hon.listed, hon⟩, fun ⟨address, _, hon⟩ => ⟨address, hon⟩⟩
  rw [hlisted, hlisted]
  exact h.exists_mem_addresses_iff fun address haddress => h.isLeaderlessOn_iff ha hb haddress id

/-- A server's first record without a leader of a copyset is the same under its other name. -/
theorem firstLeaderless (h : a.Renamed settings σ b) {address : String}
    (haddress : address ∈ a.addresses) (id : GroupId) :
    Option.Rel (RenamedRecord σ) (a.firstLeaderless settings id address)
      (b.firstLeaderless settings id (σ address)) := by
  apply rel_find?_of_forall₂ (h.testimony haddress).recordList
  intro record record' hrecord
  rw [hrecord.groupId, hrecord.isLeaderlessFollower]

/-- A server contributes the same under its other name. -/
theorem contributionsOf (hσ : Renames σ) (h : a.Renamed settings σ b) (ha : Complete settings a)
    (hb : Complete settings b) {address : String} (haddress : address ∈ a.addresses)
    (id : GroupId) :
    b.contributionsOf settings id (σ address) = a.contributionsOf settings id address := by
  have hreports := h.sameReports hσ
  have htestimony := h.testimony haddress
  have hhosted : a.testimony settings address = .unreachable → List.Forall₂ (RenamedHosted σ)
      (a.hosted settings address) (b.hosted settings (σ address)) :=
    fun hunreachable => h.hosted ha hb ⟨haddress, hunreachable⟩
  unfold Answers.contributionsOf
  generalize a.testimony settings address = t at htestimony hhosted ⊢
  generalize b.testimony settings (σ address) = t' at htestimony ⊢
  cases htestimony with
  | unreachable =>
    simp only [List.filterMap_filter]
    apply filterMap_eq_of_forall₂ (hhosted rfl)
    intro hosted hosted' hrenamed
    rw [hrenamed.groupId, hrenamed.peers, hreports.peerStanding]
  | silent => rfl
  | records hrecords =>
    simp only [List.filterMap_filter]
    apply filterMap_eq_of_forall₂ hrecords
    intro record record' hrenamed
    rw [hrenamed.groupId, hreports.contribution hrenamed]

/-- A server says the same under its other name. -/
theorem asserts_iff (hσ : Renames σ) (h : a.Renamed settings σ b) (ha : Complete settings a)
    (hb : Complete settings b) {address : String} (haddress : address ∈ a.addresses)
    (id : GroupId) (p : Problem) :
    b.Asserts settings id (σ address) p ↔ a.Asserts settings id address p := by
  have hfirst := h.firstLeaderless haddress id
  constructor
  · rintro (⟨hleaderless, hfound⟩ | ⟨-, hnone, hlast⟩)
    · rw [hfound] at hfirst
      generalize hformer : a.firstLeaderless settings id address = former at hfirst
      cases hfirst with
      | some hrecord =>
        rw [hrecord.peers, (h.sameReports hσ).peerStanding]
        exact .leaderless ((h.isLeaderlessOn_iff ha hb haddress id).mp hleaderless) hformer
    · rw [h.exists_isLeaderlessOn_iff ha hb] at hnone
      rw [h.contributionsOf hσ ha hb haddress] at hlast
      exact .contributed haddress hnone hlast
  · rintro (⟨hleaderless, hfound⟩ | ⟨-, hnone, hlast⟩)
    · rw [hfound] at hfirst
      generalize hlatter : b.firstLeaderless settings id (σ address) = latter at hfirst
      cases hfirst with
      | some hrecord =>
        rw [← (h.sameReports hσ).peerStanding, ← hrecord.peers]
        exact .leaderless ((h.isLeaderlessOn_iff ha hb haddress id).mpr hleaderless) hlatter
    · rw [← h.exists_isLeaderlessOn_iff ha hb] at hnone
      rw [← h.contributionsOf hσ ha hb haddress] at hlast
      exact .contributed (h.mem_addresses haddress) hnone hlast

/-! ### Who has the last word under other names -/

/-- Where different servers decide under different names, they have changed places. -/
theorem compare_ne_of_decides (hσ : Renames σ) (h : a.Renamed settings σ b)
    (ha : Complete settings a) (hb : Complete settings b) {id : GroupId} {s t : String}
    {p q : Problem} (hs : a.Decides settings id s p) (ht : b.Decides settings id (σ t) q)
    (htlisted : t ∈ a.addresses) (hne : s ≠ t) : compare (σ s) (σ t) ≠ compare s t := by
  intro hsame
  have hslisted := hs.asserts.mem_addresses
  have hsays := (h.asserts_iff hσ ha hb hslisted id p).mpr hs.asserts
  have htsays := (h.asserts_iff hσ ha hb htlisted id q).mp ht.asserts
  have heq : compare s t = .eq := by
    by_cases hleaderless : ∃ address, a.IsLeaderlessOn settings id address
    · have hst := hs.smallest hleaderless t q htsays
      have hts := ht.smallest ((h.exists_isLeaderlessOn_iff ha hb id).mpr hleaderless) _ p hsays
      rw [← hsame] at hst ⊢
      exact Std.OrientedCmp.isLE_antisymm hst hts
    · have hts := hs.greatest hleaderless t q htsays
      have hst := ht.greatest (mt (h.exists_isLeaderlessOn_iff ha hb id).mp hleaderless) _ p hsays
      rw [hsame] at hst
      exact Std.OrientedCmp.isLE_antisymm hst hts
  exact hne (Std.LawfulEqCmp.eq_of_compare heq)

/-- The registries hold the same copysets. -/
theorem total_eq (h : a.Renamed settings σ b) (ha : Complete settings a)
    (hb : Complete settings b) {r r' : Registry}
    (hr : judge settings (a.evidence settings) = .ok r)
    (hr' : judge settings (b.evidence settings) = .ok r') : r'.total = r.total := by
  apply Ascending.eq_of_mem_iff (ascending_toList _) (ascending_toList _)
  intro id
  change id ∈ r'.total ↔ id ∈ r.total
  rw [total_judge hr, total_judge hr', mem_total_register, mem_total_register,
    h.observes_iff ha hb]

/-- A copyset has the same class under other names, unless two servers say different things about
it and change places. -/
theorem classificationOf_judge_eq (hσ : Renames σ) (h : a.Renamed settings σ b)
    (ha : Complete settings a) (hb : Complete settings b) {r r' : Registry}
    (hr : judge settings (a.evidence settings) = .ok r)
    (hr' : judge settings (b.evidence settings) = .ok r') (id : GroupId) :
    r'.classificationOf id = r.classificationOf id ∨
      ∃ s t p q, a.Asserts settings id s p ∧ a.Asserts settings id t q ∧ p ≠ q ∧
        compare (σ s) (σ t) ≠ compare s t ∧ r.classificationOf id = some (.problem p) ∧
        r'.classificationOf id = some (.problem q) := by
  have htotal := h.total_eq ha hb hr hr'
  by_cases hid : id ∈ r.total
  · obtain ⟨listing, hlisting⟩ := ha.listing
    have hlisting' := h.copysets.trans hlisting
    rcases classificationOf_judge_cases hr hlisting hid with
      ⟨s, p, hs, hclass⟩ | ⟨hnone, hclass⟩ <;>
    rcases classificationOf_judge_cases hr' hlisting' (htotal ▸ hid) with
      ⟨t', q, ht, hclass'⟩ | ⟨hnone', hclass'⟩
    · obtain ⟨t, htlisted, rfl⟩ := (h.addresses t').mp ht.asserts.mem_addresses
      have htsays := (h.asserts_iff hσ ha hb htlisted id q).mp ht.asserts
      by_cases hpq : p = q
      · exact .inl (by rw [hclass, hclass', hpq])
      · have hne : s ≠ t := by
          rintro rfl
          exact hpq (hs.asserts.unique htsays)
        exact .inr ⟨s, t, p, q, hs.asserts, htsays, hpq,
          h.compare_ne_of_decides hσ ha hb hs ht htlisted hne, hclass, hclass'⟩
    · have hsays := (h.asserts_iff hσ ha hb hs.asserts.mem_addresses id p).mpr hs.asserts
      exact absurd hsays (hnone' _ _)
    · obtain ⟨t, htlisted, rfl⟩ := (h.addresses t').mp ht.asserts.mem_addresses
      exact absurd ((h.asserts_iff hσ ha hb htlisted id q).mp ht.asserts) (hnone t q)
    · exact .inl (hclass'.trans hclass.symm)
  · have hnone : r.classificationOf id = none := by
      rw [← Option.not_isSome_iff_eq_none, r.isSome_classificationOf]
      exact hid
    have hnone' : r'.classificationOf id = none := by
      rw [← Option.not_isSome_iff_eq_none, r'.isSome_classificationOf, htotal]
      exact hid
    exact .inl (hnone'.trans hnone.symm)

end Answers.Renamed

/-- Registries of the same copysets, the same ones of which have a problem, come to the same three
numbers. -/
theorem snapshot_eq_of_problems {r r' : Registry} (hr : r.Consistent) (hr' : r'.Consistent)
    (htotal : r'.total = r.total)
    (hproblems : ∀ id, (∃ p, r'.classificationOf id = some (.problem p)) ↔
      ∃ p, r.classificationOf id = some (.problem p)) : snapshot r' = snapshot r := by
  have hmap : r.Represents r.classificationOf := ⟨hr, fun _ => rfl⟩
  have hmap' : r'.Represents r'.classificationOf := ⟨hr', fun _ => rfl⟩
  have hhealthy : r'.isHealthy = r.isHealthy := by
    rw [Bool.eq_iff_iff, hmap.isHealthy_iff, hmap'.isHealthy_iff]
    simp only [ne_eq, ← not_exists, hproblems]
  have hunhealthy : r'.unhealthyCount = r.unhealthyCount := by
    rw [hmap.unhealthyCount_eq, hmap'.unhealthyCount_eq]
    simp only [hproblems]
  rw [snapshot, snapshot, hhealthy, hunhealthy, r'.totalCount_eq, r.totalCount_eq, htotal]

/-- **A cluster under other names.** Two health checks that succeed and see the same cluster, its
servers under other names for the second one, come to the same three numbers and give every copyset
the same class, unless two servers say different things about it and come in the other order under
their other names; its class is then what one of them says for the first check, and what the other
one says for the second. -/
theorem inspect_renamed {settings : CheckSettings} {σ : String → String} (hσ : Renames σ)
    {gateway gateway' : Nat → Gateway} {start start' taken taken' : Nat} {r r' : Registry}
    (h : (inspect settings gateway).run start = (.value r, taken))
    (h' : (inspect settings gateway').run start' = (.value r', taken'))
    (hrenamed : Answers.Renamed settings σ (.during settings gateway start)
      (.during settings gateway' start')) :
    let a := Answers.during settings gateway start
    snapshot r' = snapshot r ∧ ∀ id, r'.classificationOf id = r.classificationOf id ∨
      ∃ s t p q, a.Asserts settings id s p ∧ a.Asserts settings id t q ∧ p ≠ q ∧
        compare (σ s) (σ t) ≠ compare s t ∧ r.classificationOf id = some (.problem p) ∧
        r'.classificationOf id = some (.problem q) := by
  have hcourse := courses_inspect settings gateway start
  have hcourse' := courses_inspect settings gateway' start'
  rw [h] at hcourse
  rw [h'] at hcourse'
  obtain ⟨hcomplete, -, hjudge⟩ := hcourse.of_value
  obtain ⟨hcomplete', -, hjudge'⟩ := hcourse'.of_value
  have hclass := hrenamed.classificationOf_judge_eq hσ hcomplete hcomplete' hjudge hjudge'
  refine ⟨?_, hclass⟩
  apply snapshot_eq_of_problems (consistent_and_sameServers_of_judge hjudge).1
    (consistent_and_sameServers_of_judge hjudge').1
    (hrenamed.total_eq hcomplete hcomplete' hjudge hjudge')
  intro id
  rcases hclass id with hsame | ⟨s, t, p, q, -, -, -, -, hp, hq⟩
  · rw [hsame]
  · exact ⟨fun _ => ⟨p, hp⟩, fun _ => ⟨q, hq⟩⟩

/-! ### Two servers that change places -/

/-- Two servers that get each other's names. -/
def swap (address : String) : String :=
  if address = "10.0.0.1:8200" then "10.0.0.2:8200"
  else if address = "10.0.0.2:8200" then "10.0.0.1:8200"
  else address

theorem isAddress_first : IsAddress "10.0.0.1:8200" :=
  ⟨"10.0.0.1".toList, "8200".toList, by decide, by decide, by decide⟩

theorem isAddress_second : IsAddress "10.0.0.2:8200" :=
  ⟨"10.0.0.2".toList, "8200".toList, by decide, by decide, by decide⟩

theorem renames_swap : Renames swap where
  isAddress := by
    intro address haddress
    unfold swap
    split
    · exact isAddress_second
    · split
      · exact isAddress_first
      · exact haddress
  injective := by
    intro first second _ _ hsame
    have hinvolutive (address : String) : swap (swap address) = address := by
      unfold swap
      split_ifs <;> simp_all
    rw [← hinvolutive first, hsame, hinvolutive]

/-- What a server reports of a copyset that both servers hold. -/
def pairFields (state peers : String) : Raft.Fields :=
  .insert (.ofList [("groupId", "4294967303"), ("state", state)]) "peers" peers

/-- A cluster of two servers under either names: one replica stands for election, and the other one
has failed. -/
def pair (swapped : Bool) : Gateway where
  servers := .now (.ok [⟨"10.0.0.1:8200", .online⟩, ⟨"10.0.0.2:8200", .online⟩])
  assignments _ := .now (.ok [])
  members _ _ := .now (.ok [])
  copysets := .now (.ok [⟨1, 7, 0, true⟩])
  raftStatus address := .now (.ok [pairFields
    (if (address == "10.0.0.1:8200") != swapped then "CANDIDATE" else "ERROR")
    (if swapped then "10.0.0.2:8200:0 10.0.0.1:8200:0" else "10.0.0.1:8200:0 10.0.0.2:8200:0")])

/-- Their fields are the same under the other names. -/
theorem renamedFields_pairFields (state : String) :
    Raft.RenamedFields swap (pairFields state "10.0.0.1:8200:0 10.0.0.2:8200:0")
      (pairFields state "10.0.0.2:8200:0 10.0.0.1:8200:0") where
  others := by
    intro key hkey _ _
    simp [pairFields, Std.ExtTreeMap.getElem?_insert, hkey.symm]
  peers := by
    have hpeers (peers : String) : Record.peersOf (pairFields state peers) =
        (Text.words peers.toList).map String.ofList := by
      simp [Record.peersOf, pairFields]
    rw [hpeers, hpeers]
    decide +kernel
  leader := by
    have hleader (peers : String) : Record.leaderOf (pairFields state peers) = none := by
      simp [Record.leaderOf, pairFields]
    rw [hleader, hleader, Option.map_none]

/-- The second cluster is the first one under the other names. -/
theorem pair_renamed : Answers.Renamed {} swap (.during {} (fun _ => pair false) 0)
    (.during {} (fun _ => pair true) 0) where
  isAddress := by
    intro address haddress
    rcases List.mem_pair.mp haddress with rfl | rfl
    · exact isAddress_first
    · exact isAddress_second
  addresses := by
    intro address
    change address ∈ ["10.0.0.1:8200", "10.0.0.2:8200"] ↔
      ∃ former ∈ ["10.0.0.1:8200", "10.0.0.2:8200"], swap former = address
    have hfirst : swap "10.0.0.1:8200" = "10.0.0.2:8200" := by decide
    have hsecond : swap "10.0.0.2:8200" = "10.0.0.1:8200" := by decide
    constructor
    · intro haddress
      rcases List.mem_pair.mp haddress with rfl | rfl
      · exact ⟨"10.0.0.2:8200", by simp, hsecond⟩
      · exact ⟨"10.0.0.1:8200", by simp, hfirst⟩
    · rintro ⟨former, hformer, rfl⟩
      rcases List.mem_pair.mp hformer with rfl | rfl
      · simp [hfirst]
      · simp [hsecond]
  raftStatus := by
    intro address haddress
    rcases List.mem_pair.mp haddress with rfl | rfl
    · exact .some (.cons (renamedFields_pairFields "CANDIDATE") .nil)
    · exact .some (.cons (renamedFields_pairFields "ERROR") .nil)
  assignments _ _ := rfl
  members _ _ _ := .some .nil
  copysets := rfl

/-- The classes of the copyset of both servers under either names. -/
theorem classificationOf_pair (swapped : Bool) : ∃ r taken,
    (inspect {} fun _ => pair swapped).run 0 = (.value r, taken) ∧
      r.classificationOf (.pack 1 7) =
        some (.problem (if swapped then .noLeader else .otherState "ERROR")) := by
  have hclass : ((inspect {} fun _ => pair swapped).run 0).1.value?.bind
      (·.classificationOf (.pack 1 7)) =
        some (.problem (if swapped then .noLeader else .otherState "ERROR")) := by
    revert swapped
    decide +kernel
  cases hrun : (inspect {} fun _ => pair swapped).run 0 with
  | mk result taken =>
    rw [hrun] at hclass
    cases result with
    | fault f => cases hclass
    | panic => cases hclass
    | value r => exact ⟨r, taken, rfl, hclass⟩

/-- The two servers say different things about their copyset, and its class is what the one says
that comes last under the names of the check. -/
theorem inspect_renamed_pair : ∃ r r' taken taken',
    (inspect {} fun _ => pair false).run 0 = (.value r, taken) ∧
      (inspect {} fun _ => pair true).run 0 = (.value r', taken') ∧ snapshot r' = snapshot r ∧
      ∃ s t, (Answers.during {} (fun _ => pair false) 0).Asserts {} (.pack 1 7) s
          (.otherState "ERROR") ∧
        (Answers.during {} (fun _ => pair false) 0).Asserts {} (.pack 1 7) t .noLeader ∧
        compare (swap s) (swap t) ≠ compare s t := by
  obtain ⟨r, taken, hrun, hclass⟩ := classificationOf_pair false
  obtain ⟨r', taken', hrun', hclass'⟩ := classificationOf_pair true
  obtain ⟨hsnapshot, hsame⟩ := inspect_renamed renames_swap hrun hrun' pair_renamed
  refine ⟨r, r', taken, taken', hrun, hrun', hsnapshot, ?_⟩
  rcases hsame (.pack 1 7) with hequal | ⟨s, t, p, q, hs, ht, -, hplaces, hp, hq⟩
  · rw [hclass, hclass'] at hequal
    cases hequal
  · rw [hclass] at hp
    rw [hclass'] at hq
    cases hp
    cases hq
    exact ⟨s, t, hs, ht, hplaces⟩

/-- Two servers that get each other's names change the class of their copyset. -/
theorem classificationOf_pair_ne : Renames swap ∧
    Answers.Renamed {} swap (.during {} (fun _ => pair false) 0)
      (.during {} (fun _ => pair true) 0) ∧
    ∃ r r' taken taken', (inspect {} fun _ => pair false).run 0 = (.value r, taken) ∧
      (inspect {} fun _ => pair true).run 0 = (.value r', taken') ∧
      r'.classificationOf (.pack 1 7) ≠ r.classificationOf (.pack 1 7) := by
  obtain ⟨r, taken, hrun, hclass⟩ := classificationOf_pair false
  obtain ⟨r', taken', hrun', hclass'⟩ := classificationOf_pair true
  refine ⟨renames_swap, pair_renamed, r, r', taken, taken', hrun, hrun', ?_⟩
  rw [hclass, hclass']
  decide

end Check

end CopysetWatch
