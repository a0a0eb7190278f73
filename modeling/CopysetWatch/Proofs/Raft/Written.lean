import CopysetWatch.Proofs.GroupIds
import CopysetWatch.Proofs.Raft.Fields
import CopysetWatch.Proofs.Raft.Notation

/-!
# Written records

A record can be written down as fields: one for each thing that it tells of the replica, and one for
each replicator. Where there is a choice, such as the notation of a log position, the writer makes
it. Whatever the choice, the fields are read as the record that was written.
-/

namespace CopysetWatch

namespace Raft

/-- A state is known by its name, unless another state has this name. -/
theorem State.ofName_name {state : State}
    (h : ∀ name, state = .other name → ∀ state' ∈ State.named, state'.name ≠ name) :
    State.ofName state.name = state := by
  cases state with
  | other name =>
    have hunnamed : (State.named.find? fun state => state.name == name) = none :=
      List.find?_eq_none.mpr fun state hstate => by simpa using h name rfl state hstate
    rw [State.ofName, State.name, hunnamed]
    rfl
  | _ => decide

/-- A phrase is trimmed already. -/
theorem Record.trimmed_of_isPhrase {text : String} (h : Text.IsPhrase text) :
    Record.trimmed text = text := by
  rw [Record.trimmed, h.trimmed, String.ofList_toList]

/-- What is written in the place of a leader that is not known. -/
inductive UnknownLeader where
  /-- Nothing at all. -/
  | blank
  /-- The address that stands for no leader. -/
  | placeholder
  deriving DecidableEq, Repr

/-- The text in the place of a leader that is not known. -/
def UnknownLeader.text : UnknownLeader → String
  | .blank => ""
  | .placeholder => Record.noLeader

/-- A record and everything that its writer chose. -/
structure Written where
  record : Record
  unknownLeader : UnknownLeader
  logNotation : LogNotation
  /-- The key of each replicator, and what is said of it. -/
  replicators : List (String × ReplicatorLine)
  deriving DecidableEq, Repr

namespace Written

/-- The entries about the replica itself. -/
def ownEntries (w : Written) : List (String × String) :=
  (w.record.peerId.map fun peer => ("peer_id", peer)).toList ++
    [("state", w.record.state.name), ("peers", " ".intercalate w.record.peers),
      ("leader", w.record.leader.getD w.unknownLeader.text)] ++
    (w.record.lastLogId.map fun id => ("last_log_id", w.logNotation.text id)).toList

/-- The keys under which something can be told of the replica itself. -/
def ownKeys : List String :=
  ["groupId", "peer_id", "state", "peers", "leader", "last_log_id"]

/-- The entries about the replicators. -/
def replicatorEntries (w : Written) : List (String × String) :=
  w.replicators.map fun r => (r.1, r.2.text)

/-- Everything that stands below the header of the record. -/
def entries (w : Written) : List (String × String) :=
  w.ownEntries ++ w.replicatorEntries

/-- The fields of the record. -/
def fields (w : Written) : Fields :=
  .ofList (("groupId", w.record.groupId.text) :: w.entries)

/-- A record that can be told from what is written of it. -/
structure WellFormed (w : Written) : Prop where
  state : Text.IsPhrase w.record.state.name ∧ w.record.state.name ≠ ""
  otherState : ∀ name, w.record.state = .other name → ∀ state ∈ State.named, state.name ≠ name
  peerId : ∀ peer ∈ w.record.peerId, Text.IsPhrase peer
  peers : ∀ peer ∈ w.record.peers, Text.IsWord peer
  leader : ∀ leader ∈ w.record.leader,
    Text.IsPhrase leader ∧ leader ≠ "" ∧ leader ≠ Record.noLeader
  keys : ∀ r ∈ w.replicators, Text.IsPhrase r.1 ∧ "replicator_".toList <+: r.1.toList ∧
    ¬": ".toList <:+: r.1.toList
  ascending : w.replicators.Pairwise fun r r' => compare r.1 r'.1 = .lt
  lines : ∀ r ∈ w.replicators, r.2.WellFormed
  statuses : w.record.replicators = w.replicators.map fun r => r.2.status

variable {w : Written}

/-- The keys of the entries about the replica are some of these, in this order. -/
theorem keys_ownEntries_sublist (w : Written) :
    ((("groupId", w.record.groupId.text) :: w.ownEntries).map Prod.fst).Sublist ownKeys := by
  unfold ownEntries
  cases w.record.peerId <;> cases w.record.lastLogId <;>
    exact List.isSublist_iff_sublist.mp rfl

/-- They are not the keys of replicators. -/
theorem not_isReplicatorKey_of_mem {e : String × String}
    (he : e ∈ ("groupId", w.record.groupId.text) :: w.ownEntries) :
    ¬Record.isReplicatorKey e.1 := by
  have hkeys : ∀ key ∈ ownKeys, ¬Record.isReplicatorKey key := by decide
  exact hkeys e.1 (w.keys_ownEntries_sublist.subset (List.mem_map_of_mem he))

/-- The entries about the replicators have such keys. -/
theorem WellFormed.isReplicatorKey_of_mem (h : w.WellFormed) {e : String × String}
    (he : e ∈ w.replicatorEntries) : Record.isReplicatorKey e.1 := by
  obtain ⟨r, hr, rfl⟩ := List.mem_map.mp he
  exact List.isPrefixOf_iff_prefix.mpr (h.keys r hr).2.1

/-- The entries about the replicators stand in the order of their keys. -/
theorem WellFormed.ascending_replicatorEntries (h : w.WellFormed) :
    w.replicatorEntries.Pairwise fun e e' => compare e.1 e'.1 = .lt :=
  List.pairwise_map.mpr h.ascending

/-- No key is written twice. -/
theorem WellFormed.distinct (h : w.WellFormed) :
    ((("groupId", w.record.groupId.text) :: w.entries).map Prod.fst).Nodup := by
  rw [entries, ← List.cons_append, List.map_append, List.nodup_append]
  refine ⟨w.keys_ownEntries_sublist.nodup (by decide), ?_, ?_⟩
  · apply List.pairwise_map.mpr
    apply h.ascending_replicatorEntries.imp
    intro e e' hlt heq
    rw [heq] at hlt
    simp at hlt
  · intro key hown key' hreplicator heq
    obtain ⟨e, he, rfl⟩ := List.mem_map.mp hown
    obtain ⟨e', he', rfl⟩ := List.mem_map.mp hreplicator
    apply not_isReplicatorKey_of_mem he
    rw [heq]
    exact h.isReplicatorKey_of_mem he'

/-- The fields about the replica are those that are written about it. -/
theorem WellFormed.getElem?_fields (h : w.WellFormed) {key : String}
    (hkey : ¬Record.isReplicatorKey key) (value : String) :
    w.fields[key]? = some value ↔
      (key, value) ∈ ("groupId", w.record.groupId.text) :: w.ownEntries := by
  rw [fields, getElem?_ofList_eq_some_iff h.distinct, entries, ← List.cons_append,
    List.mem_append]
  exact or_iff_left fun hreplicator => hkey (h.isReplicatorKey_of_mem hreplicator)

/-- Whatever is written about the replica is a phrase. -/
theorem WellFormed.isPhrase_of_mem (h : w.WellFormed) {e : String × String}
    (he : e ∈ w.ownEntries) : Text.IsPhrase e.2 := by
  simp only [ownEntries, List.mem_append, List.mem_cons, List.not_mem_nil, or_false,
    Option.mem_toList, Option.map_eq_some_iff] at he
  rcases he with (⟨peer, hpeer, rfl⟩ | rfl | rfl | rfl) | ⟨id, -, rfl⟩
  · exact h.peerId peer hpeer
  · exact h.state.1
  · exact Text.isPhrase_intercalate h.peers
  · cases hleader : w.record.leader with
    | none => cases w.unknownLeader <;> decide
    | some leader => exact (h.leader leader hleader).1
  · exact (w.logNotation.isWord_text id).isPhrase

/-! ### Reading the fields -/

/-- The copyset is read. -/
theorem WellFormed.groupIdOf_fields (h : w.WellFormed) :
    Record.groupIdOf w.fields = .ok w.record.groupId := by
  have hfield : w.fields["groupId"]? = some w.record.groupId.text :=
    (h.getElem?_fields (by decide) _).mpr List.mem_cons_self
  rw [Record.groupIdOf, hfield]
  dsimp only
  rw [GroupId.parse_text]

/-- The state is read. -/
theorem WellFormed.stateOf_fields (h : w.WellFormed) (id : GroupId) :
    Record.stateOf w.fields id = .ok w.record.state := by
  have hfield : w.fields["state"]? = some w.record.state.name := by
    rw [h.getElem?_fields (by decide)]
    simp [ownEntries]
  have hshown : ¬(w.record.state.name.toList.isEmpty = true) := by
    simpa using h.state.2
  rw [Record.stateOf, hfield]
  dsimp only
  rw [h.state.1.trimmed, if_neg hshown, State.parse, h.state.1.trimmed, String.ofList_toList,
    State.ofName_name h.otherState]

/-- The replica's own address is read. -/
theorem WellFormed.peerId_fields (h : w.WellFormed) :
    w.fields["peer_id"]?.map Record.trimmed = w.record.peerId := by
  have hfield : w.fields["peer_id"]? = w.record.peerId := by
    apply Option.ext
    intro peer
    rw [h.getElem?_fields (by decide)]
    simp [ownEntries]
  rw [hfield]
  cases hpeer : w.record.peerId with
  | none => rfl
  | some peer => exact congrArg some (Record.trimmed_of_isPhrase (h.peerId peer hpeer))

/-- The peers are read. -/
theorem WellFormed.peersOf_fields (h : w.WellFormed) :
    Record.peersOf w.fields = w.record.peers := by
  have hfield : w.fields["peers"]? = some (" ".intercalate w.record.peers) := by
    rw [h.getElem?_fields (by decide)]
    simp [ownEntries]
  rw [Record.peersOf, hfield]
  dsimp only
  rw [Text.words_intercalate h.peers, List.map_map]
  simp

/-- The leader is read. -/
theorem WellFormed.leaderOf_fields (h : w.WellFormed) :
    Record.leaderOf w.fields = w.record.leader := by
  have hfield : w.fields["leader"]? = some (w.record.leader.getD w.unknownLeader.text) := by
    rw [h.getElem?_fields (by decide)]
    simp [ownEntries]
  rw [Record.leaderOf, hfield]
  cases hleader : w.record.leader with
  | none => cases w.unknownLeader <;> decide
  | some leader =>
    obtain ⟨hphrase, hne, hknown⟩ := h.leader leader hleader
    rw [Option.getD_some, Option.map_some, Record.trimmed_of_isPhrase hphrase]
    exact Option.filter_some_pos (by simpa using ⟨hne, hknown⟩)

/-- The last log position is read. -/
theorem WellFormed.lastLogId_fields (h : w.WellFormed) :
    w.fields["last_log_id"]?.bind LogId.parse = w.record.lastLogId := by
  have hfield : w.fields["last_log_id"]? =
      w.record.lastLogId.map fun id => w.logNotation.text id := by
    apply Option.ext
    intro text
    rw [h.getElem?_fields (by decide)]
    simp [ownEntries]
  rw [hfield]
  cases w.record.lastLogId with
  | none => rfl
  | some id => rw [Option.map_some, Option.bind_some, LogId.parse_text]

/-- The replicators are read. -/
theorem WellFormed.replicatorsOf_fields (h : w.WellFormed) :
    Record.replicatorsOf w.fields = w.record.replicators := by
  have hfields : (w.fields.toList.filter fun field => Record.isReplicatorKey field.1) =
      w.replicatorEntries := by
    apply filter_toList_eq h.ascending_replicatorEntries
    intro key value
    rw [fields, getElem?_ofList_eq_some_iff h.distinct, entries, ← List.cons_append,
      List.mem_append]
    constructor
    · intro he
      exact ⟨h.isReplicatorKey_of_mem he, .inr he⟩
    · rintro ⟨hkey, he | he⟩
      · exact absurd hkey (not_isReplicatorKey_of_mem he)
      · exact he
  rw [Record.replicatorsOf, hfields, replicatorEntries, List.map_map, h.statuses]
  apply List.map_congr_left
  intro r hr
  exact Replicator.parse_text (h.lines r hr)

/-- The fields of a record are read as this record. -/
theorem WellFormed.parse_fields (h : w.WellFormed) : Record.parse w.fields = .ok w.record := by
  unfold Record.parse
  rw [h.groupIdOf_fields]
  dsimp only [bind, Except.bind]
  rw [h.stateOf_fields]
  dsimp only
  rw [h.peerId_fields, h.peersOf_fields, h.leaderOf_fields, h.lastLogId_fields,
    h.replicatorsOf_fields]
  rfl

end Written

end Raft

end CopysetWatch
