import CopysetWatch.Proofs.Addresses
import CopysetWatch.Proofs.Raft.Fields

/-!
# Records under other names

Chunk servers occur in a record as its peers and as its leader, each with a raft index behind the
address. If they get other names, the record is the same but for these two, and a replica that
knew its leader still knows it. Nothing depends on the replica's own address.
-/

namespace CopysetWatch.Raft

/-- Fields that name the same servers by other names. -/
structure RenamedFields (σ : String → String) (fields fields' : Fields) : Prop where
  others : ∀ key, key ≠ "peers" → key ≠ "peer_id" → key ≠ "leader" → fields'[key]? = fields[key]?
  peers : Record.peersOf fields' = (Record.peersOf fields).map (renamePeer σ)
  leader : Record.leaderOf fields' = (Record.leaderOf fields).map (renamePeer σ)

/-- Records that name the same servers by other names. -/
structure RenamedRecord (σ : String → String) (record record' : Record) : Prop where
  groupId : record'.groupId = record.groupId
  state : record'.state = record.state
  peers : record'.peers = record.peers.map (renamePeer σ)
  leader : record'.leader = record.leader.map (renamePeer σ)
  lastLogId : record'.lastLogId = record.lastLogId
  replicators : record'.replicators = record.replicators

variable {σ : String → String}

/-- The same fields of both are records, and these name the servers by other names. -/
theorem RenamedFields.parse {fields fields' : Fields} (h : RenamedFields σ fields fields') :
    Option.Rel (RenamedRecord σ) (Record.parse fields).toOption
      (Record.parse fields').toOption := by
  have hid : Record.groupIdOf fields' = Record.groupIdOf fields := by
    rw [Record.groupIdOf, Record.groupIdOf, h.others "groupId" (by decide) (by decide) (by decide)]
  have hstate (id : GroupId) : Record.stateOf fields' id = Record.stateOf fields id := by
    rw [Record.stateOf, Record.stateOf, h.others "state" (by decide) (by decide) (by decide)]
  have hlast : fields'["last_log_id"]? = fields["last_log_id"]? :=
    h.others "last_log_id" (by decide) (by decide) (by decide)
  have hreplicators : Record.replicatorsOf fields' = Record.replicatorsOf fields := by
    apply Record.replicatorsOf_congr
    intro key hkey
    apply h.others key
    all_goals
      rintro rfl
      revert hkey
      decide
  unfold Record.parse
  rw [hid]
  cases Record.groupIdOf fields with
  | error f => exact .none
  | ok id =>
    dsimp only [bind, Except.bind]
    rw [hstate]
    cases Record.stateOf fields id with
    | error f => exact .none
    | ok state =>
      exact .some ⟨rfl, rfl, h.peers, h.leader, congrArg (·.bind LogId.parse) hlast, hreplicators⟩

/-- A follower that has no leader has none under other names. -/
theorem RenamedRecord.isLeaderlessFollower {record record' : Record}
    (h : RenamedRecord σ record record') :
    record'.isLeaderlessFollower = record.isLeaderlessFollower := by
  rw [Record.isLeaderlessFollower, Record.isLeaderlessFollower, h.state, h.leader,
    Option.isNone_map]

end CopysetWatch.Raft
