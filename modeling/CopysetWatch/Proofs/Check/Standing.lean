import CopysetWatch.Check.Standing

/-!
# Standing without a problem

A judgement of peers, replicators or a leader's record is a chain of tests, and finds no problem
exactly if all of them pass. `InGoodHealth` says what the tests of a leader's record ask for: enough
peers, every one of them on a server that reported the copyset, a log position that can be read, and
no follower that installs a snapshot, is unreadable or lags behind by more than the margin.
-/

namespace CopysetWatch.Check

/-- Peers show no problem if each of their servers reported the copyset. -/
theorem peerStanding_eq_none_iff {reports : Reports} {id : GroupId} {peers : List String} :
    peerStanding reports id peers = none ↔ ∀ peer ∈ peers, reports (serverAddress peer) id := by
  have hcount : offlineCount reports id peers = 0 ↔
      ∀ peer ∈ peers, reports (serverAddress peer) id := by
    simp [offlineCount, List.filter_eq_nil_iff]
  unfold peerStanding
  by_cases hzero : offlineCount reports id peers = 0
  · simp only [if_pos hzero, true_iff]
    exact hcount.mp hzero
  · rw [if_neg hzero, ← hcount]
    split <;> simp [hzero]

/-- Replicators show no problem if each of them is plainly replicating. -/
theorem replicatorStanding_eq_none_iff {replicators : List Raft.Replicator} :
    replicatorStanding replicators = none ↔
      ∀ replicator ∈ replicators, ∃ next flying, replicator = .replicating next flying := by
  induction replicators with
  | nil => simp [replicatorStanding]
  | cons replicator rest ih =>
    cases replicator with
    | installingSnapshot => simp [replicatorStanding]
    | malformed line => simp [replicatorStanding]
    | replicating next flying => simp [replicatorStanding, ih]

/-- The widest gap stays within a margin if the margin is not negative and every gap stays within
it. -/
theorem widestGap_le_iff {lastIndex : UInt64} {replicators : List Raft.Replicator}
    {margin : Int64} : widestGap lastIndex replicators ≤ margin ↔
      0 ≤ margin ∧ ∀ replicator ∈ replicators, ∀ gap,
        replicator.gap lastIndex = some gap → gap ≤ margin := by
  unfold widestGap
  generalize (0 : Int64) = widest
  -- The induction is on the replicators, for every gap that was the widest so far.
  induction replicators generalizing widest with
  | nil => simp
  | cons replicator rest ih =>
    rw [List.foldl_cons, ih, List.forall_mem_cons]
    cases hgap : replicator.gap lastIndex with
    | none => simp
    | some gap =>
      simp only [Option.some.injEq, forall_eq']
      by_cases hwider : widest < gap
      · rw [if_pos hwider]
        constructor
        · rintro ⟨hle, hrest⟩
          exact ⟨Int64.le_trans (Int64.le_of_lt hwider) hle, hle, hrest⟩
        · rintro ⟨-, hle, hrest⟩
          exact ⟨hle, hrest⟩
      · rw [if_neg hwider]
        have hgapLe : gap ≤ widest := Int64.not_lt.mp hwider
        constructor
        · rintro ⟨hle, hrest⟩
          exact ⟨hle, Int64.le_trans hgapLe hle, hrest⟩
        · rintro ⟨hle, -, hrest⟩
          exact ⟨hle, hrest⟩

/-- Every follower keeps up with the log up to an index: it is plainly replicating and lags behind
by no more than a margin, which must not be negative as a signed number. -/
structure KeepUp (margin lastIndex : UInt64) (replicators : List Raft.Replicator) : Prop where
  margin_nonneg : 0 ≤ margin.toInt64
  replicating : ∀ replicator ∈ replicators, ∃ gap,
    replicator.gap lastIndex = some gap ∧ gap ≤ margin.toInt64

/-- The logs show no problem if every follower keeps up. -/
theorem logStanding_eq_none_iff {margin lastIndex : UInt64}
    {replicators : List Raft.Replicator} :
    logStanding margin lastIndex replicators = none ↔ KeepUp margin lastIndex replicators := by
  have hreplicating (replicator : Raft.Replicator) :
      (∃ next flying, replicator = .replicating next flying) ↔
        ∃ gap, replicator.gap lastIndex = some gap := by
    cases replicator <;> simp [Raft.Replicator.gap]
  have hlog : logStanding margin lastIndex replicators = none ↔
      replicatorStanding replicators = none ∧
        widestGap lastIndex replicators ≤ margin.toInt64 := by
    unfold logStanding
    cases replicatorStanding replicators with
    | some p => simp
    | none => simp [← Int64.not_lt]
  simp only [hlog, replicatorStanding_eq_none_iff, widestGap_le_iff, hreplicating]
  constructor
  · rintro ⟨hall, hmargin, hwithin⟩
    refine ⟨hmargin, fun replicator hmem => ?_⟩
    obtain ⟨gap, hgap⟩ := hall replicator hmem
    exact ⟨gap, hgap, hwithin replicator hmem gap hgap⟩
  · rintro ⟨hmargin, hall⟩
    refine ⟨fun replicator hmem => ?_, hmargin, fun replicator hmem gap hgap => ?_⟩
    · obtain ⟨gap, hgap, -⟩ := hall replicator hmem
      exact ⟨gap, hgap⟩
    · obtain ⟨other, hother, hle⟩ := hall replicator hmem
      obtain rfl : other = gap := Option.some.inj (hother.symm.trans hgap)
      exact hle

/-- The record of a leader whose copyset is in good health. -/
structure InGoodHealth (settings : CheckSettings) (reports : Reports) (record : Raft.Record) :
    Prop where
  enoughPeers : settings.replicationFactor.toNat ≤ record.peers.length
  online : ∀ peer ∈ record.peers, reports (serverAddress peer) record.groupId
  log : ∃ last, record.lastLogId = some last ∧
    KeepUp settings.logGapMargin last.index record.replicators

/-- A leader's record shows no problem if the copyset is in good health. -/
theorem leaderStanding_eq_none_iff {settings : CheckSettings} {reports : Reports}
    {record : Raft.Record} :
    leaderStanding settings reports record = none ↔ InGoodHealth settings reports record := by
  have hhealth : InGoodHealth settings reports record ↔
      settings.replicationFactor.toNat ≤ record.peers.length ∧
        peerStanding reports record.groupId record.peers = none ∧
        ∃ last, record.lastLogId = some last ∧
          logStanding settings.logGapMargin last.index record.replicators = none := by
    simp only [peerStanding_eq_none_iff, logStanding_eq_none_iff]
    exact ⟨fun h => ⟨h.enoughPeers, h.online, h.log⟩, fun ⟨hpeers, honline, hlog⟩ =>
      ⟨hpeers, honline, hlog⟩⟩
  rw [hhealth]
  unfold leaderStanding
  by_cases hfew : record.peers.length < settings.replicationFactor.toNat
  · rw [if_pos hfew]
    have hnot : ¬settings.replicationFactor.toNat ≤ record.peers.length := by omega
    simp [hnot]
  · rw [if_neg hfew]
    have henough : settings.replicationFactor.toNat ≤ record.peers.length := by omega
    cases peerStanding reports record.groupId record.peers with
    | some p => simp
    | none =>
      cases record.lastLogId with
      | none => simp
      | some last => simp [henough]

end CopysetWatch.Check
