import CopysetWatch.Proofs.Check.Availability
import CopysetWatch.Proofs.Raft.Lags

/-!
# Precedence of the tests of a leader's record

A leader's record is tested for the number of its peers, for their servers, for a log position that
can be read, for replicators that are not plainly replicating, and for followers that lag behind,
and the first test that fails decides. `LeaderVerdict` lists the cases in this order, with lags
counted without bounds. Where the log positions are below 2^62 and the margin is below 2^63, these
are the cases of the computation in 64 bits.
-/

namespace CopysetWatch.Check

open Raft (Replicator)

section

variable {margin lastIndex : UInt64} {replicators others : List Replicator}

/-! ### Replicators -/

/-- Some follower lags behind the log up to an index by more than a margin. -/
def IsLagging (margin lastIndex : UInt64) (replicators : List Replicator) : Prop :=
  ∃ r ∈ replicators, ∃ lag, r.lag? lastIndex = some lag ∧ (margin.toNat : Int) < lag

/-- The widest gap is within a margin that is a signed number if no lag exceeds the margin, and
within no other margin. -/
theorem widestGap_le_toInt64_iff (hlast : lastIndex.toNat < 2 ^ 62)
    (hreplicators : ∀ r ∈ replicators, r.IsBelow (2 ^ 62)) :
    widestGap lastIndex replicators ≤ margin.toInt64 ↔
      margin.toNat < 2 ^ 63 ∧ ¬IsLagging margin lastIndex replicators := by
  rw [widestGap_le_iff, Raft.toInt64_nonneg_iff, and_congr_right_iff]
  intro hmargin
  have hwithin : ∀ r ∈ replicators,
      (∀ gap, r.gap lastIndex = some gap → gap ≤ margin.toInt64) ↔
        ∀ lag, r.lag? lastIndex = some lag → lag ≤ margin.toNat := by
    intro r hr
    rw [← Replicator.map_toInt_gap hlast (hreplicators r hr)]
    simp [Int64.le_iff_toInt_le, Raft.toInt_toInt64_of_lt hmargin]
  rw [forall₂_congr hwithin]
  simp only [IsLagging, not_exists, not_and, Int.not_lt]

/-- Replicators that are plainly replicating are passed over. -/
theorem replicatorStanding_filter (replicators : List Replicator) :
    replicatorStanding (replicators.filter (!·.isReplicating)) =
      replicatorStanding replicators := by
  induction replicators with
  | nil => rfl
  | cons r rest ih =>
    cases r with
    | installingSnapshot => rfl
    | malformed line => rfl
    | replicating next flying => exact ih

/-- The first replicator that is not plainly replicating decides. -/
theorem replicatorStanding_append_cons {before after : List Replicator} {r : Replicator}
    (hbefore : ∀ b ∈ before, b.isReplicating) (hr : r.isReplicating = false) :
    replicatorStanding (before ++ r :: after) = replicatorStanding [r] := by
  rw [← replicatorStanding_filter, List.filter_append]
  have hnone : before.filter (!·.isReplicating) = [] := by
    simpa [List.filter_eq_nil_iff] using hbefore
  rw [hnone, List.nil_append, List.filter_cons_of_pos (by simp [hr])]
  cases r with
  | installingSnapshot => rfl
  | malformed line => rfl
  | replicating next flying => cases hr

/-- A replicator that is left out does not count if it has no gap. -/
theorem widestGap_filter_le_iff {keep : Replicator → Bool} {bound : Int64}
    (h : ∀ r ∈ replicators, ¬keep r → ∀ gap, r.gap lastIndex = some gap → gap ≤ 0) :
    widestGap lastIndex (replicators.filter keep) ≤ bound ↔
      widestGap lastIndex replicators ≤ bound := by
  simp only [widestGap_le_iff, List.mem_filter]
  refine and_congr_right fun hbound => ⟨fun hkept r hr gap hgap => ?_, fun hall r hr => ?_⟩
  · by_cases hkeep : keep r
    · exact hkept r ⟨hr, hkeep⟩ gap hgap
    · exact Int64.le_trans (h r hr hkeep gap hgap) hbound
  · exact hall r hr.1

theorem logStanding_congr (hrest : replicatorStanding others = replicatorStanding replicators)
    (hgap : widestGap lastIndex others ≤ margin.toInt64 ↔
      widestGap lastIndex replicators ≤ margin.toInt64) :
    logStanding margin lastIndex others = logStanding margin lastIndex replicators := by
  unfold logStanding
  rw [hrest]
  simp only [← Int64.not_le, hgap]

/-- Two lists of replicators that differ only in where the plainly replicating ones stand. -/
structure Rearranged (replicators others : List Replicator) : Prop where
  replicating : (others.filter (·.isReplicating)).Perm (replicators.filter (·.isReplicating))
  rest : others.filter (!·.isReplicating) = replicators.filter (!·.isReplicating)

/-- Where the plainly replicating ones stand is of no account. -/
theorem Rearranged.logStanding_eq (h : Rearranged replicators others) (margin lastIndex : UInt64) :
    logStanding margin lastIndex others = logStanding margin lastIndex replicators := by
  have hfilter (replicators : List Replicator) (bound : Int64) :
      widestGap lastIndex (replicators.filter (·.isReplicating)) ≤ bound ↔
        widestGap lastIndex replicators ≤ bound := by
    refine widestGap_filter_le_iff fun r _ hr gap hgap => ?_
    cases r with
    | installingSnapshot | malformed => cases hgap
    | replicating next flying => exact absurd rfl hr
  apply logStanding_congr
  · rw [← replicatorStanding_filter, h.rest, replicatorStanding_filter]
  · rw [← hfilter others, ← hfilter replicators, widestGap_le_iff, widestGap_le_iff]
    simp only [h.replicating.mem_iff]

/-- Followers that are ahead are of no account. -/
theorem logStanding_filter_isAhead (hlast : lastIndex.toNat < 2 ^ 62)
    (hreplicators : ∀ r ∈ replicators, r.IsBelow (2 ^ 62)) (margin : UInt64) :
    logStanding margin lastIndex (replicators.filter (!·.isAhead lastIndex)) =
      logStanding margin lastIndex replicators := by
  apply logStanding_congr
  · rw [← replicatorStanding_filter, List.filter_filter, ← replicatorStanding_filter replicators]
    congr 1
    refine List.filter_congr fun r _ => ?_
    cases r <;> rfl
  · refine widestGap_filter_le_iff fun r hr hahead gap hgap => ?_
    have hlag := Replicator.map_toInt_gap hlast (hreplicators r hr)
    rw [hgap, Option.map_some] at hlag
    have hnegative : gap.toInt < 0 := by simpa [Replicator.isAhead, ← hlag] using hahead
    rw [Int64.le_iff_toInt_le]
    exact hnegative.le

end

/-! ### Records -/

section

variable {settings : CheckSettings} {reports : Reports} {record : Raft.Record}

/-- A record with enough peers, the servers of which all reported the copyset. -/
structure IsAttended (settings : CheckSettings) (reports : Reports) (record : Raft.Record) :
    Prop where
  enough : settings.replicationFactor.toNat ≤ record.peers.length
  online : peerStanding reports record.groupId record.peers = none

/-- What a leader's record comes to: the case of the first test that fails. -/
inductive LeaderVerdict (settings : CheckSettings) (reports : Reports) (record : Raft.Record) :
    Option Problem → Prop where
  | fewPeers (hfew : record.peers.length < settings.replicationFactor.toNat) :
      LeaderVerdict settings reports record (some .peersInsufficient)
  | peers {p : Problem} (henough : settings.replicationFactor.toNat ≤ record.peers.length)
      (hpeers : peerStanding reports record.groupId record.peers = some p) :
      LeaderVerdict settings reports record (some p)
  | unreadable (h : IsAttended settings reports record) (hlog : record.lastLogId = none) :
      LeaderVerdict settings reports record (some .parseError)
  | installing (h : IsAttended settings reports record) {last : Raft.LogId}
      (hlog : record.lastLogId = some last) {before after : List Replicator}
      (hsplit : record.replicators = before ++ .installingSnapshot :: after)
      (hbefore : ∀ r ∈ before, r.isReplicating) :
      LeaderVerdict settings reports record (some .installingSnapshot)
  | malformed (h : IsAttended settings reports record) {last : Raft.LogId}
      (hlog : record.lastLogId = some last) {before after : List Replicator} {line : String}
      (hsplit : record.replicators = before ++ .malformed line :: after)
      (hbefore : ∀ r ∈ before, r.isReplicating) :
      LeaderVerdict settings reports record (some .parseError)
  | lagging (h : IsAttended settings reports record) {last : Raft.LogId}
      (hlog : record.lastLogId = some last) (hall : ∀ r ∈ record.replicators, r.isReplicating)
      (hlagging : IsLagging settings.logGapMargin last.index record.replicators) :
      LeaderVerdict settings reports record (some .logIndexGapTooBig)
  | healthy (h : IsAttended settings reports record) {last : Raft.LogId}
      (hlog : record.lastLogId = some last) (hall : ∀ r ∈ record.replicators, r.isReplicating)
      (hkeepUp : ¬IsLagging settings.logGapMargin last.index record.replicators) :
      LeaderVerdict settings reports record none

/-- Where the peers are in order and the log position can be read, the logs decide. -/
theorem IsAttended.leaderStanding_eq (h : IsAttended settings reports record) {last : Raft.LogId}
    (hlog : record.lastLogId = some last) : leaderStanding settings reports record =
      logStanding settings.logGapMargin last.index record.replicators := by
  unfold leaderStanding
  rw [if_neg (Nat.not_lt.mpr h.enough), h.online, hlog]

/-- Where all replicators are plainly replicating, the lags decide. -/
theorem logStanding_of_replicating {margin lastIndex : UInt64} {replicators : List Replicator}
    (hall : ∀ r ∈ replicators, r.isReplicating) : logStanding margin lastIndex replicators =
      if widestGap lastIndex replicators ≤ margin.toInt64 then none
      else some .logIndexGapTooBig := by
  have hnone : replicatorStanding replicators = none := by
    rw [← replicatorStanding_filter, List.filter_eq_nil_iff.mpr (by simpa using hall)]
    rfl
  unfold logStanding
  rw [hnone]
  simp only [← Int64.not_le, ite_not]

/-- The computation comes to the verdict. -/
theorem LeaderVerdict.leaderStanding_eq {verdict : Option Problem}
    (h : LeaderVerdict settings reports record verdict) (hbelow : record.IsBelow (2 ^ 62))
    (hmargin : settings.logGapMargin.toNat < 2 ^ 63) :
    leaderStanding settings reports record = verdict := by
  have hwithin {last : Raft.LogId} (hlog : record.lastLogId = some last) :
      widestGap last.index record.replicators ≤ settings.logGapMargin.toInt64 ↔
        ¬IsLagging settings.logGapMargin last.index record.replicators := by
    rw [widestGap_le_toInt64_iff (hbelow.last last hlog) hbelow.replicators]
    simp only [hmargin, true_and]
  cases h with
  | fewPeers hfew => rw [leaderStanding, if_pos hfew]
  | peers henough hpeers => rw [leaderStanding, if_neg (Nat.not_lt.mpr henough), hpeers]
  | unreadable h hlog => rw [leaderStanding, if_neg (Nat.not_lt.mpr h.enough), h.online, hlog]
  | installing h hlog hsplit hbefore =>
    rw [h.leaderStanding_eq hlog, logStanding, hsplit,
      replicatorStanding_append_cons hbefore rfl, replicatorStanding]
  | malformed h hlog hsplit hbefore =>
    rw [h.leaderStanding_eq hlog, logStanding, hsplit,
      replicatorStanding_append_cons hbefore rfl, replicatorStanding]
  | lagging h hlog hall hlagging =>
    rw [h.leaderStanding_eq hlog, logStanding_of_replicating hall,
      if_neg (mt (hwithin hlog).mp (not_not.mpr hlagging))]
  | healthy h hlog hall hkeepUp =>
    rw [h.leaderStanding_eq hlog, logStanding_of_replicating hall,
      if_pos ((hwithin hlog).mpr hkeepUp)]

/-- There is a verdict on every record. -/
theorem exists_leaderVerdict (settings : CheckSettings) (reports : Reports) (record : Raft.Record) :
    ∃ verdict, LeaderVerdict settings reports record verdict := by
  by_cases hfew : record.peers.length < settings.replicationFactor.toNat
  · exact ⟨_, .fewPeers hfew⟩
  have henough := Nat.not_lt.mp hfew
  cases hpeers : peerStanding reports record.groupId record.peers with
  | some p => exact ⟨_, .peers henough hpeers⟩
  | none =>
    have h : IsAttended settings reports record := ⟨henough, hpeers⟩
    cases hlog : record.lastLogId with
    | none => exact ⟨_, .unreadable h hlog⟩
    | some last =>
      cases hfirst : record.replicators.find? (!·.isReplicating) with
      | some r =>
        obtain ⟨hr, before, after, hsplit, hbefore⟩ := List.find?_eq_some_iff_append.mp hfirst
        simp only [Bool.not_not] at hbefore
        cases r with
        | installingSnapshot => exact ⟨_, .installing h hlog hsplit hbefore⟩
        | malformed line => exact ⟨_, .malformed h hlog hsplit hbefore⟩
        | replicating next flying => cases hr
      | none =>
        have hall : ∀ r ∈ record.replicators, r.isReplicating := by simpa using hfirst
        by_cases hlagging : IsLagging settings.logGapMargin last.index record.replicators
        · exact ⟨_, .lagging h hlog hall hlagging⟩
        · exact ⟨_, .healthy h hlog hall hlagging⟩

/-- Other replicators do not change what a record comes to if they do not change what the logs come
to. -/
theorem leaderStanding_withReplicators {others : List Replicator}
    (h : ∀ last, record.lastLogId = some last →
      logStanding settings.logGapMargin last.index others =
        logStanding settings.logGapMargin last.index record.replicators) :
    leaderStanding settings reports { record with replicators := others } =
      leaderStanding settings reports record := by
  unfold leaderStanding
  dsimp only
  cases hlog : record.lastLogId with
  | none => rfl
  | some last =>
    dsimp only
    rw [h last hlog]

end

/-- Below 2^62 comparing the logs does not overflow, and judging a record does not either. -/
theorem logOverflows_eq_false {lastIndex : UInt64} (hlast : lastIndex.toNat < 2 ^ 62)
    {replicators : List Replicator} (h : ∀ r ∈ replicators, r.IsBelow (2 ^ 62)) :
    logOverflows lastIndex replicators = false := by
  induction replicators with
  | nil => rfl
  | cons r rest ih =>
    obtain ⟨hr, hrest⟩ := List.forall_mem_cons.mp h
    cases r with
    | installingSnapshot | malformed => rfl
    | replicating next flying =>
      rw [logOverflows, Replicator.overflows_eq_false hlast hr, ih hrest]
      rfl

theorem leaderOverflows_eq_false {record : Raft.Record} (h : record.IsBelow (2 ^ 62))
    (settings : CheckSettings) (reports : Reports) :
    leaderOverflows settings reports record = false := by
  rw [leaderOverflows, Bool.and_eq_false_iff]
  right
  cases hlog : record.lastLogId with
  | none => rfl
  | some last => exact logOverflows_eq_false (h.last last hlog) h.replicators

/-- **The first test that fails decides.** As long as the log positions of a leader's record are
below 2^62 and the margin is below 2^63, judging the record does not overflow, and it comes to the
verdict on it and to nothing else: there are not enough peers exactly if this is found, and
otherwise the peers decide, then the log position, then the first replicator that is not plainly
replicating, and then the widest lag, counted without bounds. Where among the others the plainly
replicating ones stand is of no account, and neither are followers that are ahead. -/
theorem leaderStanding_precedence {settings : CheckSettings} {record : Raft.Record}
    (hbelow : record.IsBelow (2 ^ 62)) (hmargin : settings.logGapMargin.toNat < 2 ^ 63)
    (reports : Reports) :
    leaderOverflows settings reports record = false ∧
    (∀ verdict, leaderStanding settings reports record = verdict ↔
      LeaderVerdict settings reports record verdict) ∧
    (leaderStanding settings reports record = some .peersInsufficient ↔
      record.peers.length < settings.replicationFactor.toNat) ∧
    (∀ others, Rearranged record.replicators others →
      leaderStanding settings reports { record with replicators := others } =
        leaderStanding settings reports record) ∧
    ∀ last, record.lastLogId = some last →
      leaderStanding settings reports
          { record with replicators := record.replicators.filter (!·.isAhead last.index) } =
        leaderStanding settings reports record := by
  have hverdict : ∀ verdict, leaderStanding settings reports record = verdict ↔
      LeaderVerdict settings reports record verdict := by
    refine fun verdict => ⟨?_, fun h => h.leaderStanding_eq hbelow hmargin⟩
    rintro rfl
    obtain ⟨verdict, h⟩ := exists_leaderVerdict settings reports record
    rwa [h.leaderStanding_eq hbelow hmargin]
  refine ⟨leaderOverflows_eq_false hbelow settings reports, hverdict, ?few,
    fun others h => ?rearranged, fun last hlog => ?ahead⟩
  case few =>
    rw [hverdict]
    constructor
    · intro h
      cases h with
      | fewPeers hfew => exact hfew
      | peers henough hpeers =>
        rcases eq_or_eq_of_peerStanding_eq_some hpeers with h | h <;> cases h
    · exact .fewPeers
  case rearranged => exact leaderStanding_withReplicators fun last _ => h.logStanding_eq _ _
  case ahead =>
    refine leaderStanding_withReplicators fun other hother => ?_
    obtain rfl := Option.some.inj (hother.symm.trans hlog)
    exact logStanding_filter_isAhead (hbelow.last _ hlog) hbelow.replicators _

/-- A leader's record of three peers, with a follower that is ahead and one that lags behind by 1021
entries, of which ten are in flight. -/
def laggingLeader : Raft.Record where
  groupId := .pack 1 7
  state := .leader
  peerId := none
  peers := ["10.0.0.1:8200:0", "10.0.0.2:8200:0", "10.0.0.3:8200:0"]
  leader := none
  lastLogId := some ⟨3, 5000⟩
  replicators := [.replicating 7000 0, .replicating 3990 10]

theorem isBelow_laggingLeader : laggingLeader.IsBelow (2 ^ 62) := by
  constructor
  · rintro last ⟨⟩
    decide
  · simp only [laggingLeader, List.forall_mem_cons, List.not_mem_nil, false_imp_iff, implies_true,
      and_true]
    constructor
    · rintro next flying ⟨⟩
      decide
    · rintro next flying ⟨⟩
      decide

/-- The follower that lags behind decides, whether the one that is ahead stands before it, behind it
or nowhere. -/
theorem leaderStanding_precedence_laggingLeader :
    laggingLeader.IsBelow (2 ^ 62) ∧ ({} : CheckSettings).logGapMargin.toNat < 2 ^ 63 ∧
      LeaderVerdict {} (fun _ _ => true) laggingLeader (some .logIndexGapTooBig) ∧
      leaderStanding {} (fun _ _ => true)
          { laggingLeader with replicators := [.replicating 3990 10, .replicating 7000 0] } =
        some .logIndexGapTooBig ∧
      leaderStanding {} (fun _ _ => true)
          { laggingLeader with replicators := [.replicating 3990 10] } =
        some .logIndexGapTooBig := by
  have hmargin : ({} : CheckSettings).logGapMargin.toNat < 2 ^ 63 := by decide
  have hstanding : leaderStanding {} (fun _ _ => true) laggingLeader =
      some .logIndexGapTooBig := by decide
  obtain ⟨-, hverdict, -, hrearranged, hahead⟩ :=
    leaderStanding_precedence isBelow_laggingLeader hmargin fun _ _ => true
  refine ⟨isBelow_laggingLeader, hmargin, (hverdict _).mp hstanding, ?_, ?_⟩
  · have hswapped : Rearranged laggingLeader.replicators
        [.replicating 3990 10, .replicating 7000 0] := ⟨.swap .., rfl⟩
    exact (hrearranged _ hswapped).trans hstanding
  · exact (hahead ⟨3, 5000⟩ rfl).trans hstanding

end CopysetWatch.Check
