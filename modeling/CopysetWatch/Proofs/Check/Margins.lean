import CopysetWatch.Config
import CopysetWatch.Proofs.Check.Precedence

/-!
# Margins

The margin within which followers may lag behind is an unsigned number of 64 bits, and any of them
is a valid one, but gaps are compared with it as a signed number. Raising the margin within the
signed numbers never makes a copyset unhealthy. Beyond them it always does: the margin is negative
then, and even followers that lack nothing count as lagging behind.
-/

namespace CopysetWatch

/-- The same settings with another margin. -/
def CheckSettings.withMargin (settings : CheckSettings) (margin : UInt64) : CheckSettings :=
  { settings with logGapMargin := margin }

/-- Whether a configuration is valid does not depend on its margin. -/
theorem Config.validate_withMargin (c : Config) (margin : UInt64) :
    Config.validate { c with check := c.check.withMargin margin } = c.validate :=
  rfl

namespace Check

open Raft (Replicator)

/-- Followers that keep up within a margin keep up within every higher one that is a signed
number. -/
theorem KeepUp.raise {margin raised lastIndex : UInt64} {replicators : List Replicator}
    (h : KeepUp margin lastIndex replicators) (hle : margin ≤ raised)
    (hraised : raised.toNat < 2 ^ 63) : KeepUp raised lastIndex replicators where
  margin_nonneg := Raft.toInt64_nonneg_iff.mpr hraised
  replicating r hr := by
    have hmargin := Raft.toInt64_nonneg_iff.mp h.margin_nonneg
    have hsigned : margin.toInt64 ≤ raised.toInt64 := by
      rw [Int64.le_iff_toInt_le, Raft.toInt_toInt64_of_lt hmargin,
        Raft.toInt_toInt64_of_lt hraised]
      exact Int.ofNat_le.mpr (UInt64.le_iff_toNat_le.mp hle)
    obtain ⟨gap, hgap, hwithin⟩ := h.replicating r hr
    exact ⟨gap, hgap, Int64.le_trans hwithin hsigned⟩

section

variable {settings : CheckSettings} {reports : Reports} {record : Raft.Record}

/-- A leader's record that is in good health within a margin is so within a higher one exactly if
this is a signed number. -/
theorem InGoodHealth.raise_iff {margin raised : UInt64}
    (h : InGoodHealth (settings.withMargin margin) reports record) (hle : margin ≤ raised) :
    InGoodHealth (settings.withMargin raised) reports record ↔ raised.toNat < 2 ^ 63 := by
  obtain ⟨last, hlast, hkeepUp⟩ := h.log
  constructor
  · intro hraised
    obtain ⟨_, _, hkeeps⟩ := hraised.log
    exact Raft.toInt64_nonneg_iff.mp hkeeps.margin_nonneg
  · intro hraised
    exact ⟨h.enoughPeers, h.online, last, hlast, hkeepUp.raise hle hraised⟩

/-- A follower of a leader's record lags behind by more than a margin, counted without bounds. -/
def LagsBeyond (margin : UInt64) (record : Raft.Record) : Prop :=
  ∃ last, record.lastLogId = some last ∧ IsLagging margin last.index record.replicators

/-- Where the verdict on a leader's record is that a gap is too big, some follower really lags
behind. -/
theorem LeaderVerdict.lagsBeyond
    (h : LeaderVerdict settings reports record (some .logIndexGapTooBig)) :
    LagsBeyond settings.logGapMargin record := by
  cases h with
  | peers henough hpeers => rcases eq_or_eq_of_peerStanding_eq_some hpeers with h | h <;> cases h
  | lagging h hlog hall hlagging => exact ⟨_, hlog, hlagging⟩

/-- Below 2^62 no follower lags behind beyond the signed numbers. -/
theorem LagsBeyond.margin_lt {margin : UInt64} (h : LagsBeyond margin record)
    (hbelow : record.IsBelow (2 ^ 62)) : margin.toNat < 2 ^ 63 := by
  obtain ⟨last, hlast, r, hr, lag, hlag, hlt⟩ := h
  have hlagLt := Replicator.lt_of_lag?_eq_some (hbelow.last last hlast)
    (hbelow.replicators r hr) hlag
  omega

end

/-- **Raising the margin.** A leader's record that is healthy within a margin is healthy within a
higher one exactly if this is below 2^63, although every margin is valid and judging the record
overflows within none. And where a gap is found to be too big, some follower really lags behind by
more than the margin exactly if this is below 2^63. -/
theorem leaderStanding_withMargin {record : Raft.Record} (hbelow : record.IsBelow (2 ^ 62))
    {margin raised : UInt64} (hle : margin ≤ raised) (settings : CheckSettings)
    (reports : Reports) :
    (∀ c : Config, Config.validate { c with check := c.check.withMargin raised } = c.validate) ∧
    (∀ m, leaderOverflows (settings.withMargin m) reports record = false) ∧
    (leaderStanding (settings.withMargin margin) reports record = none →
      (leaderStanding (settings.withMargin raised) reports record = none ↔
        raised.toNat < 2 ^ 63)) ∧
    (leaderStanding (settings.withMargin margin) reports record = some .logIndexGapTooBig →
      (LagsBeyond margin record ↔ margin.toNat < 2 ^ 63)) := by
  refine ⟨fun c => c.validate_withMargin raised, fun m => leaderOverflows_eq_false hbelow _ reports,
    fun hhealthy => ?raised, fun htooBig => ?lagging⟩
  case raised =>
    rw [leaderStanding_eq_none_iff] at hhealthy ⊢
    exact hhealthy.raise_iff hle
  case lagging =>
    refine ⟨fun h => h.margin_lt hbelow, fun hmargin => ?_⟩
    -- A margin that is a signed number is one for which the computation comes to the verdict.
    obtain ⟨verdict, hverdict⟩ :=
      exists_leaderVerdict (settings.withMargin margin) reports record
    obtain rfl := (hverdict.leaderStanding_eq hbelow hmargin).symm.trans htooBig
    exact hverdict.lagsBeyond

/-- A follower that lags behind by 1021 entries is too far behind within a margin of 1000, and keeps
up within one of 2000 and within the highest signed number. -/
theorem leaderStanding_withMargin_laggingLeader :
    laggingLeader.IsBelow (2 ^ 62) ∧ (1000 : UInt64) ≤ 2000 ∧
      (2000 : UInt64) ≤ 9223372036854775807 ∧ LagsBeyond 1000 laggingLeader ∧
      leaderStanding (CheckSettings.withMargin {} 2000) (fun _ _ => true) laggingLeader = none ∧
      leaderStanding (CheckSettings.withMargin {} 9223372036854775807) (fun _ _ => true)
        laggingLeader = none := by
  have htooBig : leaderStanding (CheckSettings.withMargin {} 1000) (fun _ _ => true)
      laggingLeader = some .logIndexGapTooBig := by decide
  have hhealthy : leaderStanding (CheckSettings.withMargin {} 2000) (fun _ _ => true)
      laggingLeader = none := by decide
  have hle : (1000 : UInt64) ≤ 2000 := by decide
  have hle' : (2000 : UInt64) ≤ 9223372036854775807 := by decide
  obtain ⟨-, -, -, hlagging⟩ :=
    leaderStanding_withMargin isBelow_laggingLeader hle {} fun _ _ => true
  obtain ⟨-, -, hraised, -⟩ :=
    leaderStanding_withMargin isBelow_laggingLeader hle' {} fun _ _ => true
  exact ⟨isBelow_laggingLeader, hle, hle', (hlagging htooBig).mpr (by decide), hhealthy,
    (hraised hhealthy).mpr (by decide)⟩

/-- A leader's record of three peers whose followers lack nothing. -/
def caughtUpLeader : Raft.Record :=
  { laggingLeader with replicators := [.replicating 5001 0, .replicating 5001 0] }

/-- Followers that lack nothing keep up within a margin of 1000, and are found to lag behind within
one of 2^63, which is valid and higher: no follower lags behind by more than that. -/
theorem caughtUpLeader_lags_within_higher_margin :
    (1000 : UInt64) ≤ 9223372036854775808 ∧ caughtUpLeader.IsBelow (2 ^ 62) ∧
      Config.validate { check := CheckSettings.withMargin {} 9223372036854775808 } = .ok () ∧
      leaderStanding (CheckSettings.withMargin {} 1000) (fun _ _ => true) caughtUpLeader = none ∧
      leaderStanding (CheckSettings.withMargin {} 9223372036854775808) (fun _ _ => true)
        caughtUpLeader = some .logIndexGapTooBig ∧
      ¬LagsBeyond 9223372036854775808 caughtUpLeader := by
  have hbelow : caughtUpLeader.IsBelow (2 ^ 62) := by
    refine ⟨isBelow_laggingLeader.last, ?_⟩
    simp only [caughtUpLeader, List.forall_mem_cons, List.not_mem_nil, false_imp_iff, implies_true,
      and_true, and_self]
    rintro next flying ⟨⟩
    decide
  refine ⟨by decide, hbelow, by decide +kernel, by decide, by decide, fun h => ?_⟩
  exact absurd (h.margin_lt hbelow) (by decide)

end Check

end CopysetWatch
