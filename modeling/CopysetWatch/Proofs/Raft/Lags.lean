import CopysetWatch.Raft.Record
import Mathlib.Tactic.NormNum

/-!
# Lags

How many entries of a log a follower lacks is a difference of unsigned numbers and may be negative,
where entries are counted that the log does not have yet. The gap that a leader's record is judged
by is this lag in signed numbers of 64 bits. As long as all log positions are below 2^62, it is the
lag itself and no step on the way to it overflows. A bound below 2^63 is a signed number as well.
-/

namespace CopysetWatch.Raft

/-- A number from -2^63 to 2^63 - 1 is not wrapped around. -/
theorem bmod_two_pow_of_mem {n : Int} (hlower : -2 ^ 63 ≤ n) (hupper : n < 2 ^ 63) :
    n.bmod (2 ^ 64) = n :=
  Int.bmod_eq_of_le (by norm_num; omega) (by norm_num; omega)

/-- A number below 2^63 is the same as a signed number. -/
theorem toInt_toInt64_of_lt {value : UInt64} (h : value.toNat < 2 ^ 63) :
    value.toInt64.toInt = value.toNat := by
  have hwrapped : value.toInt64.toInt = (value.toNat : Int).bmod (2 ^ 64) :=
    BitVec.toInt_eq_toNat_bmod value.toBitVec
  rw [hwrapped, bmod_two_pow_of_mem (by omega) (by omega)]

/-- A number is negative as a signed number from 2^63 on. -/
theorem toInt64_nonneg_iff {value : UInt64} : 0 ≤ value.toInt64 ↔ value.toNat < 2 ^ 63 := by
  have hlt : value.toBitVec.toNat < 2 ^ 64 := value.toNat_lt
  rw [Int64.le_iff_toInt_le]
  change 0 ≤ value.toBitVec.toInt ↔ value.toBitVec.toNat < 2 ^ 63
  rw [BitVec.toInt_eq_toNat_cond]
  split <;> omega

namespace Replicator

/-- Whether a replicator is plainly replicating. -/
def isReplicating : Replicator → Bool
  | replicating .. => true
  | _ => false

/-- How many entries the follower lacks of the log up to an index, counted without bounds; entries
in flight are not acknowledged yet. -/
def lag? (lastIndex : UInt64) : Replicator → Option Int
  | replicating next flying => some (lastIndex.toNat - (next.toNat - 1 - flying.toNat))
  | _ => none

/-- Whether the follower acknowledged more than the log up to an index. -/
def isAhead (lastIndex : UInt64) (r : Replicator) : Bool :=
  (r.lag? lastIndex).any (· < 0)

/-- The log positions of a replicator are below a bound. -/
def IsBelow (bound : Nat) (r : Replicator) : Prop :=
  ∀ next flying, r = replicating next flying → next.toNat < bound ∧ flying.toNat < bound

/-- Below 2^62 the gap of a replicator is its lag. -/
theorem map_toInt_gap {lastIndex : UInt64} (hlast : lastIndex.toNat < 2 ^ 62) {r : Replicator}
    (h : r.IsBelow (2 ^ 62)) : (r.gap lastIndex).map Int64.toInt = r.lag? lastIndex := by
  cases r with
  | installingSnapshot => rfl
  | malformed line => rfl
  | replicating next flying =>
    obtain ⟨hnext, hflying⟩ := h next flying rfl
    have hsigned {value : UInt64} (hvalue : value.toNat < 2 ^ 62) :
        value.toInt64.toInt = value.toNat := toInt_toInt64_of_lt (by omega)
    have hone : (1 : Int64).toInt = 1 := rfl
    simp (disch := omega) only [gap, lag?, Option.map_some, Int64.toInt_sub, hsigned hlast,
      hsigned hnext, hsigned hflying, hone, bmod_two_pow_of_mem]

/-- Below 2^62 no step on the way to a gap overflows. -/
theorem overflows_eq_false {lastIndex : UInt64} (hlast : lastIndex.toNat < 2 ^ 62) {r : Replicator}
    (h : r.IsBelow (2 ^ 62)) : r.overflows lastIndex = false := by
  cases r with
  | installingSnapshot => rfl
  | malformed line => rfl
  | replicating next flying =>
    obtain ⟨hnext, hflying⟩ := h next flying rfl
    have hsigned {value : UInt64} (hvalue : value.toNat < 2 ^ 62) :
        value.toInt64.toInt = value.toNat := toInt_toInt64_of_lt (by omega)
    have hfits {n : Int} (hlower : -2 ^ 63 ≤ n) (hupper : n < 2 ^ 63) : fitsWord n = true := by
      rw [fitsWord, Bool.and_eq_true, decide_eq_true_eq, decide_eq_true_eq]
      exact ⟨hlower, Int.le_of_lt_add_one hupper⟩
    simp only [overflows, hsigned hlast, hsigned hnext, hsigned hflying]
    rw [hfits (by omega) (by omega), hfits (by omega) (by omega), hfits (by omega) (by omega)]
    rfl

/-- Below 2^62 no lag is too big for a signed number. -/
theorem lt_of_lag?_eq_some {lastIndex : UInt64} (hlast : lastIndex.toNat < 2 ^ 62) {r : Replicator}
    (h : r.IsBelow (2 ^ 62)) {lag : Int} (hlag : r.lag? lastIndex = some lag) : lag < 2 ^ 63 := by
  cases r with
  | installingSnapshot => cases hlag
  | malformed line => cases hlag
  | replicating next flying =>
    obtain ⟨hnext, hflying⟩ := h next flying rfl
    obtain rfl := Option.some.inj hlag
    omega

end Replicator

/-- The log positions of a record are below a bound. -/
structure Record.IsBelow (bound : Nat) (record : Record) : Prop where
  last : ∀ last, record.lastLogId = some last → last.index.toNat < bound
  replicators : ∀ r ∈ record.replicators, r.IsBelow bound

end CopysetWatch.Raft
