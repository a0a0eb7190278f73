import CopysetWatch.Proofs.Alert.Services
import CopysetWatch.Proofs.Text.Readings

/-!
# Capacity alerts

The used percentage is the whole part of a quotient that is computed without bounds, and only its
lowest 64 bits are kept. As long as nothing is cut off, which is so for every cluster that uses less
than 2^64 percent of what it has, a capacity alert compares the sizes exactly. Beyond that the
percentage starts again from zero, so that a cluster which is overrun far enough is found healthy.
-/

namespace CopysetWatch.Alert

namespace Capacity

/-- The used capacity in whole percent, without bounds. -/
def percent (c : Capacity) : Nat :=
  c.used.toNat * 100 / c.total.toNat

section

variable {c : Capacity}

theorem toNat_total_pos (htotal : c.total ≠ 0) : 0 < c.total.toNat :=
  Nat.pos_of_ne_zero fun hzero => htotal (UInt64.toNat_inj.mp hzero)

/-- The percentage reaches a threshold if the used capacity reaches this share of the total. -/
theorem le_percent_iff (htotal : c.total ≠ 0) {t : Nat} :
    t ≤ c.percent ↔ t * c.total.toNat ≤ c.used.toNat * 100 :=
  Nat.le_div_iff_mul_le (toNat_total_pos htotal)

/-- The percentage does not fall as more of the same total is used. -/
theorem percent_le_percent {later : Capacity} (htotal : later.total = c.total)
    (hused : c.used ≤ later.used) : c.percent ≤ later.percent := by
  rw [percent, percent, htotal]
  exact Nat.div_le_div_right (Nat.mul_le_mul_right 100 (UInt64.le_iff_toNat_le.mp hused))

/-- The percentage that is kept is what 64 bits hold of it. -/
theorem exists_usedPercent (htotal : c.total ≠ 0) :
    ∃ used, c.usedPercent = some used ∧ used.toNat = c.percent % UInt64.size :=
  ⟨.ofNat c.percent, if_neg htotal, UInt64.toNat_ofNat⟩

end

end Capacity

/-- The wording of a problem with the capacity. -/
def capacityMessage (used threshold : Nat) : String :=
  "cluster capacity " ++ used.repr ++ "% used, threshold " ++ threshold.repr ++ "%"

section

variable {c : Capacity} {t : Nat} {rule : String} {sight : Sight} {start : Nat}

/-- A rule is the threshold that it writes. -/
theorem capacityThreshold_eq (hrule : Text.IsNumeral t (Text.trim rule.toList))
    (ht : t < UInt64.size) : capacityThreshold rule = .ok (.ofNat t) := by
  have hread : Text.readUInt64 (Text.trim rule.toList) = .ok (.ofNat t) := by
    rw [Text.readUInt64_eq_ok_iff, UInt64.toNat_ofNat_of_lt' ht]
    exact hrule
  rw [capacityThreshold, hread]

/-- There is a problem if what is kept of the percentage reaches the threshold. -/
theorem capacityProblem_eq (htotal : c.total ≠ 0) (ht : t < UInt64.size) :
    capacityProblem (.ofNat t) c =
      if t ≤ c.percent % UInt64.size then some (capacityMessage (c.percent % UInt64.size) t)
      else none := by
  obtain ⟨used, hused, hkept⟩ := Capacity.exists_usedPercent htotal
  have hthreshold : (UInt64.ofNat t).toNat = t := UInt64.toNat_ofNat_of_lt' ht
  have hreached : UInt64.ofNat t ≤ used ↔ t ≤ c.percent % UInt64.size := by
    rw [UInt64.le_iff_toNat_le, hthreshold, hkept]
  have hproblem : capacityProblem (.ofNat t) c =
      if .ofNat t ≤ used then some (capacityMessage used.toNat (UInt64.ofNat t).toNat)
        else none := by
    unfold capacityProblem capacityMessage
    rw [hused]
  by_cases h : UInt64.ofNat t ≤ used
  · rw [hproblem, if_pos h, if_pos (hreached.mp h), hkept, hthreshold]
  · rw [hproblem, if_neg h, if_neg (mt hreached.mpr h)]

/-- A capacity that is known is compared with the threshold of the rule. -/
theorem finding_capacity (env : Environment)
    (hcapacity : (sight.probe start).capacity.ending = .value c) (htotal : c.total ≠ 0)
    (hrule : Text.IsNumeral t (Text.trim rule.toList)) (ht : t < UInt64.size) :
    (Kind.clusterCapacity.evaluate env sight rule start).finding =
      .value (if t ≤ c.percent % UInt64.size then
        some (capacityMessage (c.percent % UInt64.size) t) else none) := by
  have hthreshold : (Inquiry.ofExcept (capacityThreshold rule)).run start =
      (.value (.ofNat t), 0) := by
    rw [Inquiry.run_ofExcept, capacityThreshold_eq hrule ht]
    rfl
  have hasked : ((Inquiry.ask fun m => (sight.probe m).capacity).run start).1 = .value c := by
    rw [Inquiry.run_ask]
    exact hcapacity
  have hfinding : (Kind.clusterCapacity.evaluate env sight rule start).finding =
      .value (capacityProblem (.ofNat t) c) := by
    unfold Kind.evaluate Evaluation.ofInquiry
    dsimp only
    rw [Inquiry.run_bind_of_value (congrArg Prod.fst hthreshold), hthreshold]
    dsimp only
    rw [Nat.add_zero, Inquiry.run_bind_of_value hasked]
    rfl
  rw [hfinding, capacityProblem_eq htotal ht]

/-- An alert is found exactly if what is kept of the percentage reaches the threshold. -/
theorem finding_capacity_eq_some_iff (env : Environment)
    (hcapacity : (sight.probe start).capacity.ending = .value c) (htotal : c.total ≠ 0)
    (hrule : Text.IsNumeral t (Text.trim rule.toList)) (ht : t < UInt64.size) :
    (Kind.clusterCapacity.evaluate env sight rule start).finding =
      .value (some (capacityMessage (c.percent % UInt64.size) t)) ↔
        t ≤ c.percent % UInt64.size := by
  rw [finding_capacity env hcapacity htotal hrule ht, Outcome.value.injEq,
    Option.ite_none_right_eq_some]
  exact and_iff_left rfl

/-- Otherwise the cluster is found healthy. -/
theorem finding_capacity_eq_none_iff (env : Environment)
    (hcapacity : (sight.probe start).capacity.ending = .value c) (htotal : c.total ≠ 0)
    (hrule : Text.IsNumeral t (Text.trim rule.toList)) (ht : t < UInt64.size) :
    (Kind.clusterCapacity.evaluate env sight rule start).finding = .value none ↔
      c.percent % UInt64.size < t := by
  rw [finding_capacity env hcapacity htotal hrule ht, Outcome.value.injEq, ite_eq_right_iff,
    ← Nat.not_le]
  exact ⟨fun h hle => (nomatch h hle), fun h hle => absurd hle h⟩

end

/-- **Capacity is compared exactly, as far as 64 bits go.** With a total and a threshold, every
evaluation decides. What is kept of the percentage is the percentage itself exactly if this is below
2^64, and there is a problem just if what is kept reaches the threshold. So below 2^64 there is a
problem just if the used capacity reaches the threshold's share of the total, and more used capacity
does not end it. A higher threshold never makes a problem. -/
theorem evaluate_capacity (env : Environment) {sight : Sight} {start : Nat} {c : Capacity}
    (hcapacity : (sight.probe start).capacity.ending = .value c) (htotal : c.total ≠ 0)
    {rule : String} {t : Nat} (hrule : Text.IsNumeral t (Text.trim rule.toList))
    (ht : t < UInt64.size) :
    let finding (sight : Sight) (rule : String) (start : Nat) :=
      (Kind.clusterCapacity.evaluate env sight rule start).finding
    (∃ used, c.usedPercent = some used ∧ (used.toNat = c.percent ↔ c.percent < UInt64.size) ∧
      (finding sight rule start = .value (some (capacityMessage used.toNat t)) ↔ t ≤ used.toNat) ∧
      (finding sight rule start = .value none ↔ used.toNat < t)) ∧
    (c.percent < UInt64.size →
      (finding sight rule start = .value (some (capacityMessage c.percent t)) ↔
        t * c.total.toNat ≤ c.used.toNat * 100) ∧
      (finding sight rule start = .value none ↔ c.used.toNat * 100 < t * c.total.toNat)) ∧
    (∀ (later : Sight) (moment : Nat) (fuller : Capacity),
      (later.probe moment).capacity.ending = .value fuller → fuller.total = c.total →
      c.used ≤ fuller.used → fuller.percent < UInt64.size →
      finding later rule moment = .value none → finding sight rule start = .value none) ∧
    ∀ (higher : String) (raised : Nat), Text.IsNumeral raised (Text.trim higher.toList) →
      raised < UInt64.size → t ≤ raised → finding sight rule start = .value none →
      finding sight higher start = .value none := by
  intro finding
  have hproblem := finding_capacity_eq_some_iff env hcapacity htotal hrule ht
  have hhealthy := finding_capacity_eq_none_iff env hcapacity htotal hrule ht
  refine ⟨?kept, fun hbelow => ?exact, ?fuller, ?raised⟩
  case kept =>
    obtain ⟨used, hused, hkept⟩ := Capacity.exists_usedPercent htotal
    rw [← hkept] at hproblem hhealthy
    exact ⟨used, hused, by rw [hkept]; exact Nat.mod_eq_iff_lt (by decide), hproblem, hhealthy⟩
  case exact =>
    rw [Nat.mod_eq_of_lt hbelow] at hproblem hhealthy
    rw [← Capacity.le_percent_iff htotal, ← Nat.not_le, ← Capacity.le_percent_iff htotal,
      Nat.not_le]
    exact ⟨hproblem, hhealthy⟩
  case fuller =>
    intro later moment fuller hfuller htotal' hused hbelow hquiet
    have hgrown := Capacity.percent_le_percent htotal' hused
    have hlater := finding_capacity_eq_none_iff env hfuller (htotal' ▸ htotal) hrule ht
    rw [Nat.mod_eq_of_lt hbelow] at hlater
    rw [Nat.mod_eq_of_lt (hgrown.trans_lt hbelow)] at hhealthy
    exact hhealthy.mpr (hgrown.trans_lt (hlater.mp hquiet))
  case raised =>
    intro higher raised hhigher hraised hle hquiet
    rw [finding_capacity_eq_none_iff env hcapacity htotal hhigher hraised]
    exact (hhealthy.mp hquiet).trans_le hle

/-- What is seen of a cluster through its capacity alone. -/
def capacityAlone (c : Capacity) : Sight :=
  let nothing := endpointsAlone 0 [] fun _ => .now (.error (.gateway ""))
  { nothing with probe := fun m => { nothing.probe m with capacity := .now (.ok c) } }

/-- A cluster that uses five of three bytes has used 166 percent, which reaches a threshold of 166
and none of 167. -/
theorem evaluate_capacity_overfull :
    let env : Environment := ⟨"east", {}, .ofSeconds 1⟩
    (Kind.clusterCapacity.evaluate env (capacityAlone ⟨3, 5⟩) " +166 " 0).finding =
        .value (some "cluster capacity 166% used, threshold 166%") ∧
      (Kind.clusterCapacity.evaluate env (capacityAlone ⟨3, 5⟩) "167" 0).finding = .value none ∧
      (Kind.clusterCapacity.evaluate env (capacityAlone ⟨3, 4⟩) "167" 0).finding = .value none := by
  intro env
  have hrule : Text.IsNumeral 166 (Text.trim " +166 ".toList) := by decide
  have hrule' : Text.IsNumeral 167 (Text.trim "167".toList) := by decide
  have htotal : (3 : UInt64) ≠ 0 := by decide
  have hknown (c : Capacity) : ((capacityAlone c).probe 0).capacity.ending = .value c := rfl
  obtain ⟨-, hreached, -, -⟩ := evaluate_capacity env (hknown ⟨3, 5⟩) htotal hrule (by decide)
  obtain ⟨-, hmissed, -, -⟩ := evaluate_capacity env (hknown ⟨3, 5⟩) htotal hrule' (by decide)
  obtain ⟨-, -, hfuller, -⟩ := evaluate_capacity env (hknown ⟨3, 4⟩) htotal hrule' (by decide)
  have hbelow : Capacity.percent ⟨3, 5⟩ < UInt64.size := by decide
  have hquiet := (hmissed hbelow).2.mpr (by decide)
  exact ⟨(hreached hbelow).1.mpr (by decide), hquiet,
    hfuller (capacityAlone ⟨3, 5⟩) 0 ⟨3, 5⟩ rfl rfl (by decide) hbelow hquiet⟩

/-- A cluster of one byte that uses this byte is full, and one that uses 2^62 is found healthy: the
percentage is a multiple of 2^64, of which nothing is kept. -/
theorem overrun_found_healthy :
    let env : Environment := ⟨"east", {}, .ofSeconds 1⟩
    let c : Capacity := ⟨1, 4611686018427387904⟩
    Text.IsNumeral 80 (Text.trim "80".toList) ∧ 80 * c.total.toNat ≤ c.used.toNat * 100 ∧
      c.percent = 25 * UInt64.size ∧ c.usedPercent = some 0 ∧
      (Kind.clusterCapacity.evaluate env (capacityAlone c) "80" 0).finding = .value none ∧
      (Kind.clusterCapacity.evaluate env (capacityAlone ⟨1, 1⟩) "80" 0).finding =
        .value (some "cluster capacity 100% used, threshold 80%") := by
  decide +kernel

end CopysetWatch.Alert
