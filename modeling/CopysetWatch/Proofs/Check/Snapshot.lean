import CopysetWatch.Proofs.Check.Outcome
import CopysetWatch.Proofs.Registry.PlainMap

/-!
# Snapshots of a health check

A snapshot holds the counts of a registry as far as 32 bits go. The registry of a health check is
consistent, so its snapshot is healthy exactly if it counts nothing unhealthy, and it never counts
more that is unhealthy than there is.
-/

namespace CopysetWatch

/-- A registry is healthy if it counts nothing unhealthy. -/
theorem Registry.isHealthy_iff_unhealthyCount_eq (r : Registry) :
    r.isHealthy ↔ r.unhealthyCount = 0 := by
  rw [isHealthy, Std.ExtTreeMap.isEmpty_eq_size_beq_zero, beq_iff_eq]
  rfl

theorem Registry.Consistent.unhealthyCount_le {r : Registry} (h : r.Consistent) :
    r.unhealthyCount ≤ r.totalCount :=
  h.unhealthyCount_add ▸ Nat.le_add_right ..

/-- A snapshot holds the counts of a registry as far as 32 bits go, and agrees with itself. -/
structure HealthSnapshot.Shows (s : HealthSnapshot) (r : Registry) : Prop where
  healthy : s.healthy ↔ s.unhealthy = 0
  le : s.unhealthy ≤ s.total
  total : s.total.toNat = min r.totalCount (UInt32.size - 1)
  unhealthy : s.unhealthy.toNat = min r.unhealthyCount (UInt32.size - 1)

namespace Check

theorem toNat_saturating (count : Nat) :
    (saturating count).toNat = min count (UInt32.size - 1) := by
  have hsize : UInt32.size = 4294967296 := rfl
  exact UInt32.toNat_ofNat_of_lt' (by omega)

theorem snapshot_shows {r : Registry} (h : r.Consistent) : (snapshot r).Shows r where
  healthy := by
    have hsize : UInt32.size = 4294967296 := rfl
    have hzero : saturating r.unhealthyCount = 0 ↔ r.unhealthyCount = 0 := by
      rw [← UInt32.toNat_inj, toNat_saturating]
      change min r.unhealthyCount (UInt32.size - 1) = 0 ↔ _
      omega
    exact r.isHealthy_iff_unhealthyCount_eq.trans hzero.symm
  le := by
    have hle := h.unhealthyCount_le
    rw [UInt32.le_iff_toNat_le]
    change (saturating r.unhealthyCount).toNat ≤ (saturating r.totalCount).toNat
    rw [toNat_saturating, toNat_saturating]
    omega
  total := toNat_saturating r.totalCount
  unhealthy := toNat_saturating r.unhealthyCount

/-- A health check that succeeds leaves a consistent registry. -/
theorem consistent_of_inspect {settings : CheckSettings} {gateway : Nat → Gateway} {start : Nat}
    {r : Registry} (h : ((inspect settings gateway).run start).1 = .value r) : r.Consistent := by
  obtain ⟨e, -, hjudge, -⟩ := Inquiry.exists_of_run_bind_eq_value h
  exact (consistent_and_sameServers_of_judge (Outcome.ofExcept_eq_value_iff.mp hjudge)).1

end Check

end CopysetWatch
