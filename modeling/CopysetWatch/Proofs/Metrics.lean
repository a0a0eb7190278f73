import CopysetWatch.Metrics

/-!
# What is published

Publishing under one series leaves all others alone. So a completed health check sets the five
gauges of its cluster and no others, a failed one sets none, and no gauge is ever counted up.
-/

namespace CopysetWatch

/-- What a completed health check is measured by. -/
inductive Gauge where
  | copysetsTotal
  | copysetsUnhealthy
  | checkHealthy
  | serviceExceptions
  | loadExceptions
  deriving DecidableEq, Repr

namespace Gauge

/-- The series of a gauge for a cluster. -/
def series : Gauge → String → Series
  | copysetsTotal => .copysetsTotal
  | copysetsUnhealthy => .copysetsUnhealthy
  | checkHealthy => .checkHealthy
  | serviceExceptions => .serviceExceptions
  | loadExceptions => .loadExceptions

/-- What a gauge shows of a report. -/
def value : Gauge → Registry → Nat
  | copysetsTotal, r => r.totalCount
  | copysetsUnhealthy, r => r.unhealthyCount
  | checkHealthy, r => if r.isHealthy then 1 else 0
  | serviceExceptions, r => r.serviceExceptions.size
  | loadExceptions, r => r.loadExceptions.size

end Gauge

namespace Metrics

/-- How often something was counted under a series, which is not there before the first time. -/
def counted (m : Metrics) (s : Series) : Nat :=
  (m.get? s).getD 0

/-- What is left out under one series cannot be found there only. -/
theorem lookup_filter_of_ne {s t : Series} (h : s ≠ t) (entries : List (Series × Nat)) :
    (entries.filter (·.1 != s)).lookup t = entries.lookup t := by
  induction entries with
  | nil => rfl
  | cons entry rest ih =>
    -- an entry that is left out is none of `t`, so the search passes it by either way
    by_cases hentry : entry.1 = s
    · have hother : (t == entry.1) = false := beq_false_of_ne (hentry ▸ h.symm)
      rw [List.filter_cons_of_neg (by simp [hentry]), List.lookup_cons, hother]
      exact ih
    · rw [List.filter_cons_of_pos (by simp [hentry]), List.lookup_cons, List.lookup_cons, ih]

theorem get?_set (m : Metrics) (s t : Series) (value : Nat) :
    (m.set s value).get? t = if s = t then some value else m.get? t := by
  unfold set get?
  split
  case isTrue h => exact h ▸ List.lookup_cons_self
  case isFalse h =>
    rw [List.lookup_cons, beq_false_of_ne (Ne.symm h)]
    exact lookup_filter_of_ne h m.entries

theorem get?_count_of_ne (m : Metrics) {s t : Series} (h : s ≠ t) :
    (m.count s).get? t = m.get? t := by
  rw [count, get?_set, if_neg h]

theorem counted_count (m : Metrics) (s t : Series) :
    (m.count s).counted t = m.counted t + if s = t then 1 else 0 := by
  unfold counted count
  rw [get?_set]
  split
  case isTrue h => rw [h, Option.getD_some]
  case isFalse => rfl

/-- A completed check sets every gauge of its cluster. -/
theorem get?_recordCheck_ok (m : Metrics) (cluster other : String) (r : Registry) (g : Gauge) :
    (m.recordCheck cluster (.ok r)).get? (g.series other) =
      if cluster = other then some (g.value r) else m.get? (g.series other) := by
  cases g <;> simp [recordCheck, get?_set, Gauge.series, Gauge.value]

/-- A failed check leaves every gauge alone. -/
theorem get?_recordCheck_error (m : Metrics) (cluster other : String) (f : Fault) (g : Gauge) :
    (m.recordCheck cluster (.error f)).get? (g.series other) = m.get? (g.series other) :=
  m.get?_count_of_ne (by cases g <;> simp [Gauge.series])

/-- Under a series that is no gauge, a check counts only as a failed one. -/
theorem counted_recordCheck (m : Metrics) (cluster : String) (outcome : Except Fault Registry)
    {s : Series} (h : ∀ g : Gauge, g.series cluster ≠ s) :
    (m.recordCheck cluster outcome).counted s =
      m.counted s + if outcome.toOption = none ∧ .checksFailed cluster = s then 1 else 0 := by
  cases outcome with
  | error f => simp [recordCheck, counted_count, Except.toOption]
  | ok r =>
    have htotal : .copysetsTotal cluster ≠ s := h .copysetsTotal
    have hunhealthy : .copysetsUnhealthy cluster ≠ s := h .copysetsUnhealthy
    have hhealthy : .checkHealthy cluster ≠ s := h .checkHealthy
    have hservice : .serviceExceptions cluster ≠ s := h .serviceExceptions
    have hload : .loadExceptions cluster ≠ s := h .loadExceptions
    simp [counted, recordCheck, get?_set, htotal, hunhealthy, hhealthy, hservice, hload,
      Except.toOption]

end Metrics

end CopysetWatch
