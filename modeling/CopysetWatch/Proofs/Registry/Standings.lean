import CopysetWatch.Registry

/-!
# Standings of the copysets in a registry

A registry keeps what it knows of a copyset in three places: among the observed copysets, in the
bucket of a problem, and beside the buckets as the problem of that copyset. This file proves that
no operation lets these places disagree, and that each operation changes the standing of one
copyset only, where the standing is all that the three places say about it.
-/

namespace CopysetWatch.Registry

/-- The three places agree: a copyset with a problem was observed, a bucket holds exactly the
copysets that have its problem, and there is no bucket with nothing in it. -/
structure Consistent (r : Registry) : Prop where
  observed : ∀ {id p}, r.problems[id]? = some p → id ∈ r.observed
  mem_filedUnder : ∀ {p id}, id ∈ r.filedUnder p ↔ r.problems[id]? = some p
  ne_empty : ∀ {p : Problem}, r.buckets[p]? ≠ some ∅

/-- What a registry says about a copyset: nothing before it was observed, and then its problem
or that it has none. -/
def standing (r : Registry) (id : GroupId) : Option (Option Problem) :=
  if id ∈ r.observed then some (r.problemOf id) else none

/-- The class of a copyset is read off its standing. -/
theorem classificationOf_eq (r : Registry) (id : GroupId) :
    r.classificationOf id = (r.standing id).map Classification.ofProblem? := by
  unfold classificationOf standing
  by_cases hid : id ∈ r.observed
  · simp [hid]
  · simp [hid]

/-- The observed copysets are those that have a standing. -/
theorem mem_total_iff (r : Registry) (id : GroupId) :
    id ∈ r.total ↔ (r.standing id).isSome := by
  unfold total standing
  by_cases hid : id ∈ r.observed
  · simp [hid]
  · simp [hid]

/-- The observed copysets are those that have a class. -/
theorem isSome_classificationOf (r : Registry) (id : GroupId) :
    (r.classificationOf id).isSome ↔ id ∈ r.total := by
  rw [classificationOf_eq, Option.isSome_map, mem_total_iff]

/-- The number of observed copysets is that of the listed ones. -/
theorem totalCount_eq (r : Registry) : r.totalCount = r.total.length :=
  Std.ExtTreeSet.length_toList.symm

/-- A copyset that was not observed has no problem. -/
theorem Consistent.problemOf_eq_none {r : Registry} (h : r.Consistent) {id : GroupId}
    (hid : id ∉ r.observed) : r.problemOf id = none := by
  cases hp : r.problemOf id with
  | none => rfl
  | some p => exact absurd (h.observed hp) hid

/-- The problem of a copyset is read off its standing. -/
theorem Consistent.problemOf_eq {r : Registry} (h : r.Consistent) (id : GroupId) :
    r.problemOf id = (r.standing id).join := by
  unfold standing
  split
  · rfl
  case isFalse hid => exact h.problemOf_eq_none hid

/-- Registries without contradictions are told apart by the standings of their copysets, by
what was reported, and by their exceptions. -/
theorem Consistent.ext {r s : Registry} (hr : r.Consistent) (hs : s.Consistent)
    (hstanding : ∀ id, r.standing id = s.standing id) (hreports : r.reports = s.reports)
    (hservice : r.serviceExceptions = s.serviceExceptions)
    (hload : r.loadExceptions = s.loadExceptions) : r = s := by
  have hobserved : r.observed = s.observed := by
    apply Std.ExtTreeSet.ext_mem
    intro id
    have hmem := (r.mem_total_iff id).trans ((hstanding id) ▸ (s.mem_total_iff id).symm)
    simpa [total] using hmem
  have hproblems (id : GroupId) : r.problems[id]? = s.problems[id]? := by
    have hp := hr.problemOf_eq id
    rw [hstanding id, ← hs.problemOf_eq id] at hp
    exact hp
  have hbuckets : r.buckets = s.buckets := by
    apply Std.ExtTreeMap.ext_getElem?
    intro p
    have hfiled : r.filedUnder p = s.filedUnder p := by
      apply Std.ExtTreeSet.ext_mem
      intro id
      rw [hr.mem_filedUnder, hs.mem_filedUnder, hproblems id]
    have hrp := hr.ne_empty (p := p)
    have hsp := hs.ne_empty (p := p)
    unfold filedUnder at hfiled
    cases hfst : r.buckets[p]? <;> cases hsnd : s.buckets[p]? <;> simp_all
  cases r
  cases s
  simp only [Registry.mk.injEq]
  exact ⟨hobserved, hbuckets, Std.ExtTreeMap.ext_getElem? hproblems, hreports, hservice, hload⟩

/-! ### Clearing and filing -/

@[simp] theorem observed_clear (r : Registry) (id : GroupId) :
    (r.clear id).observed = r.observed := by
  unfold clear
  split <;> rfl

/-- Clearing a copyset forgets its problem and no other. -/
theorem problems_clear (r : Registry) (id other : GroupId) :
    (r.clear id).problems[other]? = if id = other then none else r.problems[other]? := by
  unfold clear
  cases hp : r.problems[id]? with
  | none =>
    by_cases hother : id = other
    · simp [← hother, hp]
    · simp [hother]
  | some p => simp [Std.ExtTreeMap.getElem?_erase]

/-- A bucket that is taken away holds as much as one with nothing in it. -/
theorem getD_filter_not_isEmpty (bucket : Option (Std.ExtTreeSet GroupId)) :
    (bucket.filter fun left => !left.isEmpty).getD ∅ = bucket.getD ∅ := by
  cases bucket with
  | none => rfl
  | some left =>
    rw [Option.filter_some]
    cases hleft : left.isEmpty with
    | false => rfl
    | true =>
      rw [Std.ExtTreeSet.isEmpty_iff.mp hleft]
      rfl

/-- Clearing a copyset takes it out of the bucket of its problem. -/
theorem filedUnder_clear (r : Registry) (id : GroupId) (q : Problem) :
    (r.clear id).filedUnder q =
      if r.problems[id]? = some q then (r.filedUnder q).erase id else r.filedUnder q := by
  unfold clear
  cases hp : r.problems[id]? with
  | none => simp
  | some p =>
    simp only [filedUnder, Std.ExtTreeMap.getElem?_alter, Std.LawfulEqCmp.compare_eq_iff_eq,
      Option.some.injEq]
    split
    case isTrue hpq =>
      subst hpq
      rw [getD_filter_not_isEmpty]
      cases r.buckets[p]? with
      | none => simp
      | some ids => rfl
    case isFalse => rfl

/-- Filing a copyset puts it into the bucket of its new problem. -/
theorem filedUnder_file (r : Registry) (id : GroupId) (p q : Problem) :
    (r.file id p).filedUnder q = if p = q then (r.filedUnder q).insert id else r.filedUnder q := by
  simp only [file, filedUnder, Std.ExtTreeMap.getElem?_alter, Std.LawfulEqCmp.compare_eq_iff_eq]
  split
  case isTrue hpq =>
    subst hpq
    rfl
  case isFalse => rfl

/-- Filing a copyset gives it a problem and changes no other one. -/
theorem problems_file (r : Registry) (id : GroupId) (p : Problem) (other : GroupId) :
    (r.file id p).problems[other]? = if id = other then some p else r.problems[other]? := by
  simp [file, Std.ExtTreeMap.getElem?_insert]

/-! ### The places agree after every operation -/

theorem consistent_empty : empty.Consistent where
  observed := by simp [empty]
  mem_filedUnder := by simp [empty, filedUnder]
  ne_empty := by simp [empty]

theorem Consistent.observe {r : Registry} (h : r.Consistent) (id : GroupId) :
    (r.observe id).Consistent where
  observed hp := Std.ExtTreeSet.mem_insert.mpr (.inr (h.observed hp))
  mem_filedUnder := h.mem_filedUnder
  ne_empty := h.ne_empty

theorem Consistent.clear {r : Registry} (h : r.Consistent) (id : GroupId) :
    (r.clear id).Consistent where
  observed := by
    intro other p hp
    rw [problems_clear] at hp
    split at hp
    · cases hp
    · rw [observed_clear]
      exact h.observed hp
  mem_filedUnder := by
    intro q other
    rw [problems_clear, filedUnder_clear]
    by_cases hid : id = other
    · subst hid
      by_cases hq : r.problems[id]? = some q
      · simp [hq]
      · simpa [hq] using mt h.mem_filedUnder.mp hq
    · split
      · simpa [Std.ExtTreeSet.mem_erase, hid] using h.mem_filedUnder
      · simpa [hid] using h.mem_filedUnder
  ne_empty := by
    intro q
    unfold Registry.clear
    cases hp : r.problems[id]? with
    | none => exact h.ne_empty
    | some p =>
      simp only [Std.ExtTreeMap.getElem?_alter, Std.LawfulEqCmp.compare_eq_iff_eq]
      split
      · intro hempty
        simpa using (Option.filter_eq_some_iff.mp hempty).2
      · exact h.ne_empty

/-- A copyset may be filed once it is observed and in no bucket. -/
theorem Consistent.file {r : Registry} (h : r.Consistent) {id : GroupId} (p : Problem)
    (hid : id ∈ r.observed) (hfree : r.problems[id]? = none) : (r.file id p).Consistent where
  observed := by
    intro other q hq
    rw [problems_file] at hq
    split at hq
    case isTrue heq => exact heq ▸ hid
    case isFalse => exact h.observed hq
  mem_filedUnder := by
    intro q other
    rw [problems_file, filedUnder_file]
    by_cases heq : id = other
    · subst heq
      by_cases hpq : p = q
      · simp [hpq]
      · simp [hpq, h.mem_filedUnder, hfree]
    · split
      · simpa [Std.ExtTreeSet.mem_insert, heq] using h.mem_filedUnder
      · simpa [heq] using h.mem_filedUnder
  ne_empty := by
    intro q
    simp only [Registry.file, Std.ExtTreeMap.getElem?_alter, Std.LawfulEqCmp.compare_eq_iff_eq]
    split
    · simp
    · exact h.ne_empty

theorem Consistent.classify {r : Registry} (h : r.Consistent) (id : GroupId)
    (c : Classification) : (r.classify id c).Consistent := by
  cases c with
  | total => exact h.observe id
  | healthy => exact (h.observe id).clear id
  | problem p =>
    simp only [Registry.classify]
    split
    · exact h.observe id
    · apply ((h.observe id).clear id).file p
      · simp [Registry.observe]
      · simp [problems_clear]

theorem Consistent.flag {r : Registry} (h : r.Consistent) (id : GroupId) (c : Classification) :
    (r.flag id c).2.Consistent := by
  unfold Registry.flag
  split
  · exact h.observe id
  · exact h.classify id c

/-! ### The standings after every operation -/

/-- Observing a copyset gives it a standing without a problem, unless it has a standing. -/
theorem Consistent.standing_observe {r : Registry} (h : r.Consistent) (id other : GroupId) :
    (r.observe id).standing other =
      if id = other then some (r.standing id).join else r.standing other := by
  have hproblem : (r.observe id).problemOf other = r.problemOf other := rfl
  rw [← h.problemOf_eq, standing, hproblem]
  by_cases hid : id = other
  · subst hid
    simp [Registry.observe]
  · simp [standing, Registry.observe, Std.ExtTreeSet.mem_insert, hid]

theorem observed_classify (r : Registry) (id : GroupId) (c : Classification) :
    (r.classify id c).observed = r.observed.insert id := by
  cases c with
  | total => rfl
  | healthy => simp [classify, observe]
  | problem p =>
    simp only [classify]
    split
    · rfl
    · simp [file, observe]

/-- Classifying a copyset gives it the problem of the class, or none for the healthy class. -/
theorem problemOf_classify (r : Registry) (id other : GroupId) (s : Option Problem) :
    (r.classify id (.ofProblem? s)).problemOf other =
      if id = other then s else r.problemOf other := by
  unfold problemOf
  cases s with
  | none => simp [Classification.ofProblem?, classify, problems_clear, observe]
  | some p =>
    simp only [Classification.ofProblem?, classify]
    split
    case isTrue hp =>
      by_cases hid : id = other
      · simp [← hid, hp, observe]
      · simp [hid, observe]
    case isFalse =>
      rw [problems_file, problems_clear]
      by_cases hid : id = other
      · simp [hid]
      · simp [hid, observe]

/-- Classifying a copyset as healthy or under a problem sets its standing. -/
theorem standing_classify (r : Registry) (id other : GroupId) (s : Option Problem) :
    (r.classify id (.ofProblem? s)).standing other =
      if id = other then some s else r.standing other := by
  unfold standing
  rw [observed_classify, problemOf_classify]
  by_cases hid : id = other
  · simp [hid]
  · simp [hid, Std.ExtTreeSet.mem_insert]

/-- A copyset that has a problem is observed already, so observing it changes nothing. -/
theorem Consistent.observe_eq_self {r : Registry} (h : r.Consistent) {id : GroupId}
    (hid : (r.problemOf id).isSome) : r.observe id = r := by
  obtain ⟨p, hp⟩ := Option.isSome_iff_exists.mp hid
  have hinsert : r.observed.insert id = r.observed := by
    apply Std.ExtTreeSet.ext_mem
    intro other
    rw [Std.ExtTreeSet.mem_insert, Std.LawfulEqCmp.compare_eq_iff_eq]
    constructor
    · rintro (rfl | hmem)
      · exact h.observed hp
      · exact hmem
    · exact .inr
  unfold Registry.observe
  rw [hinsert]

/-- Flagging a copyset gives it the problem if it has none. -/
theorem Consistent.standing_flag {r : Registry} (h : r.Consistent) (id other : GroupId)
    (p : Problem) :
    (r.flag id (.problem p)).2.standing other =
      if id = other ∧ r.problemOf id = none then some (some p) else r.standing other := by
  unfold Registry.flag
  split
  case isTrue hid =>
    rw [h.observe_eq_self hid, if_neg]
    rintro ⟨-, hnone⟩
    rw [hnone] at hid
    cases hid
  case isFalse hid =>
    rw [Option.not_isSome_iff_eq_none] at hid
    simp only [hid, and_true]
    exact r.standing_classify id other (some p)

/-! ### What is known of the servers -/

/-- Two registries know the same of the chunk servers. -/
structure SameServers (r s : Registry) : Prop where
  reports : r.reports = s.reports
  serviceExceptions : r.serviceExceptions = s.serviceExceptions
  loadExceptions : r.loadExceptions = s.loadExceptions

theorem SameServers.trans {r s t : Registry} (hrs : r.SameServers s) (hst : s.SameServers t) :
    r.SameServers t where
  reports := hrs.reports.trans hst.reports
  serviceExceptions := hrs.serviceExceptions.trans hst.serviceExceptions
  loadExceptions := hrs.loadExceptions.trans hst.loadExceptions

theorem sameServers_observe (r : Registry) (id : GroupId) : (r.observe id).SameServers r :=
  ⟨rfl, rfl, rfl⟩

theorem sameServers_clear (r : Registry) (id : GroupId) : (r.clear id).SameServers r := by
  unfold clear
  split <;> exact ⟨rfl, rfl, rfl⟩

/-- Classifying a copyset says nothing about the chunk servers. -/
theorem sameServers_classify (r : Registry) (id : GroupId) (c : Classification) :
    (r.classify id c).SameServers r := by
  have hobserve := r.sameServers_observe id
  have hclear := ((r.observe id).sameServers_clear id).trans hobserve
  cases c with
  | total => exact hobserve
  | healthy => exact hclear
  | problem p =>
    simp only [classify]
    split
    · exact hobserve
    · exact ⟨hclear.reports, hclear.serviceExceptions, hclear.loadExceptions⟩

/-- A change of a standing says nothing about the chunk servers. -/
theorem sameServers_flag (r : Registry) (id : GroupId) (c : Classification) :
    (r.flag id c).2.SameServers r := by
  unfold flag
  split
  · exact r.sameServers_observe id
  · exact r.sameServers_classify id c

end CopysetWatch.Registry
