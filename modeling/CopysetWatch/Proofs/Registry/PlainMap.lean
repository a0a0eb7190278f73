import CopysetWatch.Proofs.Ascending
import CopysetWatch.Proofs.Registry.Standings
import Mathlib.Data.Set.Card

/-!
# A registry as a plain map

Whatever is done to a registry, it answers like a plain map from the observed copysets to their
classes. The map is changed one copyset at a time; the registry has to keep its buckets and its
index of problems in step. The main statement is about every course of changes to a fresh registry
and everything that can be asked of it afterwards.
-/

namespace CopysetWatch

/-- The class of every observed copyset, which is the healthy class or that of a problem. -/
abbrev ClassMap : Type :=
  GroupId → Option Classification

namespace ClassMap

/-- Whether a copyset has a problem. -/
def hasProblem (m : ClassMap) (id : GroupId) : Bool :=
  (m id).any Classification.isProblem

/-- Gives a copyset a class. -/
def set (m : ClassMap) (id : GroupId) (c : Classification) : ClassMap :=
  fun other => if id = other then some c else m other

/-- Takes a copyset in as healthy if it is not there. -/
def observe (m : ClassMap) (id : GroupId) : ClassMap :=
  if (m id).isSome then m else m.set id .healthy

/-- Gives a copyset a class, where the class of all copysets only takes it in. -/
def classify (m : ClassMap) (id : GroupId) : Classification → ClassMap
  | .total => m.observe id
  | .healthy => m.set id .healthy
  | .problem p => m.set id (.problem p)

/-- Gives a copyset a class unless it has a problem. -/
def flag (m : ClassMap) (id : GroupId) (c : Classification) : ClassMap :=
  if m.hasProblem id then m else m.classify id c

end ClassMap

/-- A change to a registry. -/
inductive RegistryEdit where
  | observe (id : GroupId)
  | classify (id : GroupId) (c : Classification)
  | flag (id : GroupId) (c : Classification)
  | setReported (address : String) (ids : List GroupId)
  | markServiceException (address : String)
  | markLoadException (address : String)

namespace RegistryEdit

/-- The registry after a change. -/
def apply (r : Registry) : RegistryEdit → Registry
  | .observe id => r.observe id
  | .classify id c => r.classify id c
  | .flag id c => (r.flag id c).2
  | .setReported address ids => r.setReported address ids
  | .markServiceException address => r.markServiceException address
  | .markLoadException address => r.markLoadException address

/-- The plain map after a change to the registry. -/
def applyToMap (m : ClassMap) : RegistryEdit → ClassMap
  | .observe id => m.observe id
  | .classify id c => m.classify id c
  | .flag id c => m.flag id c
  | _ => m

/-- What a server reported last, after a change. -/
def applyToReport (address : String) (ids : List GroupId) : RegistryEdit → List GroupId
  | .setReported reporter reported => if address = reporter then reported else ids
  | _ => ids

end RegistryEdit

namespace Registry

/-- A registry represents a plain map if its places agree and it gives every copyset the class
that the map gives it. -/
structure Represents (r : Registry) (m : ClassMap) : Prop where
  consistent : r.Consistent
  class_eq : ∀ id, r.classificationOf id = m id

/-- The plain map has a problem for a copyset exactly where the registry has one. -/
theorem Represents.hasProblem_eq {r : Registry} {m : ClassMap} (h : r.Represents m)
    (id : GroupId) : m.hasProblem id = (r.problemOf id).isSome := by
  unfold ClassMap.hasProblem
  rw [← h.class_eq, classificationOf_eq, h.consistent.problemOf_eq]
  cases r.standing id with
  | none => rfl
  | some s => cases s <;> rfl

theorem empty_represents : empty.Represents fun _ => none where
  consistent := consistent_empty
  class_eq _ := by simp [classificationOf, empty]

theorem Represents.observe {r : Registry} {m : ClassMap} (h : r.Represents m) (id : GroupId) :
    (r.observe id).Represents (m.observe id) where
  consistent := h.consistent.observe id
  class_eq := by
    intro other
    have hid := h.class_eq id
    have hother := h.class_eq other
    rw [classificationOf_eq] at hid hother
    rw [classificationOf_eq, h.consistent.standing_observe, ClassMap.observe, ← hid]
    cases hs : r.standing id with
    | none =>
      simp only [Option.map_none, Option.isSome_none, Bool.false_eq_true, if_false, ClassMap.set]
      split
      · rfl
      · exact hother
    | some s =>
      simp only [Option.map_some, Option.isSome_some, if_true]
      split
      case isTrue heq => rw [← hother, ← heq, hs]; rfl
      case isFalse => exact hother

/-- Setting the standing of a copyset sets its class in the map. -/
theorem Represents.classify_ofProblem? {r : Registry} {m : ClassMap} (h : r.Represents m)
    (id : GroupId) (s : Option Problem) :
    (r.classify id (.ofProblem? s)).Represents (m.set id (.ofProblem? s)) where
  consistent := h.consistent.classify id _
  class_eq := by
    intro other
    have hother := h.class_eq other
    rw [classificationOf_eq] at hother
    rw [classificationOf_eq, standing_classify, ClassMap.set]
    split
    · rfl
    · exact hother

theorem Represents.classify {r : Registry} {m : ClassMap} (h : r.Represents m) (id : GroupId)
    (c : Classification) : (r.classify id c).Represents (m.classify id c) := by
  cases c with
  | total => exact h.observe id
  | healthy => exact h.classify_ofProblem? id none
  | problem p => exact h.classify_ofProblem? id (some p)

/-- Flagging leaves a registry alone where the map has a problem, and classifies elsewhere. -/
theorem Represents.flag_eq {r : Registry} {m : ClassMap} (h : r.Represents m) (id : GroupId)
    (c : Classification) :
    r.flag id c = if m.hasProblem id then (false, r) else (true, r.classify id c) := by
  rw [h.hasProblem_eq]
  unfold Registry.flag
  split
  case isTrue hid => rw [h.consistent.observe_eq_self hid]
  case isFalse => rfl

theorem Represents.apply {r : Registry} {m : ClassMap} (h : r.Represents m)
    (edit : RegistryEdit) : (edit.apply r).Represents (edit.applyToMap m) := by
  cases edit with
  | observe id => exact h.observe id
  | classify id c => exact h.classify id c
  | flag id c =>
    simp only [RegistryEdit.apply, RegistryEdit.applyToMap, ClassMap.flag, h.flag_eq]
    split
    · exact h
    · exact h.classify id c
  | setReported address ids => exact ⟨⟨h.1.observed, h.1.mem_filedUnder, h.1.ne_empty⟩, h.2⟩
  | markServiceException address =>
    exact ⟨⟨h.1.observed, h.1.mem_filedUnder, h.1.ne_empty⟩, h.2⟩
  | markLoadException address => exact ⟨⟨h.1.observed, h.1.mem_filedUnder, h.1.ne_empty⟩, h.2⟩

/-- A fresh registry after a course of changes. -/
def after (edits : List RegistryEdit) : Registry :=
  edits.foldl RegistryEdit.apply empty

/-- The plain map after the same changes. -/
def mapAfter (edits : List RegistryEdit) : ClassMap :=
  edits.foldl RegistryEdit.applyToMap fun _ => none

/-- The copysets in the last report of a server. -/
def lastReport (edits : List RegistryEdit) (address : String) : List GroupId :=
  edits.foldl (RegistryEdit.applyToReport address) []

/-- A course of changes keeps the registry and the plain map together. -/
theorem after_represents (edits : List RegistryEdit) :
    (after edits).Represents (mapAfter edits) := by
  unfold after mapAfter
  induction edits using List.reverseRecOn with
  | nil => exact empty_represents
  | append_singleton edits edit ih =>
    simp only [List.foldl_append, List.foldl_cons, List.foldl_nil]
    exact ih.apply edit

/-! ### Answers of a registry -/

/-- The problem of a copyset is the one whose class the map gives. -/
theorem Represents.problemOf_eq_some_iff {r : Registry} {m : ClassMap} (h : r.Represents m)
    (id : GroupId) (p : Problem) : r.problemOf id = some p ↔ m id = some (.problem p) := by
  rw [← h.class_eq, classificationOf_eq, h.consistent.problemOf_eq]
  cases r.standing id with
  | none => simp
  | some s => cases s <;> simp [Classification.ofProblem?]

/-- The observed copysets are those that the map knows. -/
theorem Represents.mem_total_iff {r : Registry} {m : ClassMap} (h : r.Represents m)
    (id : GroupId) : id ∈ r.total ↔ (m id).isSome := by
  rw [r.mem_total_iff, ← h.class_eq, classificationOf_eq, Option.isSome_map]

/-- A copyset is healthy if it was observed and has no problem. -/
theorem Represents.eq_healthy_iff {r : Registry} {m : ClassMap} (h : r.Represents m)
    (id : GroupId) : m id = some .healthy ↔ id ∈ r.total ∧ r.problemOf id = none := by
  rw [r.mem_total_iff, ← h.class_eq, classificationOf_eq, h.consistent.problemOf_eq]
  cases r.standing id with
  | none => simp
  | some s => cases s <;> simp [Classification.ofProblem?]

/-- The bucket of a class lists the copysets of this class, unless it is the class of all. -/
theorem Represents.mem_bucket_iff {r : Registry} {m : ClassMap} (h : r.Represents m)
    {c : Classification} (hc : c ≠ .total) (id : GroupId) : id ∈ r.bucket c ↔ m id = some c := by
  cases c with
  | total => exact absurd rfl hc
  | healthy =>
    simp only [h.eq_healthy_iff, bucket, List.mem_filter, problemOf, Bool.not_eq_true',
      Std.ExtTreeMap.contains_eq_isSome_getElem?, Option.isSome_eq_false_iff,
      Option.isNone_iff_eq_none]
  | problem p =>
    rw [← h.problemOf_eq_some_iff, bucket, Std.ExtTreeSet.mem_toList]
    exact h.consistent.mem_filedUnder

/-- Every bucket is listed in ascending order. -/
theorem ascending_bucket (r : Registry) (c : Classification) : Ascending (r.bucket c) := by
  cases c with
  | total => exact ascending_toList _
  | healthy => exact (ascending_toList _).filter _
  | problem p => exact ascending_toList _

/-- The problem buckets are the buckets of the problems that have a copyset. -/
theorem Consistent.mem_problemBuckets_iff {r : Registry} (h : r.Consistent) (p : Problem)
    (ids : List GroupId) :
    (p, ids) ∈ r.problemBuckets ↔ ids = r.bucket (.problem p) ∧ ids ≠ [] := by
  simp only [problemBuckets, List.mem_map, Prod.mk.injEq, bucket, filedUnder, Prod.exists,
    Std.ExtTreeMap.mem_toList_iff_getElem?_eq_some]
  constructor
  · rintro ⟨q, s, hs, rfl, rfl⟩
    have hne : s ≠ ∅ := by
      rintro rfl
      exact h.ne_empty hs
    simpa [hs] using hne
  · rintro ⟨rfl, hne⟩
    cases hs : r.buckets[p]? with
    | none => simp [hs] at hne
    | some s => exact ⟨p, s, hs, rfl, by simp⟩

/-- The problem buckets come in the order of the problems, one for each. -/
theorem ascending_problemBuckets (r : Registry) : Ascending (r.problemBuckets.map Prod.fst) := by
  have hkeys : r.problemBuckets.map Prod.fst = r.buckets.keys := by
    simp [problemBuckets, Function.comp_def]
  rw [hkeys]
  exact r.buckets.ordered_keys

/-- The copysets in a problem bucket have that problem in the map. -/
theorem Represents.eq_problem_of_mem {r : Registry} {m : ClassMap} (h : r.Represents m)
    {entry : Problem × List GroupId} (hentry : entry ∈ r.problemBuckets) {id : GroupId}
    (hid : id ∈ entry.2) : m id = some (.problem entry.1) := by
  rw [((h.consistent.mem_problemBuckets_iff _ _).mp hentry).1] at hid
  exact (h.mem_bucket_iff (by simp) id).mp hid

/-- No copyset is in two problem buckets. -/
theorem Represents.pairwise_disjoint {r : Registry} {m : ClassMap} (h : r.Represents m) :
    r.problemBuckets.Pairwise fun one other => one.2.Disjoint other.2 := by
  have hordered := List.pairwise_map.mp r.ascending_problemBuckets
  apply hordered.imp_of_mem
  intro one other hone hother hlt id hid hid'
  have hsame := (h.eq_problem_of_mem hone hid).symm.trans (h.eq_problem_of_mem hother hid')
  simp only [Option.some.injEq, Classification.problem.injEq] at hsame
  simp [hsame] at hlt

/-- Every problem bucket holds observed copysets only. -/
theorem Represents.subset_total {r : Registry} {m : ClassMap} (h : r.Represents m)
    {entry : Problem × List GroupId} (hentry : entry ∈ r.problemBuckets) :
    entry.2 ⊆ r.total := by
  intro id hid
  rw [h.mem_total_iff, h.eq_problem_of_mem hentry hid]
  rfl

/-- A registry is healthy if the map has no problem for any copyset. -/
theorem Represents.isHealthy_iff {r : Registry} {m : ClassMap} (h : r.Represents m) :
    r.isHealthy = true ↔ ∀ id p, m id ≠ some (.problem p) := by
  simp only [isHealthy, Std.ExtTreeMap.isEmpty_iff, ne_eq, ← h.problemOf_eq_some_iff, problemOf]
  constructor
  · intro hempty
    simp [hempty]
  · intro hnone
    apply Std.ExtTreeMap.ext_getElem?
    intro id
    simpa using Option.eq_none_iff_forall_ne_some.mpr (hnone id)

/-- The copysets with a problem are observed copysets. -/
theorem Consistent.keys_problems {r : Registry} (h : r.Consistent) :
    r.problems.keys = r.total.filter fun id => r.problems.contains id := by
  apply Ascending.eq_of_mem_iff r.problems.ordered_keys ((ascending_toList _).filter _)
  intro id
  rw [List.mem_filter, Std.ExtTreeMap.mem_keys, Std.ExtTreeMap.contains_iff_mem]
  constructor
  · intro hid
    obtain ⟨p, hp⟩ := Option.isSome_iff_exists.mp (Std.ExtTreeMap.mem_iff_isSome_getElem?.mp hid)
    exact ⟨Std.ExtTreeSet.mem_toList.mpr (h.observed hp), hid⟩
  · exact And.right

/-- Every observed copyset counts either as unhealthy or as healthy. -/
theorem Consistent.unhealthyCount_add {r : Registry} (h : r.Consistent) :
    r.unhealthyCount + (r.bucket .healthy).length = r.totalCount := by
  have hunhealthy : r.unhealthyCount = r.problems.keys.length := Std.ExtTreeMap.length_keys.symm
  rw [r.totalCount_eq, r.total.length_eq_length_filter_add fun id => r.problems.contains id,
    ← h.keys_problems, hunhealthy, bucket]

/-- The unhealthy copysets are as many as have the class of a problem in the map. -/
theorem Represents.unhealthyCount_eq {r : Registry} {m : ClassMap} (h : r.Represents m) :
    r.unhealthyCount = {id | ∃ p, m id = some (.problem p)}.ncard := by
  have hset : {id | ∃ p, m id = some (.problem p)} = (r.problems.keys.toFinset : Set GroupId) := by
    ext id
    simp only [Set.mem_ofPred_eq, ← h.problemOf_eq_some_iff, List.coe_toFinset,
      Std.ExtTreeMap.mem_keys, Std.ExtTreeMap.mem_iff_isSome_getElem?, Option.isSome_iff_exists]
    rfl
  have hnodup : r.problems.keys.Nodup := Ascending.nodup r.problems.ordered_keys
  rw [hset, Set.ncard_coe_finset, List.toFinset_card_of_nodup hnodup,
    Std.ExtTreeMap.length_keys, unhealthyCount]

/-- A server is known to have reported what its last report held. -/
theorem isReportedOn_after (edits : List RegistryEdit) (address : String) (id : GroupId) :
    (after edits).isReportedOn address id = (lastReport edits address).contains id := by
  unfold after lastReport
  induction edits using List.reverseRecOn with
  | nil => rfl
  | append_singleton edits edit ih =>
    simp only [List.foldl_append, List.foldl_cons, List.foldl_nil, isReportedOn] at ih ⊢
    cases edit with
    | observe id => exact ih
    | classify id c => rwa [RegistryEdit.apply, (sameServers_classify _ id c).reports]
    | flag id c => rwa [RegistryEdit.apply, (sameServers_flag _ id c).reports]
    | setReported reporter ids =>
      simp only [RegistryEdit.apply, RegistryEdit.applyToReport, setReported]
      split
      · rfl
      · exact ih
    | markServiceException server => exact ih
    | markLoadException server => exact ih

/-- The servers that could not be asked are those that were marked so. -/
theorem mem_serviceExceptions_after (edits : List RegistryEdit) (address : String) :
    address ∈ (after edits).serviceExceptions ↔ .markServiceException address ∈ edits := by
  unfold after
  induction edits using List.reverseRecOn with
  | nil => simp [empty]
  | append_singleton edits edit ih =>
    simp only [List.foldl_append, List.foldl_cons, List.foldl_nil, List.mem_append,
      List.mem_singleton, ← ih]
    cases edit with
    | classify id c => simp [RegistryEdit.apply, (sameServers_classify _ id c).serviceExceptions]
    | flag id c => simp [RegistryEdit.apply, (sameServers_flag _ id c).serviceExceptions]
    | markServiceException server =>
      simp only [RegistryEdit.apply, markServiceException, Std.ExtTreeSet.mem_insert,
        Std.LawfulEqCmp.compare_eq_iff_eq, RegistryEdit.markServiceException.injEq]
      rw [or_comm, eq_comm]
    | _ => simp [RegistryEdit.apply, observe, setReported, markLoadException]

/-- The servers that answered with no usable copyset are those that were marked so. -/
theorem mem_loadExceptions_after (edits : List RegistryEdit) (address : String) :
    address ∈ (after edits).loadExceptions ↔ .markLoadException address ∈ edits := by
  unfold after
  induction edits using List.reverseRecOn with
  | nil => simp [empty]
  | append_singleton edits edit ih =>
    simp only [List.foldl_append, List.foldl_cons, List.foldl_nil, List.mem_append,
      List.mem_singleton, ← ih]
    cases edit with
    | classify id c => simp [RegistryEdit.apply, (sameServers_classify _ id c).loadExceptions]
    | flag id c => simp [RegistryEdit.apply, (sameServers_flag _ id c).loadExceptions]
    | markLoadException server =>
      simp only [RegistryEdit.apply, markLoadException, Std.ExtTreeSet.mem_insert,
        Std.LawfulEqCmp.compare_eq_iff_eq, RegistryEdit.markLoadException.injEq]
      rw [or_comm, eq_comm]
    | _ => simp [RegistryEdit.apply, observe, setReported, markServiceException]

/-- **A registry answers like a plain map.** After every course of changes to a fresh registry,
what it says about the copysets is what the map says that the same changes produce: the class and
the problem of each copyset, the observed copysets, the copysets of each class, the problem
buckets, and the numbers of copysets. Flagging tells whether the map had no problem for the
copyset, and what is known of the servers depends on what was noted about them alone. -/
theorem after_answers_like_map (edits : List RegistryEdit) :
    let r := after edits
    let m := mapAfter edits
    (∀ id, r.classificationOf id = m id) ∧
    (∀ id p, r.problemOf id = some p ↔ m id = some (.problem p)) ∧
    (∀ id, id ∈ r.total ↔ (m id).isSome) ∧
    (∀ c ≠ .total, ∀ id, id ∈ r.bucket c ↔ m id = some c) ∧
    (∀ c, Ascending (r.bucket c)) ∧
    (∀ p ids, (p, ids) ∈ r.problemBuckets ↔ ids = r.bucket (.problem p) ∧ ids ≠ []) ∧
    Ascending (r.problemBuckets.map Prod.fst) ∧
    r.problemBuckets.Pairwise (fun one other => one.2.Disjoint other.2) ∧
    (∀ entry ∈ r.problemBuckets, entry.2 ⊆ r.total) ∧
    r.unhealthyCount = {id | ∃ p, m id = some (.problem p)}.ncard ∧
    r.unhealthyCount + (r.bucket .healthy).length = r.totalCount ∧
    r.totalCount = r.total.length ∧
    (r.isHealthy = true ↔ ∀ id p, m id ≠ some (.problem p)) ∧
    (∀ id c, r.flag id c = if m.hasProblem id then (false, r) else (true, r.classify id c)) ∧
    (∀ address id, r.isReportedOn address id = (lastReport edits address).contains id) ∧
    (∀ address, address ∈ r.serviceExceptions ↔ .markServiceException address ∈ edits) ∧
    (∀ address, address ∈ r.loadExceptions ↔ .markLoadException address ∈ edits) := by
  intro r m
  have h : r.Represents m := after_represents edits
  exact ⟨h.class_eq, h.problemOf_eq_some_iff, h.mem_total_iff, fun c hc => h.mem_bucket_iff hc,
    r.ascending_bucket, h.consistent.mem_problemBuckets_iff, r.ascending_problemBuckets,
    h.pairwise_disjoint, fun _ => h.subset_total, h.unhealthyCount_eq,
    h.consistent.unhealthyCount_add, r.totalCount_eq, h.isHealthy_iff, h.flag_eq,
    isReportedOn_after edits, mem_serviceExceptions_after edits, mem_loadExceptions_after edits⟩

end Registry

end CopysetWatch
