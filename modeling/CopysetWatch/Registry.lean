import CopysetWatch.Classification
import CopysetWatch.GroupId
import Std.Data.ExtTreeSet

/-!
# Registry of a pass

One health check keeps a registry of its own. It gathers every observed copyset, files those with
a problem into the bucket of that problem, and remembers which copysets each chunk server reported
and which servers were exceptional. The problem of each copyset is kept beside the buckets, so
that a copyset is taken out of its bucket before it enters another one.
-/

namespace CopysetWatch

/-- Which chunk server reported which copyset. -/
abbrev Reports :=
  String → GroupId → Bool

/-- What one health check found. -/
structure Registry where
  /-- Every observed copyset. -/
  observed : Std.ExtTreeSet GroupId := ∅
  /-- The copysets of each problem that some copyset has. -/
  buckets : Std.ExtTreeMap Problem (Std.ExtTreeSet GroupId) := ∅
  /-- The problem of each copyset that has one. -/
  problems : Std.ExtTreeMap GroupId Problem := ∅
  /-- Which chunk server reported which copyset. -/
  reports : Reports := fun _ _ => false
  /-- The chunk servers that could not be asked. -/
  serviceExceptions : Std.ExtTreeSet String := ∅
  /-- The chunk servers that answered with no usable copyset. -/
  loadExceptions : Std.ExtTreeSet String := ∅

namespace Registry

/-- The registry before anything was observed. -/
def empty : Registry := {}

instance : Inhabited Registry := ⟨empty⟩

/-- Notes that a copyset was observed; a problem it already has is kept. -/
def observe (r : Registry) (id : GroupId) : Registry :=
  { r with observed := r.observed.insert id }

/-- Takes a copyset out of the bucket of its problem, and the bucket away with the last one. -/
def clear (r : Registry) (id : GroupId) : Registry :=
  match r.problems[id]? with
  | none => r
  | some p => { r with
      problems := r.problems.erase id
      buckets := r.buckets.alter p fun bucket =>
        (bucket.map fun ids => ids.erase id).filter fun left => !left.isEmpty }

/-- Puts a copyset into the bucket of a problem. -/
def file (r : Registry) (id : GroupId) (p : Problem) : Registry :=
  { r with
    problems := r.problems.insert id p
    buckets := r.buckets.alter p fun bucket => some ((bucket.getD ∅).insert id) }

/-- Files a copyset under a class: the class of all copysets takes it in as it is, the healthy
class clears its problem, and the class of a problem replaces its problem. -/
def classify (r : Registry) (id : GroupId) : Classification → Registry
  | .total => r.observe id
  | .healthy => (r.observe id).clear id
  | .problem p =>
    if r.problems[id]? = some p then r.observe id else ((r.observe id).clear id).file id p

/-- The problem of a copyset, if it has one. -/
def problemOf (r : Registry) (id : GroupId) : Option Problem :=
  r.problems[id]?

/-- Files a copyset under a class unless it already has a problem, and says whether it did. -/
def flag (r : Registry) (id : GroupId) (c : Classification) : Bool × Registry :=
  if (r.problemOf id).isSome then (false, r.observe id) else (true, r.classify id c)

/-- The class of a copyset, if it was observed. -/
def classificationOf (r : Registry) (id : GroupId) : Option Classification :=
  if r.observed.contains id then some (.ofProblem? (r.problemOf id)) else none

/-- The observed copysets, in ascending order. -/
def total (r : Registry) : List GroupId :=
  r.observed.toList

/-- The copysets in the bucket of a problem. -/
def filedUnder (r : Registry) (p : Problem) : Std.ExtTreeSet GroupId :=
  r.buckets[p]?.getD ∅

/-- The copysets of a class, in ascending order. -/
def bucket (r : Registry) : Classification → List GroupId
  | .total => r.total
  | .healthy => r.total.filter fun id => !r.problems.contains id
  | .problem p => (r.filedUnder p).toList

/-- The number of observed copysets. -/
def totalCount (r : Registry) : Nat :=
  r.observed.size

/-- The number of copysets that have a problem. -/
def unhealthyCount (r : Registry) : Nat :=
  r.problems.size

/-- Whether no copyset has a problem. -/
def isHealthy (r : Registry) : Bool :=
  r.problems.isEmpty

/-- The problems that copysets have, in their order, each with its copysets. -/
def problemBuckets (r : Registry) : List (Problem × List GroupId) :=
  r.buckets.toList.map fun entry => (entry.1, entry.2.toList)

/-- Notes the copysets that a chunk server reported, in place of any it had reported before. -/
def setReported (r : Registry) (address : String) (ids : List GroupId) : Registry :=
  { r with reports := fun a id => if a = address then ids.contains id else r.reports a id }

/-- Whether a chunk server reported a copyset. -/
def isReportedOn (r : Registry) (address : String) (id : GroupId) : Bool :=
  r.reports address id

/-- Notes that a chunk server could not be asked. -/
def markServiceException (r : Registry) (address : String) : Registry :=
  { r with serviceExceptions := r.serviceExceptions.insert address }

/-- Notes that a chunk server answered with no usable copyset. -/
def markLoadException (r : Registry) (address : String) : Registry :=
  { r with loadExceptions := r.loadExceptions.insert address }

end Registry

end CopysetWatch
