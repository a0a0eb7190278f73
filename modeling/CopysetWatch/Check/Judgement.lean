import CopysetWatch.Check.Evidence
import CopysetWatch.Check.Standing

/-!
# Judgement of a health check

The evidence is turned into a registry in three steps. Every account of a copyset is noted, in
the order of the servers, and a later problem replaces an earlier one. Then the followers without
a leader decide, the first of a copyset that still belongs to its server. Last, the copysets that
were observed must be those the metadata service lists; only then do failed scans count, for
copysets without a problem.
-/

namespace CopysetWatch.Check

/-- What one account says about a copyset: that it exists, and perhaps that it has a problem. -/
structure Note where
  groupId : GroupId
  problem : Option Problem
  deriving DecidableEq, Repr, Inhabited

/-- The note that a record amounts to. A follower says nothing about its copyset, not even one
without a leader, since those are judged at the end. -/
def noteOfRecord (settings : CheckSettings) (reports : Reports) (record : Raft.Record) : Note :=
  ⟨record.groupId,
    match record.state with
    | .leader => leaderStanding settings reports record
    | .follower => none
    | .transferring => some .noLeader
    | .candidate => some .noLeader
    | state => some (.otherState state.name)⟩

/-- The note that a rebuilt copyset amounts to. -/
def noteOfHosted (reports : Reports) (hosted : Hosted) : Note :=
  ⟨hosted.groupId, peerStanding reports hosted.groupId hosted.peers⟩

/-- The notes about the copysets of one server, in order. -/
def notesOf (settings : CheckSettings) (e : Evidence) (entry : String × Testimony) : List Note :=
  match entry.2 with
  | .unreachable => (e.hostedBy entry.1).map (noteOfHosted e.reports)
  | .silent => []
  | .records rs => rs.map (noteOfRecord settings e.reports)

/-- The notes about all copysets, in the order of the servers. -/
def notes (settings : CheckSettings) (e : Evidence) : List Note :=
  e.testimonies.flatMap (notesOf settings e)

/-- Enters a note into the registry. -/
def enter (r : Registry) (note : Note) : Registry :=
  match note.problem with
  | none => r.observe note.groupId
  | some p => r.classify note.groupId (.problem p)

/-- The problem of a copyset with a follower that has no leader. -/
def leaderlessProblem (reports : Reports) (c : Candidate) : Problem :=
  if peerStanding reports c.groupId c.peers = some .majorityPeerOffline then .majorityPeerOffline
  else .noLeader

/-- The candidates that still belong to the server that reported them. -/
def resident (e : Evidence) : List Candidate :=
  (candidates e.testimonies).filter fun c => e.isPlacedOn c.address c.groupId

/-- Files a copyset by a follower without a leader. -/
def resolve (reports : Reports) (r : Registry) (c : Candidate) : Registry :=
  r.classify c.groupId (.problem (leaderlessProblem reports c))

/-- The registry of everything that was asked, before it is compared with the listing. The
candidates are filed from the last to the first, so that the first of a copyset decides. -/
def register (settings : CheckSettings) (e : Evidence) : Registry :=
  let start : Registry := {
    reports := e.reports
    serviceExceptions := .ofList ((e.testimonies.filter (·.2 == .unreachable)).map Prod.fst)
    loadExceptions := .ofList ((e.testimonies.filter (·.2 == .silent)).map Prod.fst) }
  (resident e).reverse.foldl (resolve e.reports) ((notes settings e).foldl enter start)

/-- The copysets that are listed and were not observed, in ascending order. -/
def missing (r : Registry) (listing : List ScanStatus) : List GroupId :=
  (Std.ExtTreeSet.ofList (listing.map ScanStatus.groupId)).toList.filter fun id =>
    !r.observed.contains id

/-- The copysets that were observed and are not listed, in ascending order. -/
def unexpected (r : Registry) (listing : List ScanStatus) : List GroupId :=
  r.total.filter fun id => !(listing.map ScanStatus.groupId).contains id

/-- Refuses a registry whose copysets are not the listed ones, each listed once. -/
def crossValidate (r : Registry) (listing : List ScanStatus) : Except Fault Unit :=
  let missing := missing r listing
  let unexpected := unexpected r listing
  if listing.length ≠ r.totalCount then
    .error (.countMismatch listing.length r.totalCount missing unexpected)
  else if !missing.isEmpty || !unexpected.isEmpty then .error (.setMismatch missing unexpected)
  else .ok ()

/-- Files the copysets whose last scan failed, unless they have a problem already. -/
def flagInconsistent (r : Registry) (listing : List ScanStatus) : Registry :=
  (listing.filter ScanStatus.isInconsistent).foldl (fun r s =>
    (r.flag s.groupId (.problem .inconsistent)).2) r

/-- The registry that the evidence amounts to. -/
def judge (settings : CheckSettings) (e : Evidence) : Except Fault Registry :=
  let r := register settings e
  match crossValidate r e.listing with
  | .error f => .error f
  | .ok () => .ok (flagInconsistent r e.listing)

/-- A whole health check. -/
def inspect (settings : CheckSettings) (gateway : Nat → Gateway) : Inquiry Registry := do
  let evidence ← collect settings gateway
  Inquiry.ofExcept (judge settings evidence)

/-- A count as a number of 32 bits, the largest one standing for all that do not fit. -/
def saturating (count : Nat) : UInt32 :=
  .ofNat (min count (UInt32.size - 1))

/-- The health of a cluster in three numbers. -/
def snapshot (r : Registry) : HealthSnapshot :=
  ⟨r.isHealthy, saturating r.totalCount, saturating r.unhealthyCount⟩

end CopysetWatch.Check
