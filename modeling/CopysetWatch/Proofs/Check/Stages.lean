import CopysetWatch.Proofs.Check.Outcome

/-!
# Stages of a judgement

A judgement can be taken step by step: every step finds the registry as the steps before it left
it, and a step that has to know which peers are online looks them up there. The steps come in two
passes. The first one notes what each server reported, the second one enters every account, the
followers without a leader and the failed scans. No step of the second pass changes what was
reported, so each of them looks up the reports of all servers, and the steps lead to the registry
of the judgement.
-/

namespace CopysetWatch.Check

/-- One step of a judgement. -/
inductive Stage where
  /-- Notes the copysets that a server reported. -/
  | report (address : String) (ids : List GroupId)
  /-- Notes that a server could not be asked. -/
  | unreachable (address : String)
  /-- Notes that a server answered with nothing usable. -/
  | silent (address : String)
  | record (record : Raft.Record)
  | hosted (hosted : Hosted)
  | leaderless (c : Candidate)
  | scan (s : ScanStatus)

namespace Stage

/-- Whether a step only notes what a server reported. -/
def IsReport : Stage → Prop
  | .report _ _ => True
  | _ => False

/-- Takes a step, which looks up peers in the registry that it finds. -/
def take (settings : CheckSettings) (r : Registry) : Stage → Registry
  | .report address ids => r.setReported address ids
  | .unreachable address => r.markServiceException address
  | .silent address => r.markLoadException address
  | .record found => enter r (noteOfRecord settings r.isReportedOn found)
  | .hosted found => enter r (noteOfHosted r.isReportedOn found)
  | .leaderless c => resolve r.isReportedOn r c
  | .scan s => (r.flag s.groupId (.problem .inconsistent)).2

end Stage

/-- The report of a server, unless it could not be asked. -/
def reportOf (entry : String × Testimony) : Option Stage :=
  if entry.2 = .unreachable then none
  else some (.report entry.1 (entry.2.recordList.map Raft.Record.groupId))

/-- The steps that enter what is known of the copysets of one server. -/
def accountOf (e : Evidence) (entry : String × Testimony) : List Stage :=
  match entry.2 with
  | .unreachable => .unreachable entry.1 :: (e.hostedBy entry.1).map .hosted
  | .silent => [.silent entry.1]
  | .records rs => rs.map .record

/-- The first pass: what each server reported. -/
def reporting (e : Evidence) : List Stage :=
  e.testimonies.filterMap reportOf

/-- The second pass: all accounts, the followers without a leader, the failed scans. -/
def accounting (e : Evidence) : List Stage :=
  e.testimonies.flatMap (accountOf e) ++
    ((resident e).reverse.map .leaderless ++
      (e.listing.filter ScanStatus.isInconsistent).map .scan)

/-- All steps of a judgement. -/
def stages (e : Evidence) : List Stage :=
  reporting e ++ accounting e

variable {settings : CheckSettings} {e : Evidence}

/-! ### The first pass -/

theorem isReport_of_mem_reporting {stage : Stage} (h : stage ∈ reporting e) : stage.IsReport := by
  obtain ⟨entry, -, hreport⟩ := List.mem_filterMap.mp h
  unfold reportOf at hreport
  split at hreport
  · cases hreport
  · cases hreport
    trivial

theorem not_isReport_of_mem_accounting {stage : Stage} (h : stage ∈ accounting e) :
    ¬stage.IsReport := by
  simp only [accounting, List.mem_append, List.mem_flatMap, List.mem_map] at h
  rcases h with ⟨⟨address, testimony⟩, -, hstage⟩ | ⟨c, -, rfl⟩ | ⟨s, -, rfl⟩
  · cases testimony with
    | unreachable =>
      obtain rfl | hstage := List.mem_cons.mp hstage
      · exact id
      · obtain ⟨hosted, -, rfl⟩ := List.mem_map.mp hstage
        exact id
    | silent =>
      obtain rfl := List.mem_singleton.mp hstage
      exact id
    | records rs =>
      obtain ⟨record, -, rfl⟩ := List.mem_map.mp hstage
      exact id
  · exact id
  · exact id

/-- Noting the reports of some servers changes the reports, and those of these servers alone. -/
theorem foldl_take_reportOf {entries : List (String × Testimony)}
    (hnodup : (entries.map Prod.fst).Nodup) (r : Registry) :
    (entries.filterMap reportOf).foldl (Stage.take settings) r =
      { r with
        reports := fun address id =>
          match entries.lookup address with
          | none | some .unreachable => r.reports address id
          | some testimony => testimony.recordList.any fun record => record.groupId == id } := by
  induction entries generalizing r with
  | nil => rfl
  | cons entry rest ih =>
    obtain ⟨first, testimony⟩ := entry
    obtain ⟨hfirst, hrest⟩ := List.nodup_cons.mp hnodup
    have hlookup : rest.lookup first = none := by
      rw [List.lookup_eq_none_iff]
      rintro ⟨other, found⟩ hentry
      refine bne_iff_ne.mpr ?_
      rintro rfl
      exact hfirst (List.mem_map.mpr ⟨_, hentry, rfl⟩)
    by_cases htestimony : testimony = .unreachable
    · have hreport : reportOf (first, testimony) = none := if_pos htestimony
      rw [List.filterMap_cons_none hreport, ih hrest]
      congr 1
      funext address id
      rw [List.lookup_cons]
      by_cases haddress : address = first
      · simp [haddress, hlookup, htestimony]
      · simp [beq_false_of_ne haddress]
    · have hreport : reportOf (first, testimony) =
          some (.report first (testimony.recordList.map Raft.Record.groupId)) :=
        if_neg htestimony
      rw [List.filterMap_cons_some hreport, List.foldl_cons, ih hrest]
      simp only [Stage.take, Registry.setReported]
      congr 1
      funext address id
      rw [List.lookup_cons]
      by_cases haddress : address = first
      · rw [if_pos haddress, haddress, beq_self_eq_true, hlookup, Bool.eq_iff_iff]
        simp
      · simp [beq_false_of_ne haddress, haddress]

/-- After the first pass, the registry knows the reports of all servers and nothing else. -/
theorem foldl_take_reporting (hnodup : (e.testimonies.map Prod.fst).Nodup) :
    (reporting e).foldl (Stage.take settings) .empty =
      { Registry.empty with reports := e.reports } := by
  rw [reporting, foldl_take_reportOf hnodup]
  congr 1
  funext address id
  unfold Evidence.reports reportsOf
  cases e.testimonies.lookup address with
  | none => rfl
  | some testimony => cases testimony <;> rfl

/-! ### The second pass -/

/-- Only a report changes what was reported. -/
theorem reports_take {stage : Stage} (h : ¬stage.IsReport) (r : Registry) :
    (stage.take settings r).reports = r.reports := by
  cases stage with
  | report address ids => exact absurd trivial h
  | unreachable address => rfl
  | silent address => rfl
  | record found => exact (sameServers_enter r _).reports
  | hosted found => exact (sameServers_enter r _).reports
  | leaderless c => exact (r.sameServers_classify c.groupId _).reports
  | scan s => exact (r.sameServers_flag s.groupId _).reports

theorem reports_foldl_take {steps : List Stage} (h : ∀ stage ∈ steps, ¬stage.IsReport)
    (r : Registry) : (steps.foldl (Stage.take settings) r).reports = r.reports := by
  induction steps generalizing r with
  | nil => rfl
  | cons stage rest ih =>
    rw [List.forall_mem_cons] at h
    rw [List.foldl_cons, ih h.2, reports_take h.1]

/-- Steps that enter notes made from the reports that they look up. -/
theorem foldl_take_map {β : Type} {step : β → Stage} {note : Reports → β → Note}
    (hstep : ∀ r b, (step b).take settings r = enter r (note r.reports b)) (found : List β)
    (r : Registry) :
    (found.map step).foldl (Stage.take settings) r =
      (found.map (note r.reports)).foldl enter r := by
  induction found generalizing r with
  | nil => rfl
  | cons b rest ih =>
    rw [List.map_cons, List.map_cons, List.foldl_cons, List.foldl_cons, hstep, ih,
      (sameServers_enter r _).reports]

/-- A registry with other servers marked as exceptional. -/
def withExceptions (r : Registry) (service load : Std.ExtTreeSet String) : Registry :=
  { r with serviceExceptions := service, loadExceptions := load }

/-- Entering notes has nothing to do with the servers that are exceptional. -/
theorem foldl_enter_withExceptions (r : Registry) (service load : Std.ExtTreeSet String)
    (notes : List Note) :
    notes.foldl enter (withExceptions r service load) =
      withExceptions (notes.foldl enter r) service load := by
  have henter (s : Registry) (note : Note) : enter (withExceptions s service load) note =
      withExceptions (enter s note) service load := by
    obtain ⟨id, problem⟩ := note
    cases problem with
    | none => rfl
    | some p =>
      have hclear : ((withExceptions s service load).observe id).clear id =
          withExceptions ((s.observe id).clear id) service load := by
        cases hp : s.problems[id]? <;>
          simp [Registry.clear, Registry.observe, withExceptions, hp]
      simp only [enter, Registry.classify, hclear]
      by_cases hp : s.problems[id]? = some p
      · rw [if_pos hp, if_pos (show (withExceptions s service load).problems[id]? = _ from hp)]
        rfl
      · rw [if_neg hp, if_neg (show ¬(withExceptions s service load).problems[id]? = _ from hp)]
        rfl
  induction notes generalizing r with
  | nil => rfl
  | cons note rest ih => rw [List.foldl_cons, henter, ih, List.foldl_cons]

theorem withExceptions_foldl_enter (r : Registry) (notes : List Note) :
    withExceptions (notes.foldl enter r) r.serviceExceptions r.loadExceptions =
      notes.foldl enter r := by
  obtain ⟨-, hservice, hload⟩ := sameServers_foldl_enter r notes
  rw [← hservice, ← hload]
  rfl

/-- Marks a server that has some testimony. -/
def mark (testimony : Testimony) (marked : Std.ExtTreeSet String) (entry : String × Testimony) :
    Std.ExtTreeSet String :=
  if entry.2 == testimony then marked.insert entry.1 else marked

/-- Taking the account of a server enters its notes, and marks the server if it is exceptional. -/
theorem foldl_take_accountOf {r : Registry} (hr : r.reports = e.reports)
    (entry : String × Testimony) :
    (accountOf e entry).foldl (Stage.take settings) r =
      withExceptions ((notesOf settings e entry).foldl enter r)
        (mark .unreachable r.serviceExceptions entry) (mark .silent r.loadExceptions entry) := by
  obtain ⟨address, testimony⟩ := entry
  cases testimony with
  | unreachable =>
    have htaken := foldl_take_map (fun s b => show (Stage.hosted b).take settings s = _ from rfl)
      (e.hostedBy address) (r.markServiceException address)
    have hreports : (r.markServiceException address).reports = e.reports := hr
    rw [hreports] at htaken
    exact htaken.trans (foldl_enter_withExceptions r _ _ _)
  | silent => rfl
  | records rs =>
    have htaken := foldl_take_map (fun s b => show (Stage.record b).take settings s = _ from rfl)
      rs r
    rw [hr] at htaken
    exact htaken.trans (withExceptions_foldl_enter r _).symm

/-- Taking the accounts of some servers enters all their notes, and marks the exceptional ones. -/
theorem foldl_take_accounts (entries : List (String × Testimony)) {r : Registry}
    (hr : r.reports = e.reports) :
    (entries.flatMap (accountOf e)).foldl (Stage.take settings) r =
      withExceptions ((entries.flatMap (notesOf settings e)).foldl enter r)
        (entries.foldl (mark .unreachable) r.serviceExceptions)
        (entries.foldl (mark .silent) r.loadExceptions) := by
  induction entries generalizing r with
  | nil => rfl
  | cons entry rest ih =>
    let next := withExceptions ((notesOf settings e entry).foldl enter r)
      (mark .unreachable r.serviceExceptions entry) (mark .silent r.loadExceptions entry)
    have hnext : next.reports = e.reports := (sameServers_foldl_enter r _).reports.trans hr
    rw [List.flatMap_cons, List.flatMap_cons, List.foldl_append, List.foldl_append,
      foldl_take_accountOf hr, ih hnext, foldl_enter_withExceptions]
    rfl

/-- Marking the servers with some testimony one after the other marks all of them. -/
theorem foldl_mark (testimony : Testimony) (entries : List (String × Testimony)) :
    entries.foldl (mark testimony) ∅ =
      (.ofList ((entries.filter (·.2 == testimony)).map Prod.fst) : Std.ExtTreeSet String) := by
  have hmem (marked : Std.ExtTreeSet String) (address : String) :
      address ∈ entries.foldl (mark testimony) marked ↔
        address ∈ marked ∨ address ∈ (entries.filter (·.2 == testimony)).map Prod.fst := by
    induction entries generalizing marked with
    | nil => simp
    | cons entry rest ih =>
      rw [List.foldl_cons, ih, mark]
      by_cases hentry : entry.2 == testimony
      · rw [if_pos hentry, List.filter_cons, if_pos hentry, List.map_cons, List.mem_cons,
          Std.ExtTreeSet.mem_insert, Std.LawfulEqCmp.compare_eq_iff_eq, @eq_comm _ entry.1,
          or_assoc, or_left_comm]
      · rw [if_neg hentry, List.filter_cons, if_neg hentry]
  apply Std.ExtTreeSet.ext_mem
  intro address
  rw [hmem, Std.ExtTreeSet.mem_ofList]
  simp

/-! ### The whole judgement -/

/-- Taking the steps that follow the accounts resolves the candidates and flags the failed scans. -/
theorem foldl_take_closing (found : List Candidate) (failed : List ScanStatus) {r : Registry}
    (hr : r.reports = e.reports) :
    (found.map Stage.leaderless ++ failed.map Stage.scan).foldl (Stage.take settings) r =
      failed.foldl (fun r s => (r.flag s.groupId (.problem .inconsistent)).2)
        (found.foldl (resolve e.reports) r) := by
  rw [List.foldl_append, List.foldl_map]
  congr 1
  induction found generalizing r with
  | nil => rfl
  | cons c rest ih =>
    have hresolve : (Stage.leaderless c).take settings r = resolve e.reports r c := by
      rw [← hr]
      rfl
    rw [List.map_cons, List.foldl_cons, hresolve, List.foldl_cons]
    exact ih ((r.sameServers_classify c.groupId _).reports.trans hr)

/-- Taking all steps leads to the registry of the judgement. -/
theorem foldl_take_stages (hnodup : (e.testimonies.map Prod.fst).Nodup) :
    (stages e).foldl (Stage.take settings) .empty =
      flagInconsistent (register settings e) e.listing := by
  have hreports : ({ Registry.empty with reports := e.reports } : Registry).reports = e.reports :=
    rfl
  have hbeginning : withExceptions { Registry.empty with reports := e.reports }
      (e.testimonies.foldl (mark .unreachable) ∅) (e.testimonies.foldl (mark .silent) ∅) =
        beginning e := by
    rw [beginning, ← foldl_mark, ← foldl_mark]
    rfl
  rw [stages, accounting, List.foldl_append, List.foldl_append, foldl_take_reporting hnodup,
    foldl_take_accounts _ hreports, ← foldl_enter_withExceptions]
  change (_ : List Stage).foldl _ ((notes settings e).foldl enter (withExceptions _
    (e.testimonies.foldl (mark .unreachable) ∅) (e.testimonies.foldl (mark .silent) ∅))) = _
  rw [hbeginning, foldl_take_closing]
  · rfl
  · exact (sameServers_foldl_enter _ _).reports

/-- When a step of the second pass is taken, the reports of all servers are known. -/
theorem reports_foldl_take_of_stages (hnodup : (e.testimonies.map Prod.fst).Nodup)
    {before after : List Stage} {stage : Stage} (h : stages e = before ++ stage :: after)
    (hstage : ¬stage.IsReport) :
    (before.foldl (Stage.take settings) .empty).reports = e.reports := by
  -- the reports come first, so all of them are among the steps before this one
  obtain ⟨earlier, rfl⟩ : ∃ earlier, before = reporting e ++ earlier := by
    obtain ⟨earlier, hbefore, -⟩ | ⟨later, hreporting, hlater⟩ := List.append_eq_append_iff.mp h
    · exact ⟨earlier, hbefore⟩
    · cases later with
      | nil => exact ⟨[], by simpa using hreporting.symm⟩
      | cons first rest =>
        obtain ⟨rfl, -⟩ := List.cons.inj hlater
        have hmem : stage ∈ reporting e := by simp [hreporting]
        exact absurd (isReport_of_mem_reporting hmem) hstage
  have hearlier : ∀ stage ∈ earlier, ¬stage.IsReport := by
    intro other hother
    refine not_isReport_of_mem_accounting (e := e) ?_
    rw [stages, List.append_assoc, List.append_cancel_left_eq] at h
    exact h ▸ List.mem_append_left _ hother
  rw [List.foldl_append, reports_foldl_take hearlier, foldl_take_reporting hnodup]

end CopysetWatch.Check
