import CopysetWatch.Proofs.Check.Stages

/-!
# Attendance of the chunk servers

Every listed server is accounted for once: it could not be asked, or it answered with nothing that
is a record, or it reported some. What it reported is known as a whole before the first copyset is
filed, so the look-ups of a health check never see a part of it.
-/

namespace CopysetWatch

namespace Check

/-- A record that a listed server reports: an answer in time has fields that are this record. -/
def Answers.Accepts (settings : CheckSettings) (a : Answers) (address : String)
    (record : Raft.Record) : Prop :=
  ∃ answer, (a.raftStatus address).InTime settings.raftTimeout answer ∧
    ∃ fields ∈ answer, Raft.Record.parse fields = .ok record

section

variable {settings : CheckSettings} {a : Answers} {address : String}

/-- The testimony of a server that answers in time is what its answer amounts to. -/
theorem testimony_of_inTime {answer : List Raft.Fields}
    (h : (a.raftStatus address).InTime settings.raftTimeout answer) :
    a.testimony settings address = .ofAnswer (.ok answer) := by
  rw [Answers.testimony, (Gather.result_arrival_eq_ok_iff _ _ _ _).mpr h]

theorem testimony_of_fails (h : (a.raftStatus address).Fails settings.raftTimeout) :
    a.testimony settings address = .unreachable := by
  rw [Answers.testimony]
  cases hresult : (Gather.arrival settings.raftTimeout a.raftStatus address).result with
  | error f => rfl
  | ok answer =>
    exact absurd h ((Gather.result_arrival_eq_ok_iff _ _ _ _).mp hresult).not_fails

/-- The records of an answer are its fields that are records. -/
theorem mem_recordList_ofAnswer {answer : List Raft.Fields} {record : Raft.Record} :
    record ∈ (Testimony.ofAnswer (.ok answer)).recordList ↔
      ∃ fields ∈ answer, Raft.Record.parse fields = .ok record := by
  have hparsed : record ∈ answer.filterMap (fun fields => (Raft.Record.parse fields).toOption) ↔
      ∃ fields ∈ answer, Raft.Record.parse fields = .ok record := by
    rw [List.mem_filterMap]
    refine exists_congr fun fields => and_congr_right fun _ => ?_
    cases Raft.Record.parse fields <;> simp [Except.toOption]
  rw [← hparsed, Testimony.ofAnswer]
  cases answer.filterMap fun fields => (Raft.Record.parse fields).toOption <;> rfl

theorem ofAnswer_ne_unreachable (answer : List Raft.Fields) :
    Testimony.ofAnswer (.ok answer) ≠ .unreachable := by
  rw [Testimony.ofAnswer]
  split <;> simp

theorem ofAnswer_eq_silent_iff {answer : List Raft.Fields} :
    Testimony.ofAnswer (.ok answer) = .silent ↔
      ∀ fields ∈ answer, ∀ record, Raft.Record.parse fields ≠ .ok record := by
  have hsilent : Testimony.ofAnswer (.ok answer) = .silent ↔
      (Testimony.ofAnswer (.ok answer)).recordList = [] := by
    rw [Testimony.ofAnswer]
    split <;> simp [Testimony.recordList]
  rw [hsilent, List.eq_nil_iff_forall_not_mem]
  constructor
  · intro h fields hfields record hrecord
    exact h record (mem_recordList_ofAnswer.mpr ⟨fields, hfields, hrecord⟩)
  · intro h record hrecord
    obtain ⟨fields, hfields, hparse⟩ := mem_recordList_ofAnswer.mp hrecord
    exact h fields hfields record hparse

/-- The records of a testimony are at least one. -/
theorem ne_nil_of_ofAnswer_eq_records {result : Except Fault (List Raft.Fields)}
    {rs : List Raft.Record} (h : Testimony.ofAnswer result = .records rs) : rs ≠ [] := by
  unfold Testimony.ofAnswer at h
  split at h
  · cases h
  · split at h
    · cases h
    · cases h
      exact List.cons_ne_nil _ _

/-- A server could not be asked if asking it fails. -/
theorem testimony_eq_unreachable_iff :
    a.testimony settings address = .unreachable ↔
      (a.raftStatus address).Fails settings.raftTimeout := by
  refine ⟨fun h => ?_, testimony_of_fails⟩
  obtain hfails | ⟨answer, hanswer⟩ :=
    (a.raftStatus address).fails_or_exists_inTime settings.raftTimeout
  · exact hfails
  · rw [testimony_of_inTime hanswer] at h
    exact absurd h (ofAnswer_ne_unreachable answer)

/-- A server is silent if it answers in time and nothing of its answer is a record. -/
theorem testimony_eq_silent_iff :
    a.testimony settings address = .silent ↔
      ∃ answer, (a.raftStatus address).InTime settings.raftTimeout answer ∧
        ∀ fields ∈ answer, ∀ record, Raft.Record.parse fields ≠ .ok record := by
  constructor
  · intro h
    obtain hfails | ⟨answer, hanswer⟩ :=
      (a.raftStatus address).fails_or_exists_inTime settings.raftTimeout
    · rw [testimony_of_fails hfails] at h
      cases h
    · rw [testimony_of_inTime hanswer] at h
      exact ⟨answer, hanswer, ofAnswer_eq_silent_iff.mp h⟩
  · rintro ⟨answer, hanswer, hnone⟩
    rw [testimony_of_inTime hanswer]
    exact ofAnswer_eq_silent_iff.mpr hnone

/-- The records of a server are those that it reports in time. -/
theorem mem_recordList_testimony {record : Raft.Record} :
    record ∈ (a.testimony settings address).recordList ↔ a.Accepts settings address record := by
  constructor
  · intro h
    obtain hfails | ⟨answer, hanswer⟩ :=
      (a.raftStatus address).fails_or_exists_inTime settings.raftTimeout
    · rw [testimony_of_fails hfails] at h
      cases h
    · rw [testimony_of_inTime hanswer] at h
      exact ⟨answer, hanswer, mem_recordList_ofAnswer.mp h⟩
  · rintro ⟨answer, hanswer, hrecord⟩
    rw [testimony_of_inTime hanswer]
    exact mem_recordList_ofAnswer.mpr hrecord

/-- The servers with some testimony are the listed ones that have it. -/
theorem mem_ofList_testimonies {testimony : Testimony} :
    address ∈ (.ofList (((a.evidence settings).testimonies.filter (·.2 == testimony)).map
      Prod.fst) : Std.ExtTreeSet String) ↔
      address ∈ a.addresses ∧ a.testimony settings address = testimony := by
  simp only [Std.ExtTreeSet.mem_ofList, List.contains_iff_mem, List.mem_map, List.mem_filter,
    beq_iff_eq]
  constructor
  · rintro ⟨entry, ⟨hentry, rfl⟩, rfl⟩
    obtain ⟨haddress, htestimony⟩ := mem_testimonies_evidence.mp hentry
    exact ⟨haddress, htestimony.symm⟩
  · rintro ⟨haddress, rfl⟩
    exact ⟨(address, _), ⟨mem_testimonies_evidence.mpr ⟨haddress, rfl⟩, rfl⟩, rfl⟩

/-- A server reported a copyset if it is listed and reports a record of it in time. -/
theorem reports_iff {id : GroupId} : a.reports settings address id ↔
    address ∈ a.addresses ∧ ∃ record, a.Accepts settings address record ∧ record.groupId = id := by
  simp only [Answers.reports, Bool.and_eq_true, List.contains_iff_mem, List.any_eq_true, beq_iff_eq,
    mem_recordList_testimony]

/-! ### The three groups of a judgement that has begun with the evidence -/

variable {r : Registry}

theorem mem_serviceExceptions_iff (h : r.SameServers (beginning (a.evidence settings))) :
    address ∈ r.serviceExceptions ↔
      address ∈ a.addresses ∧ a.testimony settings address = .unreachable := by
  rw [h.serviceExceptions]
  exact mem_ofList_testimonies

theorem mem_loadExceptions_iff (h : r.SameServers (beginning (a.evidence settings))) :
    address ∈ r.loadExceptions ↔
      address ∈ a.addresses ∧ a.testimony settings address = .silent := by
  rw [h.loadExceptions]
  exact mem_ofList_testimonies

theorem isReportedOn_iff (h : r.SameServers (beginning (a.evidence settings))) {id : GroupId} :
    r.isReportedOn address id ↔ address ∈ a.addresses ∧
      ∃ record, a.Accepts settings address record ∧ record.groupId = id := by
  have hreports : r.reports = a.reports settings := h.reports.trans reports_evidence
  rw [Registry.isReportedOn, hreports, reports_iff]

/-- A listed server is in the group of its testimony and in no other. -/
theorem attendance_cases (h : r.SameServers (beginning (a.evidence settings)))
    (haddress : address ∈ a.addresses) :
    (address ∈ r.serviceExceptions ∧ address ∉ r.loadExceptions ∧
      ¬∃ id, r.isReportedOn address id) ∨
    (address ∉ r.serviceExceptions ∧ address ∈ r.loadExceptions ∧
      ¬∃ id, r.isReportedOn address id) ∨
    (address ∉ r.serviceExceptions ∧ address ∉ r.loadExceptions ∧
      ∃ id, r.isReportedOn address id) := by
  simp only [mem_serviceExceptions_iff h, mem_loadExceptions_iff h, isReportedOn_iff h,
    ← mem_recordList_testimony, haddress, true_and]
  cases htestimony : a.testimony settings address with
  | unreachable => simp [Testimony.recordList]
  | silent => simp [Testimony.recordList]
  | records rs =>
    -- an answer without records is silence, so there is a record to report
    obtain ⟨record, hrecord⟩ :=
      List.exists_mem_of_ne_nil _ (ne_nil_of_ofAnswer_eq_records htestimony)
    exact .inr (.inr ⟨by simp, by simp, record.groupId, record, hrecord, rfl⟩)

end

/-- Each server has one testimony. -/
theorem nodup_testimonies_evidence (settings : CheckSettings) (a : Answers) :
    ((a.evidence settings).testimonies.map Prod.fst).Nodup := by
  simpa [Answers.evidence, oneEach, Function.comp_def] using
    (ascending_distinct a.addresses).nodup

/-- A health check that succeeds has collected evidence that it judged favourably, and that says the
same as everything that it was told. -/
theorem exists_collected {settings : CheckSettings} {gateway : Nat → Gateway} {start taken : Nat}
    {r : Registry} (h : (inspect settings gateway).run start = (.value r, taken)) :
    ∃ e, ((collect settings gateway).run start).1 = .value e ∧ judge settings e = .ok r ∧
      e.Agrees ((Answers.during settings gateway start).evidence settings) := by
  obtain ⟨e, hcollect, hjudge, -⟩ := Inquiry.exists_of_run_bind_eq_value (congrArg Prod.fst h)
  have hcollects := collects_run settings gateway start
  rw [hcollect] at hcollects
  rcases hcollects.cases with ⟨e', he', -, -, hagrees⟩ | ⟨f, hf, -⟩ | ⟨hpanic, -⟩
  · obtain rfl := Outcome.value.inj he'
    exact ⟨e, hcollect, Outcome.ofExcept_eq_value_iff.mp hjudge, hagrees⟩
  · cases hf
  · cases hpanic

/-- **Every listed server is accounted for once**, and what it reported is known as a whole before
anything is filed. In a health check that succeeds, the servers that could not be asked are the
listed ones whose reply fails, the silent ones are those that answer in time with nothing that is a
record, and a copyset counts as reported by a server exactly if this server is listed and reports a
record of it in time; so each listed server is in one of three groups, and in no other. Taken step
by step, the judgement looks up just these reports at each step that is not a report itself. -/
theorem inspect_attendance {settings : CheckSettings} {gateway : Nat → Gateway}
    {start taken : Nat} {r : Registry}
    (h : (inspect settings gateway).run start = (.value r, taken)) :
    let a := Answers.during settings gateway start
    (∀ address, address ∈ r.serviceExceptions ↔
      address ∈ a.addresses ∧ (a.raftStatus address).Fails settings.raftTimeout) ∧
    (∀ address, address ∈ r.loadExceptions ↔ address ∈ a.addresses ∧
      ∃ answer, (a.raftStatus address).InTime settings.raftTimeout answer ∧
        ∀ fields ∈ answer, ∀ record, Raft.Record.parse fields ≠ .ok record) ∧
    (∀ address id, r.isReportedOn address id ↔ address ∈ a.addresses ∧
      ∃ record, a.Accepts settings address record ∧ record.groupId = id) ∧
    (∀ address ∈ a.addresses,
      (address ∈ r.serviceExceptions ∧ address ∉ r.loadExceptions ∧
        ¬∃ id, r.isReportedOn address id) ∨
      (address ∉ r.serviceExceptions ∧ address ∈ r.loadExceptions ∧
        ¬∃ id, r.isReportedOn address id) ∨
      (address ∉ r.serviceExceptions ∧ address ∉ r.loadExceptions ∧
        ∃ id, r.isReportedOn address id)) ∧
    ∃ e, ((collect settings gateway).run start).1 = .value e ∧
      (stages e).foldl (Stage.take settings) .empty = r ∧
      ∀ before stage after, stages e = before ++ stage :: after → ¬stage.IsReport →
        (before.foldl (Stage.take settings) .empty).isReportedOn = r.isReportedOn := by
  intro a
  obtain ⟨e, hcollect, hjudge, hagrees⟩ := exists_collected h
  have hservers : r.SameServers (beginning (a.evidence settings)) :=
    (consistent_and_sameServers_of_judge (hagrees.judge ▸ hjudge)).2
  have hnodup : (e.testimonies.map Prod.fst).Nodup :=
    hagrees.testimonies ▸ nodup_testimonies_evidence settings a
  refine ⟨fun address => ?_, fun address => ?_, fun address id => isReportedOn_iff hservers,
    fun address haddress => attendance_cases hservers haddress, e, hcollect, ?_,
    fun before stage after hstages hstage => ?_⟩
  · rw [mem_serviceExceptions_iff hservers, testimony_eq_unreachable_iff]
  · rw [mem_loadExceptions_iff hservers, testimony_eq_silent_iff]
  · rw [foldl_take_stages hnodup, eq_of_judge_eq_ok hjudge]
  · -- the reports change in the stages that are reports, and all of these come first
    funext address id
    rw [Registry.isReportedOn, Registry.isReportedOn,
      reports_foldl_take_of_stages hnodup hstages hstage, hagrees.reports, hservers.reports]
    rfl

/-- A cluster of three servers: one has a copyset, one cannot be asked, and the records of the last
one name no state. -/
def mixedCluster : Gateway where
  servers := .now (.ok [⟨"10.0.0.3:8200", .online⟩, ⟨"10.0.0.2:8200", .offline⟩,
    ⟨"10.0.0.1:8200", .online⟩])
  assignments _ := .now (.ok [])
  members _ _ := .now (.ok [])
  copysets := .now (.ok [⟨1, 7, 0, true⟩])
  raftStatus address :=
    if address = "10.0.0.1:8200" then
      .now (.ok [.ofList [("groupId", "4294967303"), ("state", "FOLLOWER"),
        ("leader", "10.0.0.2:8200:0")]])
    else if address = "10.0.0.2:8200" then ⟨3, .panic⟩
    else .now (.ok [.ofList [("groupId", "4294967303")]])

/-- The three servers are in three different groups. -/
theorem inspect_attendance_mixedCluster : ∃ r taken,
    (inspect {} fun _ => mixedCluster).run 0 = (.value r, taken) ∧
      "10.0.0.2:8200" ∈ r.serviceExceptions ∧ "10.0.0.3:8200" ∈ r.loadExceptions ∧
      ∃ record, Answers.Accepts {} (.during {} (fun _ => mixedCluster) 0) "10.0.0.1:8200" record ∧
        record.groupId = .pack 1 7 := by
  have hgroups : ((inspect {} fun _ => mixedCluster).run 0).1.value?.map (fun r =>
      (r.loadExceptions.contains "10.0.0.3:8200", r.isReportedOn "10.0.0.1:8200" (.pack 1 7))) =
        some (true, true) := by
    decide +kernel
  cases hrun : (inspect {} fun _ => mixedCluster).run 0 with
  | mk result taken =>
    rw [hrun] at hgroups
    cases result with
    | fault f => cases hgroups
    | panic => cases hgroups
    | value r =>
      obtain ⟨hsilent, hreports⟩ := Prod.mk.inj (Option.some.inj hgroups)
      obtain ⟨hservice, -, hreported, -⟩ := inspect_attendance hrun
      have hlisted : "10.0.0.2:8200" ∈
          (Answers.during {} (fun _ => mixedCluster) 0).addresses := by decide
      exact ⟨r, taken, rfl, (hservice _).mpr ⟨hlisted, .inr (.inr rfl)⟩,
        Std.ExtTreeSet.contains_iff_mem.mp hsilent, ((hreported _ _).mp hreports).2⟩

end Check

end CopysetWatch
