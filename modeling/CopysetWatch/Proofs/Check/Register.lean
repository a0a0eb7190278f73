import CopysetWatch.Proofs.Check.Evidence
import CopysetWatch.Proofs.Registry.Standings

/-!
# Registry of a judgement

Each step of a judgement changes the standings copyset by copyset: a note sets the problem that it
has, the first resident candidate decides over all notes, and a failed scan counts where there is
no problem. The standing of a copyset therefore depends on what the evidence says about this
copyset alone, and evidence that says the same of every copyset is judged the same.
-/

namespace CopysetWatch.Check

/-- The standing of a copyset after a note about it: a problem replaces an earlier one. -/
def afterNote (before : Option (Option Problem)) (note : Note) : Option (Option Problem) :=
  some (note.problem.or before.join)

/-! ### Notes -/

theorem consistent_enter {r : Registry} (h : r.Consistent) (note : Note) :
    (enter r note).Consistent := by
  unfold enter
  cases note.problem with
  | none => exact h.observe note.groupId
  | some p => exact h.classify note.groupId (.problem p)

/-- A note changes the standing of its copyset alone. -/
theorem standing_enter {r : Registry} (h : r.Consistent) (note : Note) (id : GroupId) :
    (enter r note).standing id =
      if note.groupId = id then afterNote (r.standing id) note else r.standing id := by
  unfold enter afterNote
  cases note.problem with
  | none =>
    rw [h.standing_observe, Option.none_or]
    by_cases hid : note.groupId = id
    · simp [hid]
    · simp [hid]
  | some p => exact r.standing_classify note.groupId id (some p)

theorem sameServers_enter (r : Registry) (note : Note) : (enter r note).SameServers r := by
  unfold enter
  cases note.problem with
  | none => exact r.sameServers_observe note.groupId
  | some p => exact r.sameServers_classify note.groupId (.problem p)

theorem consistent_foldl_enter {r : Registry} (h : r.Consistent) (notes : List Note) :
    (notes.foldl enter r).Consistent := by
  induction notes generalizing r with
  | nil => exact h
  | cons note rest ih => exact ih (consistent_enter h note)

theorem sameServers_foldl_enter (r : Registry) (notes : List Note) :
    (notes.foldl enter r).SameServers r := by
  induction notes generalizing r with
  | nil => exact ⟨rfl, rfl, rfl⟩
  | cons note rest ih => exact (ih (enter r note)).trans (sameServers_enter r note)

/-- The standing of a copyset after some notes is that after the notes about it. -/
theorem standing_foldl_enter {r : Registry} (h : r.Consistent) (notes : List Note)
    (id : GroupId) :
    (notes.foldl enter r).standing id =
      (notes.filter (·.groupId == id)).foldl afterNote (r.standing id) := by
  induction notes generalizing r with
  | nil => rfl
  | cons note rest ih =>
    rw [List.foldl_cons, ih (consistent_enter h note), standing_enter h]
    by_cases hid : note.groupId = id
    · simp [hid]
    · simp [hid]

/-- After notes about a copyset, its problem is the last one of them. -/
theorem foldl_afterNote (notes : List Note) (before : Option (Option Problem)) :
    notes.foldl afterNote before =
      if notes = [] then before
      else some ((notes.filterMap Note.problem).getLast?.or before.join) := by
  induction notes generalizing before with
  | nil => rfl
  | cons note rest ih =>
    rw [List.foldl_cons, ih, if_neg (List.cons_ne_nil note rest)]
    by_cases hrest : rest = []
    · subst hrest
      cases hproblem : note.problem <;> simp [afterNote, hproblem]
    · rw [if_neg hrest]
      cases hproblem : note.problem with
      | none => simp [afterNote, hproblem]
      | some p =>
        rw [List.filterMap_cons_some hproblem, List.getLast?_cons]
        cases (rest.filterMap Note.problem).getLast? <;> simp [afterNote, hproblem]

/-! ### Followers without a leader -/

theorem consistent_foldl_resolve {r : Registry} (h : r.Consistent) (reports : Reports)
    (found : List Candidate) : (found.foldl (resolve reports) r).Consistent := by
  induction found generalizing r with
  | nil => exact h
  | cons c rest ih => exact ih (h.classify c.groupId _)

theorem sameServers_foldl_resolve (r : Registry) (reports : Reports) (found : List Candidate) :
    (found.foldl (resolve reports) r).SameServers r := by
  induction found generalizing r with
  | nil => exact ⟨rfl, rfl, rfl⟩
  | cons c rest ih => exact (ih (resolve reports r c)).trans (r.sameServers_classify c.groupId _)

/-- The first follower without a leader decides about its copyset. -/
theorem standing_foldl_resolve (r : Registry) (reports : Reports) (found : List Candidate)
    (id : GroupId) :
    (found.reverse.foldl (resolve reports) r).standing id =
      match found.find? (·.groupId == id) with
      | some c => some (some (leaderlessProblem reports c))
      | none => r.standing id := by
  induction found with
  | nil => rfl
  | cons c rest ih =>
    have hresolve (s : Registry) : (resolve reports s c).standing id =
        if c.groupId = id then some (some (leaderlessProblem reports c)) else s.standing id :=
      s.standing_classify c.groupId id (some (leaderlessProblem reports c))
    rw [List.reverse_cons, List.foldl_append, List.foldl_cons, List.foldl_nil, hresolve, ih]
    by_cases hid : c.groupId = id
    · simp [hid]
    · simp [hid]

/-! ### The registry before it is compared with the listing -/

/-- A registry that knows the servers and no copyset. -/
def beginning (e : Evidence) : Registry where
  reports := e.reports
  serviceExceptions := .ofList ((e.testimonies.filter (·.2 == .unreachable)).map Prod.fst)
  loadExceptions := .ofList ((e.testimonies.filter (·.2 == .silent)).map Prod.fst)

theorem register_eq (settings : CheckSettings) (e : Evidence) :
    register settings e = (resident e).reverse.foldl (resolve e.reports)
      ((notes settings e).foldl enter (beginning e)) :=
  rfl

theorem consistent_beginning (e : Evidence) : (beginning e).Consistent where
  observed := by simp [beginning]
  mem_filedUnder := by simp [beginning, Registry.filedUnder]
  ne_empty := by simp [beginning]

theorem consistent_register (settings : CheckSettings) (e : Evidence) :
    (register settings e).Consistent :=
  consistent_foldl_resolve (consistent_foldl_enter (consistent_beginning e) _) _ _

theorem sameServers_register (settings : CheckSettings) (e : Evidence) :
    (register settings e).SameServers (beginning e) :=
  (sameServers_foldl_resolve _ _ _).trans (sameServers_foldl_enter _ _)

/-- The standing of a copyset is decided by its first resident candidate, and otherwise by the
notes about it. -/
theorem standing_register (settings : CheckSettings) (e : Evidence) (id : GroupId) :
    (register settings e).standing id =
      match (resident e).find? (·.groupId == id) with
      | some c => some (some (leaderlessProblem e.reports c))
      | none => ((notes settings e).filter (·.groupId == id)).foldl afterNote none := by
  have hbeginning : (beginning e).standing id = none := by
    simp [Registry.standing, beginning]
  rw [register_eq, standing_foldl_resolve, standing_foldl_enter (consistent_beginning e),
    hbeginning]

/-! ### Failed scans -/

theorem consistent_flagInconsistent {r : Registry} (h : r.Consistent)
    (listing : List ScanStatus) : (flagInconsistent r listing).Consistent := by
  unfold flagInconsistent
  induction listing.filter ScanStatus.isInconsistent generalizing r with
  | nil => exact h
  | cons s rest ih => exact ih (h.flag s.groupId _)

theorem sameServers_flagInconsistent (r : Registry) (listing : List ScanStatus) :
    (flagInconsistent r listing).SameServers r := by
  unfold flagInconsistent
  induction listing.filter ScanStatus.isInconsistent generalizing r with
  | nil => exact ⟨rfl, rfl, rfl⟩
  | cons s rest ih => exact (ih _).trans (r.sameServers_flag s.groupId _)

/-- A failed scan counts for a copyset without a problem. -/
theorem standing_flagInconsistent {r : Registry} (h : r.Consistent) (listing : List ScanStatus)
    (id : GroupId) :
    (flagInconsistent r listing).standing id =
      if r.problemOf id = none ∧ ∃ s ∈ listing.filter ScanStatus.isInconsistent, s.groupId = id
      then some (some .inconsistent) else r.standing id := by
  unfold flagInconsistent
  induction listing.filter ScanStatus.isInconsistent generalizing r with
  | nil => simp
  | cons s rest ih =>
    have hflag := h.flag s.groupId (.problem .inconsistent)
    rw [List.foldl_cons, ih hflag, hflag.problemOf_eq, h.standing_flag]
    simp only [List.exists_mem_cons_iff]
    by_cases hid : s.groupId = id
    · subst hid
      cases hproblem : r.problemOf s.groupId with
      | none => simp
      | some p => simp [← h.problemOf_eq, hproblem]
    · simp [hid, ← h.problemOf_eq]

/-! ### Evidence that says the same -/

theorem Evidence.Agrees.reports {e e' : Evidence} (h : e.Agrees e') : e.reports = e'.reports := by
  unfold Evidence.reports
  rw [h.testimonies]

theorem Evidence.Agrees.notes {settings : CheckSettings} {e e' : Evidence} (h : e.Agrees e')
    (id : GroupId) :
    (notes settings e).filter (·.groupId == id) = (notes settings e').filter (·.groupId == id) := by
  unfold Check.notes
  rw [h.testimonies, List.filter_flatMap, List.filter_flatMap]
  congr 1
  funext entry
  unfold notesOf
  rw [h.reports]
  cases entry.2 with
  | unreachable =>
    simp only [List.filter_map, Function.comp_def, noteOfHosted]
    rw [h.hosted entry.1 id]
  | silent => rfl
  | records rs => rfl

theorem Evidence.Agrees.resident {e e' : Evidence} (h : e.Agrees e') :
    resident e = resident e' := by
  unfold Check.resident
  rw [h.testimonies]
  congr 1
  funext c
  exact h.placed c.address c.groupId

/-- Evidence that says the same of every copyset leads to the same registry. -/
theorem Evidence.Agrees.register {settings : CheckSettings} {e e' : Evidence} (h : e.Agrees e') :
    register settings e = register settings e' := by
  have hbeginning : beginning e = beginning e' := by
    unfold beginning
    rw [h.reports, h.testimonies]
  have hservers := sameServers_register settings e
  have hservers' := sameServers_register settings e'
  rw [hbeginning] at hservers
  apply (consistent_register settings e).ext (consistent_register settings e')
  · intro id
    rw [standing_register, standing_register, h.resident, h.notes, h.reports]
  · exact hservers.reports.trans hservers'.reports.symm
  · exact hservers.serviceExceptions.trans hservers'.serviceExceptions.symm
  · exact hservers.loadExceptions.trans hservers'.loadExceptions.symm

/-- Evidence that says the same of every copyset is judged the same. -/
theorem Evidence.Agrees.judge {settings : CheckSettings} {e e' : Evidence} (h : e.Agrees e') :
    judge settings e = judge settings e' := by
  unfold Check.judge
  rw [h.register, h.listing]

/-- A course that is told everything, without an overflow, ends with the judgement of what is told.
Any other one ends with a fault that was given, or it unwinds. -/
theorem Courses.cases {settings : CheckSettings} {a : Answers} {outcome : Ending Registry}
    (h : Courses settings a outcome) :
    (Complete settings a ∧ ¬a.Overflows settings ∧
      outcome = .ofExcept (judge settings (a.evidence settings))) ∨
    (∃ f, outcome = .fault f ∧ Gives settings a f) ∨
    (outcome = .panic ∧ Unwinds settings a) := by
  obtain ⟨evidence, hevidence, rfl⟩ := h
  rcases hevidence.cases with
    ⟨e, rfl, hcomplete, hfits, hagrees⟩ | ⟨f, rfl, hf⟩ | ⟨rfl, hunwinds⟩
  · exact .inl ⟨hcomplete, hfits, congrArg Outcome.ofExcept hagrees.judge⟩
  · exact .inr (.inl ⟨f, rfl, hf⟩)
  · exact .inr (.inr ⟨rfl, hunwinds⟩)

/-- Only a course that is told everything succeeds, and only without an overflow. -/
theorem Courses.of_value {settings : CheckSettings} {a : Answers} {r : Registry}
    (h : Courses settings a (.value r)) :
    Complete settings a ∧ ¬a.Overflows settings ∧
      judge settings (a.evidence settings) = .ok r := by
  rcases h.cases with ⟨hcomplete, hfits, hjudge⟩ | ⟨f, hf, -⟩ | ⟨hpanic, -⟩
  · cases hresult : judge settings (a.evidence settings) with
    | ok q =>
      rw [hresult] at hjudge
      exact ⟨hcomplete, hfits, congrArg Except.ok (Outcome.value.inj hjudge).symm⟩
    | error f =>
      rw [hresult] at hjudge
      cases hjudge
  · cases hf
  · cases hpanic

/-- A course that is told everything, without an overflow, ends with the judgement of what is
told. -/
theorem Courses.eq_judge {settings : CheckSettings} {a : Answers}
    {outcome : Ending Registry} (h : Courses settings a outcome)
    (hcomplete : Complete settings a) (hfits : ¬a.Overflows settings) :
    outcome = .ofExcept (judge settings (a.evidence settings)) := by
  rcases h.cases with ⟨-, -, hjudge⟩ | ⟨f, -, hf⟩ | ⟨-, hunwinds⟩
  · exact hjudge
  · exact absurd hcomplete hf.not_complete
  · exact absurd (hunwinds.overflows hcomplete) hfits

/-- A course that is told everything unwinds exactly if a judgement overflows. -/
theorem Courses.eq_panic_iff {settings : CheckSettings} {a : Answers}
    {outcome : Ending Registry} (h : Courses settings a outcome)
    (hcomplete : Complete settings a) : outcome = .panic ↔ a.Overflows settings := by
  rcases h.cases with ⟨-, hfits, rfl⟩ | ⟨f, -, hf⟩ | ⟨rfl, hunwinds⟩
  · cases judge settings (a.evidence settings) <;> simpa using hfits
  · exact absurd hcomplete hf.not_complete
  · exact ⟨fun _ => hunwinds.overflows hcomplete, fun _ => rfl⟩

end CopysetWatch.Check
