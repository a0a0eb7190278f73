import CopysetWatch.Proofs.Alert.Pacing
import CopysetWatch.Proofs.Foresight

/-!
# The schedule of ticks

A loop reads its interval where a wait begins and not again before the next one. So the ticks of a
kind are laid down by the settings that it begins with and by those that it has whenever a tick of
it is over, however often the settings are reloaded in between and however long the evaluations
take. What carries this is that a loop is never behind time: whatever it waits for and whatever it
evaluates is over now or later, whoever looks at it from what can be seen until now.
-/

namespace CopysetWatch.Alert

/-! ### Intervals -/

namespace Settings

/-- From one moment to another, the interval of the settings passes. Where it is zero, at least some
time does. -/
structure Spans (s : Settings) (since moment : Nat) : Prop where
  later : since < moment
  interval : s.interval.isZero = false → Duration.ofMillis (moment - since) = s.interval

/-- The interval is a whole number of seconds. -/
def IsInSeconds (s : Settings) : Prop :=
  ∃ seconds, s.interval = .ofSeconds seconds

/-- Whatever is stored, intervals are whole seconds. -/
theorem isInSeconds_inForce (d : Defaults) (stored : List SettingsRecord) (kind : Kind) :
    (inForce d stored kind).IsInSeconds := by
  obtain hdefault | ⟨r, -, hread⟩ := inForce_cases d stored kind
  · exact ⟨d.intervalSecs.toNat, congrArg interval hdefault⟩
  · generalize inForce d stored kind = s at hread
    unfold ofRecord at hread
    split at hread
    · cases hread
    · split at hread
      · cases hread
      · exact ⟨r.intervalSecs.toNat, (congrArg interval (Except.ok.inj hread)).symm⟩

/-- A wait takes an interval of whole seconds. -/
theorem spans_wait {s : Settings} (h : s.IsInSeconds) (since : Nat) :
    s.Spans since (since + s.wait) := by
  obtain ⟨seconds, hseconds⟩ := h
  have hmillis : (Duration.ofSeconds seconds).millis = seconds * 1000 := by
    change seconds * 1000000000 / 1000000 = seconds * 1000
    omega
  refine ⟨Nat.lt_add_of_pos_right (Nat.le_max_left ..), fun hnonzero => ?_⟩
  rw [Nat.add_sub_cancel_left, wait, hseconds, hmillis]
  have hpos : seconds ≠ 0 := by
    rintro rfl
    rw [hseconds] at hnonzero
    cases hnonzero
  have hwait : max 1 (seconds * 1000) = seconds * 1000 := by omega
  rw [hwait]
  exact congrArg Duration.mk (Nat.mul_assoc seconds 1000 1000000)

end Settings

/-! ### Schedules -/

/-- A tick that is over, with the settings that its context had then. -/
structure SettledTick extends Deed where
  settings : Settings

/-- What the ticks of a kind go by. -/
structure Timetable where
  env : Environment
  /-- What evaluations get to see. -/
  world : Sight
  /-- Which settings are in force at a moment. Where a reload falls on it, there are two. -/
  InForce : Nat → Settings → Prop
  /-- The settings that the first wait begins with. -/
  first : Settings
  /-- The moment at which the first wait begins. -/
  since : Nat

/-- The next tick after some others is due at a moment, where a first wait began by some settings
and since some moment, and each later one as a tick was over, by the settings that there were
then. -/
def IsDue (s : Settings) (since moment : Nat) : List SettledTick → Prop
  | [] => s.Spans since moment
  | tick :: rest => IsDue tick.settings tick.ended moment rest

/-- Each of some ticks begins at the moment at which it is due. -/
def Paced (s : Settings) (since : Nat) : List SettledTick → Prop
  | [] => True
  | tick :: rest => s.Spans since tick.began ∧ Paced tick.settings tick.ended rest

/-- A tick evaluates by the rule of some settings if its kind is enabled by them, and takes as long
as this does. Otherwise it does nothing and is over at once. -/
structure Deed.Heeds (tick : Deed) (t : Timetable) (s : Settings) : Prop where
  enabled : s.enabled → tick.outcome ≠ .disabled ∧
    tick.ended = tick.began + (tick.kind.evaluate t.env t.world s.rule tick.began).elapsed
  disabled : ¬s.enabled → tick.outcome = .disabled ∧ tick.ended = tick.began ∧
    tick.check = none ∧ tick.emission = none

/-- Some ticks are on schedule: each of them begins where it is due, and heeds the settings that are
in force as it begins. -/
structure OnSchedule (t : Timetable) (ticks : List SettledTick) : Prop where
  paced : Paced t.first t.since ticks
  heeds : ∀ tick ∈ ticks, ∃ s, t.InForce tick.began s ∧ tick.Heeds t s

section

variable {t : Timetable} {s : Settings} {since moment : Nat} {tick : SettledTick}
  {ticks : List SettledTick}

theorem isDue_concat :
    IsDue s since moment (ticks ++ [tick]) ↔ tick.settings.Spans tick.ended moment := by
  induction ticks generalizing s since with
  | nil => exact .rfl
  | cons first rest ih => exact ih

theorem Paced.concat (h : Paced s since ticks) (hdue : IsDue s since tick.began ticks) :
    Paced s since (ticks ++ [tick]) := by
  induction ticks generalizing s since with
  | nil => exact ⟨hdue, trivial⟩
  | cons first rest ih => exact ⟨h.1, ih h.2 hdue⟩

/-- A schedule goes on with a tick that is due. -/
theorem OnSchedule.concat (h : OnSchedule t ticks) (hdue : IsDue t.first t.since tick.began ticks)
    (hs : t.InForce tick.began s) (hheeds : tick.Heeds t s) : OnSchedule t (ticks ++ [tick]) where
  paced := h.paced.concat hdue
  heeds := List.forall_mem_append.mpr ⟨h.heeds, by simpa using ⟨s, hs, hheeds⟩⟩

theorem Deed.Heeds.began_le_ended {tick : Deed} (h : tick.Heeds t s) :
    tick.began ≤ tick.ended := by
  by_cases henabled : s.enabled
  · exact (h.enabled henabled).2 ▸ Nat.le_add_right ..
  · exact (h.disabled henabled).2.1.ge

/-- Where no tick is over before it begins, those on schedule are later than the moment. -/
theorem Paced.lt_began (h : Paced s since ticks)
    (hforward : ∀ tick ∈ ticks, tick.began ≤ tick.ended) : ∀ tick ∈ ticks, since < tick.began := by
  induction ticks generalizing s since with
  | nil => simp
  | cons first rest ih =>
    obtain ⟨hspans, hrest⟩ := h
    obtain ⟨hfirst, hothers⟩ := List.forall_mem_cons.mp hforward
    refine List.forall_mem_cons.mpr ⟨hspans.later, fun tick htick => ?_⟩
    exact (hspans.later.trans_le hfirst).trans (ih hrest hothers tick htick)

theorem Paced.pairwise (h : Paced s since ticks)
    (hforward : ∀ tick ∈ ticks, tick.began ≤ tick.ended) :
    ticks.Pairwise fun tick later => tick.ended < later.began := by
  induction ticks generalizing s since with
  | nil => exact .nil
  | cons first rest ih =>
    obtain ⟨-, hothers⟩ := List.forall_mem_cons.mp hforward
    exact .cons (h.2.lt_began hothers) (ih h.2 hothers)

/-- **Ticks on schedule do not overlap.** -/
theorem OnSchedule.pairwise (h : OnSchedule t ticks) :
    ticks.Pairwise fun tick later => tick.ended < later.began := by
  refine h.paced.pairwise fun tick htick => ?_
  obtain ⟨s, -, hheeds⟩ := h.heeds tick htick
  exact hheeds.began_le_ended

end

/-! ### Loops on schedule -/

namespace AlertLoop

/-- As it is seen at a moment, what a loop is at is not over yet, or at this very moment. -/
structure IsAhead (l : AlertLoop) (env : Environment) (sight : Sight) (now : Nat) : Prop where
  waiting : ∀ due, l.phase = .waiting due → now ≤ due
  evaluating : ∀ moment, l.evaluationEnd? env sight = some moment → now ≤ moment

/-- At a moment, a loop is on schedule with the ticks that it has done: so is the tick under way, or
else the next one. A tick is under way only where the kind was enabled, and there is no next one
only if the loop was told to stop or if its last evaluation, which was on schedule, panicked. -/
structure IsOnSchedule (l : AlertLoop) (t : Timetable) (ticks : List SettledTick) (now : Nat) :
    Prop where
  seconds : l.context.settings.IsInSeconds
  done : OnSchedule t ticks
  next : ∀ moment, l.tickFrom? = some moment → IsDue t.first t.since moment ticks
  evaluating : ∀ began rule, l.phase = .evaluating began rule →
    began ≤ now ∧ ∃ s, t.InForce began s ∧ s.enabled ∧ s.rule = rule
  died : l.phase = .died → ∃ began s,
    IsDue t.first t.since began ticks ∧ t.InForce began s ∧ s.enabled ∧
      let e := l.context.kind.evaluate t.env t.world s.rule began
      e.finding = .panic ∧ began + e.elapsed ≤ now

/-- A loop waits, is in a tick, or died of one, and nobody has told it to stop. -/
structure IsGoing (l : AlertLoop) : Prop where
  phase : l.phase ≠ .ended
  stopping : l.stopping = false

section

variable {env : Environment} {sight : Sight} {accepts : Bool} {target now : Nat}
  {t : Timetable} {l next last : AlertLoop} {ticks : List SettledTick} {deeds : List Deed}

/-- A loop runs until there is nothing to do for it any more. -/
theorem step?_runUntil (env : Environment) (sight : Sight) (accepts : Bool) (target : Nat)
    (l : AlertLoop) :
    (l.runUntil env sight accepts target).1.step? env sight accepts target = none := by
  induction l using runUntil.induct env sight accepts target with
  | case1 l hnone =>
    rw [runUntil_of_none hnone]
    exact hnone
  | case2 l next deeds hsome ih =>
    rw [runUntil_of_some hsome]
    exact ih

/-- No step changes the settings. -/
theorem Steps.settings_eq (h : l.Steps env sight accepts target next deeds) :
    next.context.settings = l.context.settings := by
  cases h with
  | begins | dies => rfl
  | idles => exact settings_resume ..
  | settles => exact (settings_resume ..).trans (l.context.concludes accepts _).same.2.2

theorem isGoing_resume (hgoing : l.stopping = false) (c : Context) (moment : Nat) :
    (l.resume c moment).IsGoing := by
  rw [resume, hgoing, if_neg Bool.false_ne_true]
  exact ⟨Phase.noConfusion, rfl⟩

/-- A loop goes on of its own accord. -/
theorem IsGoing.ran (h : l.IsGoing) (hran : Ran env sight accepts target l last deeds) :
    last.IsGoing := by
  refine hran.keeps IsGoing h fun l next deeds h hsteps => ?_
  cases hsteps with
  | begins | dies => exact ⟨Phase.noConfusion, h.stopping⟩
  | idles | settles => exact isGoing_resume h.stopping _ _

/-- After a tick, a loop waits or is over. -/
theorem phase_resume (l : AlertLoop) (c : Context) (moment : Nat) :
    (l.resume c moment).phase = .waiting (moment + c.settings.wait) ∨
      (l.resume c moment).phase = .ended := by
  unfold resume
  split
  · exact .inr rfl
  · exact .inl rfl

theorem phase_resume_ne_evaluating (l : AlertLoop) (c : Context) (moment began : Nat)
    (rule : String) : (l.resume c moment).phase ≠ .evaluating began rule := by
  obtain hwaits | hended := l.phase_resume c moment
  · simp [hwaits]
  · simp [hended]

/-- An evaluation that is under way is over when its time has passed. -/
theorem evaluationEnd?_eq_some_iff {moment : Nat} : l.evaluationEnd? env sight = some moment ↔
    ∃ began rule, l.phase = .evaluating began rule ∧
      began + (l.context.kind.evaluate env sight rule began).elapsed = moment := by
  unfold evaluationEnd?
  cases l.phase <;> simp

/-! ### What is still to come -/

/-- After a tick, a loop waits for a later moment, if it goes on. -/
theorem isAhead_resume {c : Context} {moment : Nat} (h : now ≤ moment) :
    (l.resume c moment).IsAhead env sight now := by
  refine ⟨fun due hphase => ?_, fun moment hend => ?_⟩
  · obtain hwaits | hended := l.phase_resume c moment
    · obtain rfl := Phase.waiting.inj (hphase.symm.trans hwaits)
      exact h.trans (Nat.le_add_right ..)
    · rw [hended] at hphase
      cases hphase
  · obtain ⟨began, rule, hphase, -⟩ := evaluationEnd?_eq_some_iff.mp hend
    exact absurd hphase (phase_resume_ne_evaluating _ _ _ _ _)

/-- Whatever a loop does is no earlier than what it is ahead of. -/
theorem IsAhead.step (h : l.IsAhead env sight now)
    (hsteps : l.Steps env sight accepts target next deeds) : next.IsAhead env sight now := by
  cases hsteps with
  | begins hphase hdue henabled =>
    refine ⟨fun _ hwaiting => (nomatch hwaiting), fun moment hmoment => ?_⟩
    obtain rfl := Option.some.inj hmoment
    exact (h.waiting _ hphase).trans (Nat.le_add_right ..)
  | idles hphase hdue hdisabled => exact isAhead_resume (h.waiting _ hphase)
  | settles hphase hend =>
    exact isAhead_resume (h.evaluating _ (evaluationEnd?_eq_some_iff.mpr ⟨_, _, hphase, rfl⟩))
  | dies => exact ⟨fun _ hwaiting => (nomatch hwaiting), fun _ hmoment => (nomatch hmoment)⟩

theorem IsAhead.ran (h : l.IsAhead env sight now)
    (hran : Ran env sight accepts target l last deeds) : last.IsAhead env sight now :=
  hran.keeps (·.IsAhead env sight now) h fun _ _ _ h hsteps => h.step hsteps

/-- Whether a loop is ahead of a moment does not depend on what is seen later. -/
theorem IsAhead.congr (h : l.IsAhead env sight now) {other : Sight}
    (hagrees : sight.AgreesUntil now other) : l.IsAhead env other now := by
  refine ⟨h.waiting, fun moment hmoment => ?_⟩
  obtain ⟨began, rule, hphase, rfl⟩ := evaluationEnd?_eq_some_iff.mp hmoment
  by_contra hend
  have hsame := Kind.evaluate_eq hagrees.symm (Nat.le_of_not_le hend)
  exact hend (hsame ▸ h.evaluating _ (evaluationEnd?_eq_some_iff.mpr ⟨_, _, hphase, rfl⟩))

/-- A loop with nothing to do up to a moment is ahead of the next one. -/
theorem isAhead_of_step?_eq_none (h : l.step? env sight accepts target = none) :
    l.IsAhead env sight (target + 1) := by
  refine ⟨fun due hphase => ?_, fun moment hmoment => ?_⟩
  · by_contra hdue
    simp only [step?, hphase, if_pos (Nat.le_of_not_lt hdue)] at h
    split at h <;> cases h
  · obtain ⟨began, rule, hphase, rfl⟩ := evaluationEnd?_eq_some_iff.mp hmoment
    by_contra hend
    simp only [step?, hphase, if_pos (Nat.le_of_not_lt hend)] at h
    split at h <;> cases h

/-- As time passes up to a moment, a loop gets ahead of it, wherever it is cut short. -/
theorem IsAhead.runCut (h : l.IsAhead env sight now) (accepts : Bool) (target : Nat)
    (cut : Option Nat) :
    (l.runCut env sight accepts target cut).1.IsAhead env sight (max now target) := by
  have hsince := h.ran (l.ran_runCut env sight accepts target cut)
  have hreached : (l.runCut env sight accepts target cut).1.IsAhead env sight target := by
    cases cut with
    | none =>
      have hlater := isAhead_of_step?_eq_none (l.step?_runUntil env sight accepts target)
      exact ⟨fun due hphase => Nat.le_of_lt (hlater.waiting due hphase),
        fun moment hend => Nat.le_of_lt (hlater.evaluating moment hend)⟩
    | some count =>
      have hbefore : (l.runBefore env sight accepts target).1.IsAhead env sight target := by
        cases target with
        | zero => exact ⟨fun _ _ => Nat.zero_le _, fun _ _ => Nat.zero_le _⟩
        | succ earlier =>
          exact isAhead_of_step?_eq_none (l.step?_runUntil env sight accepts earlier)
      exact hbefore.ran (ran_runSteps ..)
  exact ⟨fun due hphase => max_le (hsince.waiting due hphase) (hreached.waiting due hphase),
    fun moment hend => max_le (hsince.evaluating moment hend) (hreached.evaluating moment hend)⟩

/-! ### What is done on schedule -/

/-- A loop on schedule that ends a tick goes on by the settings that it has then. -/
theorem IsOnSchedule.resume (h : l.IsOnSchedule t ticks now) (tick : SettledTick)
    (hfrom : l.tickFrom? = some tick.began) {s : Settings} (hs : t.InForce tick.began s)
    (hheeds : tick.Heeds t s) {c : Context} (hsame : c.settings = l.context.settings)
    (hsettings : tick.settings = l.context.settings) :
    (l.resume c tick.ended).IsOnSchedule t (ticks ++ [tick]) now := by
  have hseconds : c.settings.IsInSeconds := hsame ▸ h.seconds
  refine ⟨(settings_resume l c tick.ended).symm ▸ hseconds,
    h.done.concat (h.next _ hfrom) hs hheeds, fun moment hmoment => ?_,
    fun began rule hphase => absurd hphase (phase_resume_ne_evaluating _ _ _ _ _),
    fun hphase => ?_⟩
  · rw [isDue_concat, hsettings, ← hsame]
    unfold tickFrom? at hmoment
    obtain hwaits | hover := l.phase_resume c tick.ended
    · rw [hwaits] at hmoment
      obtain rfl := Option.some.inj hmoment
      exact Settings.spans_wait hseconds tick.ended
    · rw [hover] at hmoment
      cases hmoment
  · obtain hwaits | hover := l.phase_resume c tick.ended
    · rw [hwaits] at hphase
      cases hphase
    · rw [hover] at hphase
      cases hphase

theorem outcome_conclude_ne_disabled (c : Context) (accepts : Bool)
    (finding : Except Fault (Option String)) : (c.conclude accepts finding).1 ≠ .disabled := by
  have hconcludes := c.concludes accepts finding
  generalize c.conclude accepts finding = result at hconcludes ⊢
  cases hconcludes <;> exact TickOutcome.noConfusion

/-- With each step, a loop stays on schedule, if its settings are those in force since the moment
that it is ahead of, and if it sees what there is to see. -/
theorem IsOnSchedule.step {begun : Nat} (h : l.IsOnSchedule t ticks now)
    (hahead : l.IsAhead t.env sight begun) (hagrees : sight.AgreesUntil target t.world)
    (hle : target ≤ now)
    (hforce : ∀ moment, begun ≤ moment → moment ≤ target → t.InForce moment l.context.settings)
    (hsteps : l.Steps t.env sight accepts target next deeds) :
    next.IsOnSchedule t (ticks ++ deeds.map (⟨·, l.context.settings⟩)) now := by
  cases hsteps with
  | @begins due hphase hdue henabled =>
    simp only [List.map_nil, List.append_nil]
    refine ⟨h.seconds, h.done, fun moment hmoment => h.next moment ?_, ?_, fun hdied => ?_⟩
    · simpa [tickFrom?, hphase] using hmoment
    · rintro _ _ ⟨⟩
      exact ⟨hdue.trans hle, _, hforce due (hahead.waiting due hphase) hdue, henabled, rfl⟩
    · cases hdied
  | @idles due hphase hdue hdisabled =>
    refine h.resume ⟨.idle l.context due, l.context.settings⟩ ?_
      (hforce due (hahead.waiting due hphase) hdue) ?_ rfl rfl
    · simp [tickFrom?, hphase, Deed.idle]
    · exact ⟨fun henabled => absurd henabled hdisabled, fun _ => ⟨rfl, rfl, rfl, rfl⟩⟩
  | @settles began rule finding hphase hend hfinding =>
    -- Whether the kind is enabled was settled as the tick began, and the next wait is settled now.
    obtain ⟨-, s, hs, henabled, rfl⟩ := h.evaluating began rule hphase
    refine h.resume ⟨.ofEvaluation t.env l.context accepts began _ finding, l.context.settings⟩ ?_
      hs ?_ (l.context.concludes accepts finding).same.2.2 rfl
    · simp [tickFrom?, hphase, Deed.ofEvaluation]
    · refine ⟨fun _ => ⟨outcome_conclude_ne_disabled _ _ _, ?_⟩,
        fun hdisabled => absurd henabled hdisabled⟩
      change began + _ = began + (l.context.kind.evaluate t.env t.world s.rule began).elapsed
      rw [Kind.evaluate_eq hagrees hend]
  | @dies began rule hphase hend hpanic =>
    obtain ⟨-, s, hs, henabled, rfl⟩ := h.evaluating began rule hphase
    have hsame := Kind.evaluate_eq hagrees hend
    simp only [List.map_nil, List.append_nil]
    refine ⟨h.seconds, h.done, fun moment hmoment => ?_, fun _ _ hevaluating => ?_,
      fun _ => ⟨began, s, ?_, hs, henabled, ?_⟩⟩
    · cases hmoment
    · cases hevaluating
    · exact h.next began (by simp [tickFrom?, hphase])
    · change (l.context.kind.evaluate t.env t.world s.rule began).finding = .panic ∧
        began + (l.context.kind.evaluate t.env t.world s.rule began).elapsed ≤ now
      rw [hsame]
      exact ⟨Outcome.returned?_eq_none_iff.mp hpanic, hend.trans hle⟩

/-- As time passes, a loop stays on schedule, if its settings are those in force meanwhile. -/
theorem IsOnSchedule.ran {begun : Nat} (h : l.IsOnSchedule t ticks now)
    (hahead : l.IsAhead t.env sight begun) (hagrees : sight.AgreesUntil target t.world)
    (hle : target ≤ now)
    (hforce : ∀ moment, begun ≤ moment → moment ≤ target → t.InForce moment l.context.settings)
    (hran : Ran t.env sight accepts target l last deeds) :
    last.IsOnSchedule t (ticks ++ deeds.map (⟨·, l.context.settings⟩)) now := by
  induction hran generalizing ticks with
  | nil l =>
    rw [List.map_nil, List.append_nil]
    exact h
  | cons hsteps _ ih =>
    have hsame := hsteps.settings_eq
    have hlater := ih (h.step hahead hagrees hle hforce hsteps) (hahead.step hsteps)
      (hsame ▸ hforce)
    rw [hsame, List.append_assoc, ← List.map_append] at hlater
    exact hlater

theorem IsOnSchedule.mono (h : l.IsOnSchedule t ticks now) {later : Nat} (hle : now ≤ later) :
    l.IsOnSchedule t ticks later where
  seconds := h.seconds
  done := h.done
  next := h.next
  evaluating began rule hphase := (h.evaluating began rule hphase).imp_left (·.trans hle)
  died hphase := by
    obtain ⟨began, s, hdue, hs, henabled, hpanic, hend⟩ := h.died hphase
    exact ⟨began, s, hdue, hs, henabled, hpanic, hend.trans hle⟩

/-- A loop is on schedule from its beginning. -/
theorem isOnSchedule_fresh {cluster : String} {d : Defaults} {stored : List SettingsRecord}
    {kind : Kind} (hfirst : t.first = .inForce d stored kind) :
    (fresh cluster d stored t.since kind).IsOnSchedule t [] now := by
  have hseconds := Settings.isInSeconds_inForce d stored kind
  refine ⟨hseconds, ⟨trivial, by simp⟩, fun moment hmoment => ?_,
    fun _ _ hphase => (nomatch hphase), fun hphase => (nomatch hphase)⟩
  obtain rfl := Option.some.inj hmoment
  exact hfirst ▸ Settings.spans_wait hseconds t.since

theorem isAhead_fresh (cluster : String) (d : Defaults) (stored : List SettingsRecord)
    (now : Nat) (kind : Kind) (env : Environment) (sight : Sight) :
    (fresh cluster d stored now kind).IsAhead env sight now := by
  refine ⟨fun due hphase => ?_, fun _ hend => (nomatch hend)⟩
  obtain rfl := Phase.waiting.inj hphase
  exact Nat.le_add_right ..

/-- Other settings change nothing about the wait or the tick that a loop is at. -/
theorem IsOnSchedule.apply (h : l.IsOnSchedule t ticks now) {s : Settings}
    (hs : s.IsInSeconds) : (l.apply s).IsOnSchedule t ticks now :=
  ⟨hs, h.done, h.next, h.evaluating, h.died⟩

/-- A loop that is told to stop is at what it was at, or over. -/
theorem phase_stop (l : AlertLoop) : l.stop.2.phase = l.phase ∨ l.stop.2.phase = .ended := by
  unfold stop Context.stop
  cases l.context.handle.filter l.listens with
  | none => exact .inl rfl
  | some r =>
    cases l.phase with
    | evaluating began rule => exact .inl rfl
    | waiting _ | ended | died => exact .inr rfl

theorem settings_stop (l : AlertLoop) : l.stop.2.context.settings = l.context.settings := by
  unfold stop Context.stop
  cases l.context.handle.filter l.listens with
  | none => rfl
  | some r => cases l.phase <;> rfl

theorem IsAhead.stop (h : l.IsAhead env sight now) : l.stop.2.IsAhead env sight now := by
  obtain hsame | hended := l.phase_stop
  · refine ⟨hsame ▸ h.waiting, ?_⟩
    rw [evaluationEnd?, hsame, l.kind_stop]
    exact h.evaluating
  · exact ⟨by simp [hended], by simp [evaluationEnd?, hended]⟩

theorem IsOnSchedule.stop (h : l.IsOnSchedule t ticks now) :
    l.stop.2.IsOnSchedule t ticks now := by
  have hseconds := l.settings_stop ▸ h.seconds
  obtain hsame | hended := l.phase_stop
  · refine ⟨hseconds, h.done, ?_, hsame ▸ h.evaluating, ?_⟩
    · rw [tickFrom?, hsame]
      exact h.next
    · rw [hsame, l.kind_stop]
      exact h.died
  · exact ⟨hseconds, h.done, by simp [tickFrom?, hended], by simp [hended], by simp [hended]⟩

end

end AlertLoop

end CopysetWatch.Alert
