import CopysetWatch.Alert.Loop
import Mathlib.Data.List.DropRight

/-!
# Ledger of an alert context

Ticks of one context happen one at a time, while its settings are changed and reloaded, its store
fails and recovers, and others use the same store, at any point between the beginning and the end of
a tick. The ledger keeps every tick that is over, with what it began and ended with, and `Proper`
says what a tick has to do after so many problems since the last emission. A tick whose evaluation
panics is given up and leaves nothing behind.
-/

namespace CopysetWatch.Alert

/-- The beginning of a tick: what its evaluation sees, when, and the settings then in force. -/
structure Opening where
  env : Environment
  sight : Sight
  moment : Nat
  settings : Settings

namespace Opening

/-- The evaluation of a kind by the rule in force at the beginning. -/
def evaluation (o : Opening) (kind : Kind) : Evaluation :=
  kind.evaluate o.env o.sight o.settings.rule o.moment

/-- The problem that a tick finds, which is none where the kind was disabled at the beginning. -/
def problem (o : Opening) (kind : Kind) : Option String :=
  if o.settings.enabled then (o.evaluation kind).finding.value?.join else none

end Opening

/-- A tick that is over. -/
structure Tick where
  opening : Opening
  /-- The settings in force when its evaluation was over. -/
  closing : Settings
  /-- Whether the store accepted alerts then. -/
  accepts : Bool
  deed : Deed

namespace Tick

/-- Whether the tick called on the store to take an alert. -/
def ReachesStore (t : Tick) : Prop :=
  t.deed.offer.isSome

end Tick

/-- What happened to a context or its store and is to be remembered. -/
inductive Entry where
  | tick (t : Tick)
  /-- Somebody else's alert was stored. -/
  | other (e : Emission)

namespace Entry

/-- Whether the context emitted an alert. -/
def isEmission : Entry → Bool
  | .tick t => t.deed.outcome == .emitted
  | .other _ => false

/-- Whether a tick of the context found a problem. -/
def isProblem (kind : Kind) : Entry → Bool
  | .tick t => (t.opening.problem kind).isSome
  | .other _ => false

/-- The alert that was stored. -/
def emission : Entry → Option Emission
  | .tick t => t.deed.emission
  | .other e => some e

end Entry

/-- The ticks that found a problem since the context emitted an alert. -/
def problemsSince (kind : Kind) (entries : List Entry) : Nat :=
  (entries.rtakeWhile (!·.isEmission)).countP (Entry.isProblem kind)

/-- A count as far as 32 bits go. -/
def capped (count : Nat) : Nat :=
  min count (UInt32.size - 1)

/-- A tick did what it has to do after so many problems since the last emission. -/
structure Tick.Proper (cluster : String) (kind : Kind) (problems : Nat) (t : Tick) : Prop where
  disabled : t.deed.outcome = .disabled ↔ ¬t.opening.settings.enabled
  healthy : t.deed.outcome = .healthy ↔
    t.opening.settings.enabled ∧ (t.opening.evaluation kind).finding = .value none
  inconclusive : t.deed.outcome = .inconclusive ↔
    t.opening.settings.enabled ∧ ∃ f, (t.opening.evaluation kind).finding = .fault f
  pending : ∀ count times, t.deed.outcome = .pending count times ↔
    (t.opening.problem kind).isSome ∧ count.toNat = capped (problems + 1) ∧
      times = t.closing.triggerTimes ∧ count < times
  reachesStore : t.ReachesStore ↔
    (t.opening.problem kind).isSome ∧ t.closing.triggerTimes.toNat ≤ capped (problems + 1)
  offer : t.ReachesStore → t.deed.offer = (t.opening.problem kind).map (.of cluster kind)
  emitted : t.deed.outcome = .emitted ↔ t.ReachesStore ∧ t.accepts
  emitFailed : t.deed.outcome = .emitFailed ↔ t.ReachesStore ∧ ¬t.accepts
  emission : t.deed.emission = if t.deed.outcome = .emitted then t.deed.offer else none

/-- A context, the store that its alerts go to, the tick that is under way, and what happened. -/
structure Ledger where
  context : Context
  store : Store
  underWay : Option Opening := none
  entries : List Entry := []

/-- What can happen to a context and its store. -/
inductive Event where
  /-- A tick begins, unless one is under way. -/
  | begin (env : Environment) (sight : Sight) (moment : Nat)
  /-- The evaluation of the tick under way is over, or has panicked. -/
  | settle
  | apply (settings : Settings)
  /-- The settings are loaded from the store, if it lets them. -/
  | reload (defaults : Defaults)
  /-- The loop of the context is started or stopped. -/
  | turn (state : LoopState) (handle : Option Receiver) (periods : Nat)
  | put (cluster : String) (record : SettingsRecord)
  | remove (cluster : String) (kind : Kind)
  | failLoads (fails : Bool)
  | failEmissions (fails : Bool)
  /-- Somebody else emits an alert. -/
  | emit (e : Emission)

namespace Ledger

/-- The ledger with one more tick that is over. -/
def close (l : Ledger) (opening : Opening) (deed : Deed) (after : Context) : Ledger where
  context := after
  store := deed.store l.store
  underWay := none
  entries := l.entries ++ [.tick ⟨opening, l.context.settings, l.store.accepts, deed⟩]

/-- The ledger after an event. -/
def step (l : Ledger) : Event → Ledger
  | .begin env sight moment =>
    match l.underWay with
    | some _ => l
    | none =>
      let opening : Opening := ⟨env, sight, moment, l.context.settings⟩
      if l.context.settings.enabled then { l with underWay := some opening }
      else l.close opening (.idle l.context moment) l.context
  | .settle =>
    match l.underWay with
    | none => l
    | some o =>
      let e := o.evaluation l.context.kind
      match e.finding.returned? with
      | none => { l with underWay := none }
      | some finding =>
        l.close o (.ofEvaluation o.env l.context l.store.accepts o.moment e finding)
          (l.context.conclude l.store.accepts finding).2.2
  | .apply settings => { l with context := l.context.apply settings }
  | .reload defaults =>
    match l.store.load l.context.cluster with
    | .error _ => l
    | .ok stored =>
      { l with context := l.context.apply (.inForce defaults stored l.context.kind) }
  | .turn state handle periods => { l with context := { l.context with state, handle, periods } }
  | .put cluster record => { l with store := l.store.put cluster record }
  | .remove cluster kind => { l with store := l.store.remove cluster kind }
  | .failLoads fails => { l with store := { l.store with failsLoads := fails } }
  | .failEmissions fails => { l with store := { l.store with failsEmissions := fails } }
  | .emit e =>
    match l.store.emit e with
    | .error _ => l
    | .ok store => { l with store, entries := l.entries ++ [.other e] }

/-- The ledger after a course of events. -/
def after (l : Ledger) (events : List Event) : Ledger :=
  events.foldl step l

section

variable {l : Ledger}

/-- A tick of an enabled kind begins with the settings in force. -/
theorem step_begin_of_enabled (hidle : l.underWay = none) (henabled : l.context.settings.enabled)
    (env : Environment) (sight : Sight) (moment : Nat) :
    l.step (.begin env sight moment) =
      { l with underWay := some ⟨env, sight, moment, l.context.settings⟩ } := by
  simp [step, hidle, henabled]

/-- A tick of a disabled kind is over at once. -/
theorem step_begin_of_disabled (hidle : l.underWay = none)
    (hdisabled : ¬l.context.settings.enabled) (env : Environment) (sight : Sight) (moment : Nat) :
    l.step (.begin env sight moment) =
      l.close ⟨env, sight, moment, l.context.settings⟩ (.idle l.context moment) l.context := by
  simp [step, hidle, hdisabled]

/-- The tick under way concludes with the settings and the store as they are. -/
theorem step_settle {o : Opening} (ho : l.underWay = some o)
    {finding : Except Fault (Option String)}
    (hfinding : (o.evaluation l.context.kind).finding.returned? = some finding) :
    l.step .settle = l.close o
      (.ofEvaluation o.env l.context l.store.accepts o.moment (o.evaluation l.context.kind) finding)
      (l.context.conclude l.store.accepts finding).2.2 := by
  simp [step, ho, hfinding]

/-- The tick under way is given up where its evaluation panics. -/
theorem step_settle_of_panic {o : Opening} (ho : l.underWay = some o)
    (hpanic : (o.evaluation l.context.kind).finding.returned? = none) :
    l.step .settle = { l with underWay := none } := by
  simp [step, ho, hpanic]

/-- Without a tick under way there is nothing to settle. -/
theorem step_settle_of_idle (hidle : l.underWay = none) : l.step .settle = l := by
  simp [step, hidle]

end

end Ledger

/-! ### Counting -/

/-- A count that has reached the largest number of 32 bits stays there. -/
theorem Context.toNat_counter_increment (c : Context) :
    c.increment.counter.toNat = capped (c.counter.toNat + 1) := by
  have hlt : c.counter.toNat < UInt32.size := c.counter.toNat_lt
  have hsize : UInt32.size = 4294967296 := rfl
  unfold increment capped
  dsimp only
  split
  case isTrue hmax =>
    rw [hmax]
    decide
  case isFalse hmax =>
    have hne : c.counter.toNat ≠ UInt32.size - 1 := by
      intro heq
      apply hmax
      rw [← heq, UInt32.ofNat_toNat]
    have hone : (1 : UInt32).toNat = 1 := rfl
    rw [UInt32.toNat_add, hone]
    omega

/-- Capping a count before the next one is of no account. -/
theorem capped_capped_add_one (count : Nat) : capped (capped count + 1) = capped (count + 1) := by
  unfold capped
  omega

/-- One more entry ends the count if it is an emission, and may add to it otherwise. -/
theorem problemsSince_concat (kind : Kind) (entries : List Entry) (e : Entry) :
    problemsSince kind (entries ++ [e]) =
      if e.isEmission then 0
      else problemsSince kind entries + if e.isProblem kind then 1 else 0 := by
  unfold problemsSince
  rw [List.rtakeWhile_concat]
  cases e.isEmission <;> simp [List.countP_append]

/-! ### What a tick comes to -/

/-- Everything that can follow from a finding. -/
inductive Context.Concludes (c : Context) (accepts : Bool) :
    Except Fault (Option String) → TickOutcome × Option Emission × Context → Prop where
  | inconclusive (f : Fault) : Concludes c accepts (.error f) (.inconclusive, none, c)
  | healthy : Concludes c accepts (.ok none) (.healthy, none, c)
  | pending (message : String) (hlt : c.increment.counter < c.settings.triggerTimes) :
      Concludes c accepts (.ok (some message))
        (.pending c.increment.counter c.settings.triggerTimes, none, c.increment)
  | emitted (message : String) (hle : c.settings.triggerTimes ≤ c.increment.counter)
      (haccepts : accepts) : Concludes c accepts (.ok (some message))
        (.emitted, some (.of c.cluster c.kind message), c.increment.reset)
  | emitFailed (message : String) (hle : c.settings.triggerTimes ≤ c.increment.counter)
      (hrefuses : ¬accepts) : Concludes c accepts (.ok (some message))
        (.emitFailed, some (.of c.cluster c.kind message), c.increment)

theorem Context.concludes (c : Context) (accepts : Bool) (finding : Except Fault (Option String)) :
    c.Concludes accepts finding (c.conclude accepts finding) := by
  unfold conclude
  match finding with
  | .error f => exact .inconclusive f
  | .ok none => exact .healthy
  | .ok (some message) =>
    dsimp only
    split
    case isTrue hlt => exact .pending message hlt
    case isFalse hnot =>
      have hle := UInt32.not_lt.mp hnot
      split
      case isTrue haccepts => exact .emitted message hle haccepts
      case isFalse hrefuses => exact .emitFailed message hle hrefuses

/-- Whatever follows, the context stays that of the same kind, with the same settings. -/
theorem Context.Concludes.same {c : Context} {accepts : Bool}
    {finding : Except Fault (Option String)} {result : TickOutcome × Option Emission × Context}
    (h : c.Concludes accepts finding result) :
    result.2.2.cluster = c.cluster ∧ result.2.2.kind = c.kind ∧
      result.2.2.settings = c.settings := by
  cases h <;> exact ⟨rfl, rfl, rfl⟩

/-- The problem of a tick whose evaluation returned is what it found. -/
theorem Opening.problem_of_returned? {o : Opening} {kind : Kind}
    {finding : Except Fault (Option String)} (henabled : o.settings.enabled)
    (hfinding : (o.evaluation kind).finding.returned? = some finding) :
    o.problem kind = finding.toOption.join := by
  rw [problem, if_pos henabled, Outcome.returned?_eq_some_iff.mp hfinding, Outcome.value?_ofExcept]

section

variable {t : Tick} {c : Context} {finding : Except Fault (Option String)}
  {result : TickOutcome × Option Emission × Context}

/-- A tick that concludes with the context's count does what it has to do. -/
theorem Tick.proper_of_concludes {problems : Nat} (henabled : t.opening.settings.enabled)
    (hcounter : c.counter.toNat = capped problems) (hclosing : t.closing = c.settings)
    (hfinding : (t.opening.evaluation c.kind).finding.returned? = some finding)
    (hconcludes : c.Concludes t.accepts finding result)
    (houtcome : t.deed.outcome = result.1) (hoffer : t.deed.offer = result.2.1)
    (hemission : t.deed.emission = t.deed.offer.filter fun _ => t.accepts) :
    t.Proper c.cluster c.kind problems := by
  have hcount : c.increment.counter.toNat = capped (problems + 1) := by
    rw [c.toNat_counter_increment, hcounter, capped_capped_add_one]
  have hcount_iff (count : UInt32) :
      count.toNat = capped (problems + 1) ↔ count = c.increment.counter := by
    rw [← hcount, UInt32.toNat_inj]
  have hreached_iff : t.closing.triggerTimes.toNat ≤ capped (problems + 1) ↔
      c.settings.triggerTimes ≤ c.increment.counter := by
    rw [← hcount, hclosing, UInt32.le_iff_toNat_le]
  have hproblem := Opening.problem_of_returned? henabled hfinding
  have hreturned := Outcome.returned?_eq_some_iff.mp hfinding
  -- Each field says when one outcome comes about, so it is compared with all five that can.
  exact {
    disabled := by cases hconcludes <;> simp [houtcome, henabled]
    healthy := by cases hconcludes <;> simp [houtcome, henabled, hreturned]
    inconclusive := by cases hconcludes <;> simp [houtcome, henabled, hreturned]
    pending := by
      intro count times
      rw [hcount_iff, hproblem, hclosing, houtcome]
      cases hconcludes with
      | pending message hlt =>
        constructor
        · rintro ⟨⟩
          exact ⟨rfl, rfl, rfl, hlt⟩
        · rintro ⟨-, rfl, rfl, -⟩
          rfl
      | emitted message hle | emitFailed message hle =>
        simp only [reduceCtorEq, false_iff]
        rintro ⟨-, rfl, rfl, hlt⟩
        exact UInt32.not_lt.mpr hle hlt
      | _ => simp [Except.toOption]
    reachesStore := by
      rw [hreached_iff, hproblem]
      cases hconcludes <;> simp_all [Tick.ReachesStore, Except.toOption]
    offer := by
      rw [Tick.ReachesStore, hoffer, hproblem]
      cases hconcludes <;> simp [Except.toOption]
    emitted := by cases hconcludes <;> simp_all [Tick.ReachesStore]
    emitFailed := by cases hconcludes <;> simp_all [Tick.ReachesStore]
    emission := by cases hconcludes <;> simp_all }

/-- After a tick that concludes, the context counts the problems since the last emission. -/
theorem counter_of_concludes {entries : List Entry} (henabled : t.opening.settings.enabled)
    (hcounter : c.counter.toNat = capped (problemsSince c.kind entries))
    (hfinding : (t.opening.evaluation c.kind).finding.returned? = some finding)
    (hconcludes : c.Concludes t.accepts finding result) (houtcome : t.deed.outcome = result.1) :
    result.2.2.counter.toNat = capped (problemsSince c.kind (entries ++ [.tick t])) := by
  have hcount : c.increment.counter.toNat = capped (problemsSince c.kind entries + 1) := by
    rw [c.toNat_counter_increment, hcounter, capped_capped_add_one]
  have hproblem := Opening.problem_of_returned? henabled hfinding
  rw [problemsSince_concat]
  simp only [Entry.isEmission, Entry.isProblem, houtcome]
  cases hconcludes with
  | inconclusive f => simpa [hproblem, Except.toOption] using hcounter
  | healthy => simpa [hproblem, Except.toOption] using hcounter
  | pending message hlt => simpa [hproblem, Except.toOption] using hcount
  | emitted message hle haccepts => rfl
  | emitFailed message hle hrefuses => simpa [hproblem, Except.toOption] using hcount

end

end CopysetWatch.Alert
