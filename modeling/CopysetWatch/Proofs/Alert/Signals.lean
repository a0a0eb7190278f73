import CopysetWatch.Alert.Context
import Mathlib.Data.List.Induction

/-!
# Stop signals

A context can be called in any order, and whoever has one of its receivers may let go of it at any
time. Each running period has its own receiver, and the handle that reaches it is there from the
beginning of the period until the first stop or the end of the period. So a period is signalled once
at most, and never by a stop that was meant for an earlier one.
-/

namespace CopysetWatch.Alert

/-- What can happen to a context and to its receivers. -/
inductive ContextCall where
  | begin
  | stop
  | markStopped
  | apply (settings : Settings)
  | increment
  | reset
  /-- Whoever has a receiver lets go of it. -/
  | letGo (r : Receiver)

namespace ContextCall

/-- Whether a call is about running, and not about settings or counts. -/
def turns : ContextCall → Bool
  | begin | stop | markStopped => true
  | _ => false

/-- Whether a call uses up the handle. -/
def usesUp : ContextCall → Bool
  | stop | markStopped => true
  | _ => false

end ContextCall

/-- A context, and the receivers that nobody has any more. -/
structure Signalling where
  context : Context
  gone : List Receiver := []

namespace Signalling

/-- Whether somebody has a receiver. -/
def listens (s : Signalling) (r : Receiver) : Bool :=
  !s.gone.contains r

/-- What a call leaves behind; nobody can let go of a receiver that was not handed out. -/
def step (s : Signalling) : ContextCall → Signalling
  | .begin => { s with context := (s.context.begin?.map Prod.snd).getD s.context }
  | .stop => { s with context := (s.context.stop s.listens).2 }
  | .markStopped => { s with context := s.context.markStopped }
  | .apply settings => { s with context := s.context.apply settings }
  | .increment => { s with context := s.context.increment }
  | .reset => { s with context := s.context.reset }
  | .letGo r => if r.period < s.context.periods then { s with gone := r :: s.gone } else s

/-- What some calls leave behind. -/
def after (s : Signalling) (calls : List ContextCall) : Signalling :=
  calls.foldl step s

/-- The receiver that a call hands out. -/
def handedOut? (s : Signalling) : ContextCall → Option Receiver
  | .begin => s.context.begin?.map Prod.fst
  | _ => none

/-- The receiver that is signalled with a call, which is then said to have reached it. -/
def signalled? (s : Signalling) : ContextCall → Option Receiver
  | .stop => (s.context.stop s.listens).1
  | _ => none

/-- The receivers that some calls concern, each call as it comes. -/
def collect (about : Signalling → ContextCall → Option Receiver) (s : Signalling) :
    List ContextCall → List Receiver
  | [] => []
  | c :: rest => (about s c).toList ++ (s.step c).collect about rest

/-- The receivers that some calls hand out. -/
def handedOut (s : Signalling) (calls : List ContextCall) : List Receiver :=
  s.collect handedOut? calls

/-- The receivers that are signalled with some calls. -/
def signalled (s : Signalling) (calls : List ContextCall) : List Receiver :=
  s.collect signalled? calls

theorem after_concat (s : Signalling) (calls : List ContextCall) (c : ContextCall) :
    s.after (calls ++ [c]) = (s.after calls).step c :=
  List.foldl_append

theorem collect_concat (about : Signalling → ContextCall → Option Receiver) (s : Signalling)
    (calls : List ContextCall) (c : ContextCall) :
    s.collect about (calls ++ [c]) = s.collect about calls ++ (about (s.after calls) c).toList := by
  induction calls generalizing s with
  | nil => exact List.append_nil _
  | cons first rest ih => exact (congrArg _ (ih (s.step first))).trans (List.append_assoc ..).symm

/-! ### Single calls -/

section

variable {s : Signalling} {r : Receiver}

/-- A period begins only where none is running, and has the next receiver. -/
theorem handedOut?_begin_eq_some_iff :
    s.handedOut? .begin = some r ↔ s.context.state = .stopped ∧ r = ⟨s.context.periods⟩ := by
  unfold handedOut? Context.begin?
  cases s.context.state with
  | running => simp
  | stopped => simp [eq_comm]

/-- At its beginning, a period has a handle that reaches its receiver. -/
theorem step_begin_of_handedOut? (h : s.handedOut? .begin = some r) :
    s.step .begin = { s with context := { s.context with
      state := .running, handle := some r, periods := s.context.periods + 1 } } := by
  obtain ⟨hstopped, rfl⟩ := handedOut?_begin_eq_some_iff.mp h
  simp only [step, Context.begin?, hstopped, Option.map_some, Option.getD_some]

/-- Where a period is running already, beginning another one changes nothing. -/
theorem step_begin_of_none (h : s.handedOut? .begin = none) : s.step .begin = s := by
  have hnone : s.context.begin? = none := Option.map_eq_none_iff.mp h
  simp only [step, hnone, Option.map_none, Option.getD_none]

/-- In any case a period is running then. -/
theorem state_begin (s : Signalling) : (s.step .begin).context.state = .running := by
  cases hstate : s.context.state <;> simp [step, Context.begin?, hstate]

/-- A stop signals the receiver that its handle reaches, if somebody has it. -/
theorem signalled?_stop_eq_some_iff :
    s.signalled? .stop = some r ↔ s.context.handle = some r ∧ r ∉ s.gone := by
  simp [signalled?, Context.stop, listens, Option.filter_eq_some_iff]

/-- What is about settings and counts leaves running alone, and the other way round. -/
theorem step_frame (s : Signalling) (c : ContextCall) :
    (¬c.turns → (s.step c).context.state = s.context.state ∧
      (s.step c).context.handle = s.context.handle) ∧
    (c.turns → (s.step c).context.settings = s.context.settings ∧
      (s.step c).context.counter = s.context.counter) := by
  cases c with
  | begin =>
    refine ⟨fun h => absurd rfl h, fun _ => ?_⟩
    simp only [step, Context.begin?]
    cases s.context.state <;> exact ⟨rfl, rfl⟩
  | stop | markStopped => exact ⟨fun h => absurd rfl h, fun _ => ⟨rfl, rfl⟩⟩
  | apply settings => exact ⟨fun _ => ⟨rfl, rfl⟩, fun h => (nomatch h)⟩
  | increment | reset => exact ⟨fun _ => ⟨rfl, rfl⟩, fun h => (nomatch h)⟩
  | letGo r =>
    refine ⟨fun _ => ?_, fun h => (nomatch h)⟩
    simp only [step]
    split <;> exact ⟨rfl, rfl⟩

end

/-! ### Any calls -/

/-- A handle is there only while a period is running, and receivers are told apart by the number of
periods: those that were handed out, kept or let go of are of periods that have begun. -/
structure Sound (s : Signalling) (receivers : List Receiver) : Prop where
  running : ∀ r, s.context.handle = some r → s.context.state = .running
  begun : ∀ r ∈ receivers, r.period < s.context.periods

/-- Each call keeps this. -/
theorem Sound.step {s : Signalling} {receivers : List Receiver} (h : s.Sound receivers)
    (c : ContextCall) : (s.step c).Sound (receivers ++ (s.handedOut? c).toList) := by
  cases c with
  | begin =>
    cases hbegin : s.handedOut? .begin with
    | none =>
      rw [step_begin_of_none hbegin, Option.toList_none, List.append_nil]
      exact h
    | some r =>
      obtain ⟨-, rfl⟩ := handedOut?_begin_eq_some_iff.mp hbegin
      rw [step_begin_of_handedOut? hbegin, Option.toList_some]
      refine ⟨fun _ _ => rfl, List.forall_mem_append.mpr ⟨fun r hr => ?_, by simp⟩⟩
      exact Nat.lt_succ_of_lt (h.begun r hr)
  | stop | markStopped =>
    simp only [handedOut?, Option.toList_none, List.append_nil]
    exact ⟨fun _ hnone => (nomatch hnone), h.begun⟩
  | apply settings =>
    simp only [handedOut?, Option.toList_none, List.append_nil]
    exact ⟨h.running, h.begun⟩
  | increment | reset =>
    simp only [handedOut?, Option.toList_none, List.append_nil]
    exact ⟨h.running, h.begun⟩
  | letGo r =>
    simp only [Signalling.step, handedOut?, Option.toList_none, List.append_nil]
    split <;> exact ⟨h.running, h.begun⟩

/-- So it holds after any calls of a fresh context. -/
theorem sound_after {s : Signalling} (h : s.Sound []) (calls : List ContextCall) :
    (s.after calls).Sound (s.handedOut calls) := by
  induction calls using List.reverseRecOn with
  | nil => exact h
  | append_singleton calls c ih =>
    rw [after_concat, handedOut, collect_concat]
    exact ih.step c

/-- As long as no period begins, a handle stays until it is used up. -/
theorem handle_after {s : Signalling} {during : List ContextCall}
    (hnone : s.handedOut during = []) :
    (s.after during).context.handle =
      if during.any ContextCall.usesUp then none else s.context.handle := by
  induction during using List.reverseRecOn with
  | nil => rfl
  | append_singleton during c ih =>
    rw [handedOut, collect_concat, List.append_eq_nil_iff, Option.toList_eq_nil_iff] at hnone
    have hbefore := ih hnone.1
    have hkept := fun h => (((s.after during).step_frame c).1 h).2.trans hbefore
    rw [after_concat, List.any_append, List.any_cons, List.any_nil, Bool.or_false]
    cases c with
    | begin =>
      rw [step_begin_of_none hnone.2, hbefore]
      simp [ContextCall.usesUp]
    | stop | markStopped => simp [ContextCall.usesUp, step, Context.stop, Context.markStopped]
    | apply | increment | reset | letGo =>
      rw [hkept Bool.false_ne_true]
      simp [ContextCall.usesUp]

/-- As long as no period begins, at most the handle that is there is used, and once. -/
theorem signalled_cases {s : Signalling} {during : List ContextCall}
    (hnone : s.handedOut during = []) :
    s.signalled during = [] ∨
      during.any ContextCall.usesUp ∧
        ∃ r, s.context.handle = some r ∧ s.signalled during = [r] := by
  induction during using List.reverseRecOn with
  | nil => exact .inl rfl
  | append_singleton during c ih =>
    rw [handedOut, collect_concat, List.append_eq_nil_iff, Option.toList_eq_nil_iff] at hnone
    have hhandle := handle_after hnone.1
    rw [signalled, collect_concat, List.any_append]
    cases hsignal : (s.after during).signalled? c with
    | none =>
      rw [Option.toList_none, List.append_nil]
      exact (ih hnone.1).imp_right fun h => ⟨by rw [h.1]; rfl, h.2⟩
    | some r =>
      obtain rfl : c = .stop := by
        cases c <;> first | rfl | cases hsignal
      obtain ⟨hr, -⟩ := signalled?_stop_eq_some_iff.mp hsignal
      -- The handle was still there, so that nothing was signalled before.
      have hunused : during.any ContextCall.usesUp = false := by
        by_contra hused
        rw [if_pos (by simpa using hused), hr] at hhandle
        cases hhandle
      have hquiet : s.signalled during = [] :=
        (ih hnone.1).resolve_right fun h => by rw [hunused] at h; exact Bool.false_ne_true h.1
      rw [hunused, if_neg Bool.false_ne_true, hr] at hhandle
      refine .inr ⟨by simp [ContextCall.usesUp], r, hhandle.symm, ?_⟩
      rw [← signalled, hquiet]
      rfl

/-- From the beginning of a period to that of the next one, nobody but its receiver is signalled,
and this once at most. -/
theorem signalled_of_begin {s : Signalling} {r : Receiver} (hr : s.handedOut? .begin = some r)
    {during : List ContextCall} (hnone : (s.step .begin).handedOut during = []) :
    (s.step .begin).signalled during = [] ∨ (s.step .begin).signalled during = [r] := by
  rw [step_begin_of_handedOut? hr] at hnone ⊢
  refine (signalled_cases hnone).imp_right ?_
  rintro ⟨-, other, hother, hsignalled⟩
  rw [hsignalled, Option.some.inj hother]

/-- A stop reaches this receiver as long as somebody has it and the period was neither stopped nor
ended. -/
theorem signalled?_of_begin {s : Signalling} {r : Receiver} (hr : s.handedOut? .begin = some r)
    {during : List ContextCall} (hnone : (s.step .begin).handedOut during = [])
    (reached : Receiver) :
    ((s.step .begin).after during).signalled? .stop = some reached ↔
      reached = r ∧ r ∉ ((s.step .begin).after during).gone ∧ ∀ c ∈ during, ¬c.usesUp := by
  have hhandle : (s.step .begin).context.handle = some r := by
    rw [step_begin_of_handedOut? hr]
  rw [signalled?_stop_eq_some_iff, handle_after hnone, hhandle]
  cases hused : during.any ContextCall.usesUp with
  | true =>
    obtain ⟨c, hc, huses⟩ := List.any_eq_true.mp hused
    exact iff_of_false (fun h => nomatch h.1) fun h => h.2.2 c hc huses
  | false =>
    rw [if_neg Bool.false_ne_true, Option.some.injEq, eq_comm (a := r)]
    refine and_congr_right fun hreached => ?_
    rw [hreached]
    exact (and_iff_left (List.any_eq_false.mp hused)).symm

/-- Where there is no handle, nobody is signalled until a period begins. -/
theorem signalled_of_handle_none {s : Signalling} (hhandle : s.context.handle = none)
    {during : List ContextCall} (hnone : s.handedOut during = []) : s.signalled during = [] := by
  refine (signalled_cases hnone).resolve_right ?_
  rintro ⟨-, r, hr, -⟩
  rw [hhandle] at hr
  cases hr

end Signalling

open Signalling in
/-- **One stop signal for each running period.** After any calls of a fresh context, a period begins
just if none is running, and is running then; a handle is there only while a period is running; and
the end of a period leaves neither. The receiver of a period is a new one. Until the next period
begins, it is signalled once at most and nobody else is; a stop signals it just if somebody has it
and neither a stop nor the end of the period came before. No one is signalled where no period has
begun or since a period was ended. What is about settings and counts leaves running alone, and the
other way round. -/
theorem one_signal_per_period (cluster : String) (kind : Kind) (settings : Settings)
    (calls : List ContextCall) :
    let fresh : Signalling := { context := { cluster, kind, settings } }
    let s := fresh.after calls
    (((s.handedOut? .begin).isSome ↔ s.context.state = .stopped) ∧
      (s.step .begin).context.state = .running) ∧
    (s.context.handle.isSome → s.context.state = .running) ∧
    (∀ r, s.handedOut? .begin = some r → r ∉ fresh.handedOut calls ∧
      ∀ during, (s.step .begin).handedOut during = [] →
        ((s.step .begin).signalled during = [] ∨ (s.step .begin).signalled during = [r]) ∧
        ∀ reached, ((s.step .begin).after during).signalled? .stop = some reached ↔
          reached = r ∧ r ∉ ((s.step .begin).after during).gone ∧ ∀ c ∈ during, ¬c.usesUp) ∧
    (fresh.handedOut calls = [] → fresh.signalled calls = []) ∧
    ((s.step .markStopped).context.state = .stopped ∧
      (s.step .markStopped).context.handle = none ∧
      ∀ during, (s.step .markStopped).handedOut during = [] →
        (s.step .markStopped).signalled during = []) ∧
    ∀ c : ContextCall,
      (¬c.turns → (s.step c).context.state = s.context.state ∧
        (s.step c).context.handle = s.context.handle) ∧
      (c.turns → (s.step c).context.settings = s.context.settings ∧
        (s.step c).context.counter = s.context.counter) := by
  intro fresh s
  have hsound : s.Sound (fresh.handedOut calls) :=
    sound_after ⟨fun _ hsome => (Option.some_ne_none _ hsome.symm).elim, by simp⟩ calls
  refine ⟨⟨?begins, s.state_begin⟩, ?handle, fun r hr => ⟨?new, fun during hnone =>
    ⟨signalled_of_begin hr hnone, signalled?_of_begin hr hnone⟩⟩, signalled_of_handle_none rfl,
    ⟨rfl, rfl, fun during => signalled_of_handle_none rfl⟩, s.step_frame⟩
  case begins =>
    simp only [Option.isSome_iff_exists, handedOut?_begin_eq_some_iff, exists_and_left, exists_eq,
      and_true]
  case handle =>
    intro hsome
    obtain ⟨r, hr⟩ := Option.isSome_iff_exists.mp hsome
    exact hsound.running r hr
  case new =>
    intro hold
    obtain ⟨-, rfl⟩ := handedOut?_begin_eq_some_iff.mp hr
    exact Nat.lt_irrefl _ (hsound.begun _ hold)

/-- The first period was stopped twice and has ended. A stop of the second one reaches its receiver
while nobody has that of the first any more. -/
theorem one_signal_per_period_second :
    let ended := Signalling.after
      { context := { cluster := "east", kind := .leader .etcd, settings := default } }
      [.begin, .stop, .stop, .markStopped]
    ended.handedOut? .begin = some ⟨1⟩ ∧
      ((ended.step .begin).after [.increment, .letGo ⟨0⟩, .begin]).signalled? .stop = some ⟨1⟩ := by
  intro ended
  obtain ⟨-, -, hperiod, -⟩ := one_signal_per_period "east" (.leader .etcd) default
    [.begin, .stop, .stop, .markStopped]
  have hbegin : ended.handedOut? .begin = some ⟨1⟩ := rfl
  obtain ⟨-, hduring⟩ := hperiod ⟨1⟩ hbegin
  obtain ⟨-, hreaches⟩ := hduring [.increment, .letGo ⟨0⟩, .begin] rfl
  exact ⟨hbegin, (hreaches ⟨1⟩).mpr ⟨rfl, by decide, by decide⟩⟩

end CopysetWatch.Alert
