import CopysetWatch.Proofs.Alert.Accounts
import CopysetWatch.Proofs.Alert.LoopSteps
import CopysetWatch.Simulation.Basic

/-!
# Loops and their ledgers

Whatever a loop does to its context is an event of a ledger, and every deed of the loop is an entry,
so the accounts of a ledger are those of the loop. The same holds of a context that is ticked by
hand, in whose time the loops of others may go on.
-/

namespace CopysetWatch

namespace Alert

namespace Ledger

/-- A ledger is where a loop is that sees so much: they have the same context and the same tick
under way. -/
structure Follows (env : Environment) (sight : Sight) (l : Ledger) (loop : AlertLoop) : Prop where
  context : l.context = loop.context
  idle : (∀ began rule, loop.phase ≠ .evaluating began rule) → l.underWay = none
  evaluating : ∀ began rule, loop.phase = .evaluating began rule →
    ∃ settings : Settings, settings.rule = rule ∧ settings.enabled ∧
      l.underWay = some ⟨env, sight, began, settings⟩

/-- A later ledger has taken down some deeds, and stored what they emitted. -/
structure Records (l : Ledger) (deeds : List Deed) (later : Ledger) : Prop where
  store : later.store = deeds.foldl (fun s d => d.store s) l.store
  entries : ∃ ticks : List Tick, ticks.map Tick.deed = deeds ∧
    later.entries = l.entries ++ ticks.map Entry.tick

variable {env : Environment} {sight : Sight} {l : Ledger} {loop : AlertLoop}

/-- Deeds that are taken down one after the other are taken down together. -/
theorem Records.trans {l₁ l₂ l₃ : Ledger} {deeds deeds' : List Deed} (h : l₁.Records deeds l₂)
    (h' : l₂.Records deeds' l₃) : l₁.Records (deeds ++ deeds') l₃ where
  store := by rw [h'.store, h.store, List.foldl_append]
  entries := by
    obtain ⟨ticks, hdeeds, hentries⟩ := h.entries
    obtain ⟨ticks', hdeeds', hentries'⟩ := h'.entries
    refine ⟨ticks ++ ticks', by rw [List.map_append, hdeeds, hdeeds'], ?_⟩
    rw [hentries', hentries, List.map_append, List.append_assoc]

/-- Nothing is taken down where nothing changes but the context. -/
theorem records_nil {later : Ledger} (hstore : later.store = l.store)
    (hentries : later.entries = l.entries) : l.Records [] later :=
  ⟨hstore, [], rfl, by rw [hentries, List.map_nil, List.append_nil]⟩

/-- A tick that is closed is taken down. -/
theorem records_close (l : Ledger) (o : Opening) (deed : Deed) (after : Context) :
    l.Records [deed] (l.close o deed after) :=
  ⟨rfl, [⟨o, l.context.settings, l.store.accepts, deed⟩], rfl, rfl⟩

/-- Storing alerts does not change whether the next one is accepted. -/
theorem accepts_foldl_store (deeds : List Deed) (s : Store) :
    (deeds.foldl (fun s d => d.store s) s).accepts = s.accepts := by
  induction deeds generalizing s with
  | nil => rfl
  | cons d rest ih => rw [List.foldl_cons, ih, d.accepts_store]

/-- After a tick, a loop waits again or is over. -/
theorem exists_follows_resume (env : Environment) (sight : Sight) (loop : AlertLoop) (now : Nat)
    (hidle : l.underWay = none) :
    ∃ e, (l.step e).Follows env sight (loop.resume l.context now) ∧ l.Records [] (l.step e) := by
  let next := loop.resume l.context now
  have hcontext : { l.context with
      state := next.context.state
      handle := next.context.handle
      periods := next.context.periods } = next.context := by
    simp only [next, AlertLoop.resume]
    split <;> rfl
  have hphase : ∀ began rule, next.phase ≠ .evaluating began rule := by
    simp only [next, AlertLoop.resume]
    split <;> simp [AlertLoop.finish]
  refine ⟨.turn next.context.state next.context.handle next.context.periods, ?_,
    records_nil rfl rfl⟩
  exact ⟨hcontext, fun _ => hidle, fun began rule heq => absurd heq (hphase began rule)⟩

/-- Each step of a loop is a course of events, and its deeds are taken down. -/
theorem Follows.exists_after_steps (h : l.Follows env sight loop) {target : Nat}
    {next : AlertLoop} {deeds : List Deed}
    (hstep : loop.Steps env sight l.store.accepts target next deeds) :
    ∃ events, (l.after events).Follows env sight next ∧ l.Records deeds (l.after events) := by
  cases hstep with
  | @begins due hphase hdue henabled =>
    have hidle : l.underWay = none := h.idle (by simp [hphase])
    rw [← h.context] at henabled
    have hbegun := step_begin_of_enabled hidle henabled env sight due
    refine ⟨[.begin env sight due], ?_, ?_⟩
    · change (l.step (.begin env sight due)).Follows env sight _
      rw [hbegun]
      refine ⟨h.context, fun hno => absurd rfl (hno due _), fun began rule heq => ?_⟩
      cases heq
      exact ⟨l.context.settings, by rw [h.context], henabled, rfl⟩
    · change l.Records [] (l.step (.begin env sight due))
      rw [hbegun]
      exact records_nil rfl rfl
  | @idles due hphase hdue hdisabled =>
    have hidle : l.underWay = none := h.idle (by simp [hphase])
    rw [← h.context] at hdisabled ⊢
    have hclosed := step_begin_of_disabled hidle hdisabled env sight due
    obtain ⟨e, hfollows, hrecords⟩ :=
      exists_follows_resume (l := l.step (.begin env sight due)) env sight loop due
        (by rw [hclosed]; rfl)
    have hcontext : (l.step (.begin env sight due)).context = l.context := by
      rw [hclosed]
      rfl
    rw [hcontext] at hfollows
    exact ⟨[.begin env sight due, e], hfollows, (hclosed ▸ records_close l _ _ _).trans hrecords⟩
  | @settles began rule finding hphase hend hfinding =>
    obtain ⟨settings, rfl, henabled, hunderWay⟩ := h.evaluating began rule hphase
    rw [← h.context] at hfinding ⊢
    have hclosed := step_settle hunderWay hfinding
    obtain ⟨e, hfollows, hrecords⟩ := exists_follows_resume (l := l.step .settle) env sight loop
      (began + (l.context.kind.evaluate env sight settings.rule began).elapsed)
      (by rw [hclosed]; rfl)
    have hcontext : (l.step .settle).context =
        (l.context.conclude l.store.accepts finding).2.2 := by
      rw [hclosed]
      rfl
    rw [hcontext] at hfollows
    exact ⟨[.settle, e], hfollows, (hclosed ▸ records_close l _ _ _).trans hrecords⟩
  | @dies began rule hphase hend hpanic =>
    obtain ⟨settings, rfl, henabled, hunderWay⟩ := h.evaluating began rule hphase
    rw [← h.context] at hpanic
    have hgivenUp := step_settle_of_panic hunderWay hpanic
    refine ⟨[.settle], ?_, ?_⟩
    · change (l.step .settle).Follows env sight loop.die
      rw [hgivenUp]
      exact ⟨h.context, fun _ => rfl, fun began rule heq => by cases heq⟩
    · change l.Records [] (l.step .settle)
      rw [hgivenUp]
      exact records_nil rfl rfl

/-- So is everything that a loop comes to in some steps. -/
theorem Follows.exists_after_ran {last : AlertLoop} {deeds : List Deed} {accepts : Bool}
    {target : Nat} (hran : AlertLoop.Ran env sight accepts target loop last deeds)
    (h : l.Follows env sight loop) (haccepts : l.store.accepts = accepts) :
    ∃ events, (l.after events).Follows env sight last ∧ l.Records deeds (l.after events) := by
  induction hran generalizing l with
  | nil loop => exact ⟨[], h, records_nil rfl rfl⟩
  | cons hstep _ ih =>
    obtain ⟨events, hfollows, hrecords⟩ := h.exists_after_steps (haccepts ▸ hstep)
    have hsame : (l.after events).store.accepts = accepts := by
      rw [hrecords.store, accepts_foldl_store, haccepts]
    obtain ⟨others, hfollows', hrecords'⟩ := ih hfollows hsame
    have happend : l.after (events ++ others) = (l.after events).after others := List.foldl_append
    exact ⟨events ++ others, happend ▸ hfollows', happend ▸ hrecords.trans hrecords'⟩

/-- A loop that begins on a fresh context is where a ledger is. -/
theorem exists_follows_begin? {cluster : String} {kind : Kind} {settings : Settings} (store : Store)
    {now : Nat} (hbegin : AlertLoop.begin? { cluster, kind, settings } now = some loop) :
    ∃ e, ((fresh cluster kind settings store).step e).Follows env sight loop := by
  cases hbegin
  refine ⟨.turn .running (some ⟨0⟩) 1, rfl, fun _ => rfl, fun began rule heq => ?_⟩
  cases heq

/-- Other settings for the loop are other settings for the ledger. -/
theorem Follows.apply (h : l.Follows env sight loop) (settings : Settings) :
    (l.step (.apply settings)).Follows env sight (loop.apply settings) := by
  refine ⟨?_, h.idle, h.evaluating⟩
  change l.context.apply settings = loop.context.apply settings
  rw [h.context]

/-- A signal to stop leaves the tick under way alone. -/
theorem Follows.exists_stop (h : l.Follows env sight loop) :
    ∃ e, (l.step e).Follows env sight loop.stop.2 ∧ l.Records [] (l.step e) := by
  let next := loop.stop.2
  have hcontext : { l.context with
      state := next.context.state
      handle := next.context.handle
      periods := next.context.periods } = next.context := by
    rw [h.context]
    simp only [next, AlertLoop.stop, Context.stop]
    split
    case h_1 c hstopped =>
      obtain ⟨-, rfl⟩ := Prod.mk.inj hstopped
      rfl
    case h_2 r c hstopped =>
      obtain ⟨-, rfl⟩ := Prod.mk.inj hstopped
      split <;> rfl
  have hphase : next.phase = loop.phase ∨
      (next.phase = .ended ∧ ∀ began rule, loop.phase ≠ .evaluating began rule) := by
    simp only [next, AlertLoop.stop]
    split
    · exact .inl rfl
    · split
      case h_1 hevaluating => exact .inl rfl
      case h_2 hnot => exact .inr ⟨rfl, hnot⟩
  refine ⟨.turn next.context.state next.context.handle next.context.periods, ⟨hcontext, ?_, ?_⟩,
    records_nil rfl rfl⟩
  · intro hnot
    apply h.idle
    rcases hphase with hsame | ⟨-, hidle⟩
    · rwa [hsame] at hnot
    · exact hidle
  · intro began rule heq
    rcases hphase with hsame | ⟨hended, -⟩
    · exact h.evaluating began rule (hsame ▸ heq)
    · rw [hended] at heq
      cases heq

/-- A ledger can go along with a loop: with everything that the loop does up to a moment, with other
settings for it, and with a signal to stop. -/
structure GoesAlong (env : Environment) (sight : Sight) (l : Ledger) (loop : AlertLoop) : Prop where
  run : ∀ target cut, let ran := loop.runCut env sight l.store.accepts target cut
    ∃ events, (l.after events).Follows env sight ran.1 ∧ l.Records ran.2 (l.after events)
  apply : ∀ settings, (l.step (.apply settings)).Follows env sight (loop.apply settings)
  stop : ∃ e, (l.step e).Follows env sight loop.stop.2 ∧ l.Records [] (l.step e)

theorem Follows.goesAlong (h : l.Follows env sight loop) : l.GoesAlong env sight loop where
  run _ _ := h.exists_after_ran (AlertLoop.ran_runCut ..) rfl
  apply := h.apply
  stop := h.exists_stop

end Ledger

end Alert

/-! ### Contexts that are ticked by hand -/

namespace Simulation

open Alert

/-- Storing and publishing deeds changes nothing but the store and the metrics. -/
theorem absorbAll_eq (s : Simulation) (deeds : List (List Deed)) : s.absorbAll deeds =
    { s with
      store := (inOrder deeds).foldl (fun store d => d.store store) s.store
      metrics := (inOrder deeds).foldl (fun metrics d => d.record metrics) s.metrics } := by
  unfold absorbAll
  generalize inOrder deeds = merged
  induction merged generalizing s with
  | nil => rfl
  | cons d rest ih => exact ih (s.absorb d)

/-- Where no reload is due, time passes at once. -/
theorem advanceTo_of_late {s : Simulation} {target : Nat}
    (h : ∀ due, s.nextReload = some due → target < due) :
    s.advanceTo target = s.runTo target fun _ => none := by
  rw [advanceTo]
  split
  case h_1 => rfl
  case h_2 due hdue => exact if_neg (Nat.not_le.mpr (h due hdue))

/-- Where a reload is due, it comes first. -/
theorem advanceTo_of_due {s : Simulation} {due target : Nat} (h : s.nextReload = some due)
    (hdue : due ≤ target) :
    s.advanceTo target = ((s.runTo due (s.ties due)).reloadAt due).advanceTo target := by
  rw [advanceTo]
  split
  case h_1 hnone => rw [h] at hnone; cases hnone
  case h_2 due' hdue' =>
    obtain rfl : due' = due := Option.some.inj (hdue'.symm.trans h)
    exact if_pos hdue

/-- However long the loops go on, alerts are accepted as before, and no loop ticks the context that
is ticked by hand. -/
theorem accepts_and_context_advanceTo (s : Simulation) (target : Nat) :
    (s.advanceTo target).store.accepts = s.store.accepts ∧
      (s.advanceTo target).context = s.context := by
  have hrun (s : Simulation) (moment : Nat) (cut : Kind → Option Nat) :
      (s.runTo moment cut).store.accepts = s.store.accepts ∧
        (s.runTo moment cut).context = s.context := by
    rw [runTo, absorbAll_eq, Ledger.accepts_foldl_store]
    exact ⟨rfl, rfl⟩
  induction s using advanceTo.induct target with
  | case1 s hnone =>
    rw [advanceTo_of_late (by simp [hnone])]
    exact hrun s target _
  | case2 s due hsome hdue ih =>
    rw [advanceTo_of_due hsome hdue]
    exact ⟨ih.1.trans (hrun s due (s.ties due)).1, ih.2.trans (hrun s due (s.ties due)).2⟩
  | case3 s due hsome hlate =>
    rw [advanceTo_of_late]
    · exact hrun s target _
    · rintro _ hsome'
      obtain rfl := Option.some.inj (hsome.symm.trans hsome')
      exact Nat.not_le.mp hlate

/-- A tick by hand is begun and settled, and its deed is taken down unless its evaluation panics. -/
theorem exists_records_tickContext {s : Simulation} {l : Ledger}
    (hcontext : s.context = some l.context) (hidle : l.underWay = none)
    (haccepts : l.store.accepts = s.store.accepts) :
    let later := l.after [.begin s.env s.present s.now, .settle]
    s.tickContext.2.context = some later.context ∧
      ((∃ deed, l.Records [deed] later ∧
          s.tickContext.1 = some (.value (deed.outcome, later.context.counter))) ∨
        l.Records [] later ∧ s.tickContext.1 = some .panic) := by
  intro later
  have hlater : later = (l.step (.begin s.env s.present s.now)).step .settle := rfl
  unfold tickContext
  rw [hcontext]
  dsimp only
  by_cases henabled : l.context.settings.enabled
  · let o : Opening := ⟨s.env, s.present, s.now, l.context.settings⟩
    let begun : Ledger := { l with underWay := some o }
    have hlater : later = begun.step .settle :=
      hlater.trans (congrArg (·.step .settle) (Ledger.step_begin_of_enabled hidle henabled ..))
    rw [if_pos henabled]
    cases hfinding : (o.evaluation l.context.kind).finding.returned? with
    | none =>
      rw [begun.step_settle_of_panic rfl hfinding] at hlater
      change (l.context.kind.evaluate s.env s.present l.context.settings.rule
        s.now).finding.returned? = none at hfinding
      rw [hfinding, hlater]
      exact ⟨(s.accepts_and_context_advanceTo _).2.trans hcontext,
        .inr ⟨Ledger.records_nil rfl rfl, rfl⟩⟩
    | some finding =>
      rw [begun.step_settle rfl hfinding] at hlater
      change (l.context.kind.evaluate s.env s.present l.context.settings.rule
        s.now).finding.returned? = some finding at hfinding
      rw [hfinding, hlater, advance, (s.accepts_and_context_advanceTo _).1, ← haccepts]
      exact ⟨rfl, .inl ⟨_, Ledger.records_close l _ _ _, rfl⟩⟩
  · rw [Ledger.step_begin_of_disabled hidle henabled, Ledger.step_settle_of_idle rfl] at hlater
    rw [if_neg henabled, hlater]
    exact ⟨hcontext, .inl ⟨_, Ledger.records_close l _ _ _, rfl⟩⟩

end Simulation

namespace Alert.Ledger

/-- **The ledger of an alert context.** Whatever happens to a context and its store since the
context was created, the counter is the number of ticks that found a problem since the last
emission, as far as 32 bits go, and only such a tick changes it; the stored alerts are those that
were there, those that the context emitted and those of others, in order; and each tick did what it
has to do after so many problems. A tick that is begun is entered when its evaluation is over, with
the settings that were in force then and before, however much happens in between. The loops of the
kind and whoever ticks by hand keep such a ledger. -/
theorem accounts_after (cluster : String) (kind : Kind) (settings : Settings) (store : Store)
    (events : List Event) :
    let l := (fresh cluster kind settings store).after events
    l.context.counter.toNat = min (problemsSince kind l.entries) (UInt32.size - 1) ∧
      (∀ e, (l.step e).context.counter ≠ l.context.counter →
        ∃ t, (l.step e).entries = l.entries ++ [.tick t] ∧ (t.opening.problem kind).isSome) ∧
      l.store.emissions = store.emissions ++ l.entries.filterMap Entry.emission ∧
      (∀ earlier t later, l.entries = earlier ++ .tick t :: later →
        t.Proper cluster kind (problemsSince kind earlier)) ∧
      (∀ e, l.Heeds e (l.step e)) ∧
      (l.underWay = none → l.context.settings.enabled →
        ∀ env sight moment between, .settle ∉ between →
          let o : Opening := ⟨env, sight, moment, l.context.settings⟩
          let closing := l.after (.begin env sight moment :: between)
          (∃ others : List Emission, closing.entries = l.entries ++ others.map .other) ∧
            ((o.evaluation kind).finding ≠ .panic → ∃ deed,
              (closing.step .settle).entries = closing.entries ++
                [.tick ⟨o, closing.context.settings, closing.store.accepts, deed⟩])) ∧
      (∀ env sight loop now,
        AlertLoop.begin? { cluster, kind, settings } now = some loop →
          ∃ e, ((fresh cluster kind settings store).step e).Follows env sight loop) ∧
      (∀ env sight loop, l.Follows env sight loop → l.GoesAlong env sight loop) ∧
      ∀ s : Simulation, s.context = some l.context → l.underWay = none →
        l.store.accepts = s.store.accepts →
          let later := l.after [.begin s.env s.present s.now, .settle]
          s.tickContext.2.context = some later.context ∧
            ((∃ deed, l.Records [deed] later ∧
                s.tickContext.1 = some (.value (deed.outcome, later.context.counter))) ∨
              l.Records [] later ∧ s.tickContext.1 = some .panic) := by
  intro l
  have hsound : l.Sound cluster kind store.emissions :=
    (Sound.fresh cluster kind settings store).after events
  refine ⟨hsound.counter, fun e hne => hsound.exists_problem_of_counter_ne hne, hsound.emissions,
    hsound.ticks, l.heeds_step, ?_, fun env sight loop now => exists_follows_begin? store,
    fun env sight loop h => h.goesAlong, fun s => Simulation.exists_records_tickContext⟩
  intro hidle henabled env sight moment between hbetween
  obtain ⟨hothers, hentered⟩ := entries_settle_after hidle henabled env sight moment hbetween
  have hkind : (l.after (.begin env sight moment :: between)).context.kind = kind :=
    (hsound.after _).sameKind
  exact ⟨hothers, hkind ▸ hentered⟩

/-- What is seen where no service has an endpoint. -/
def deserted : Sight where
  gateway _ :=
    { servers := .now (.ok [])
      assignments := fun _ => .now (.ok [])
      members := fun _ _ => .now (.ok [])
      copysets := .now (.ok [])
      raftStatus := fun address => .now (.error (.unreachable address)) }
  probe _ :=
    { capacity := .now (.ok ⟨100, 1⟩)
      endpoints := fun _ => .now (.ok [])
      leads := fun _ _ => .now (.ok false) }

/-- A service without a leader is an alert that the store refuses at first, and takes at the next
tick. -/
theorem accounts_after_refused_and_emitted :
    let env : Environment := ⟨"east", {}, .ofSeconds 1⟩
    let l := (fresh "east" (.leader .etcd) ⟨true, .ofSeconds 10, 1, ""⟩ {}).after
      [.failEmissions true, .begin env deserted 10000, .settle, .failEmissions false,
        .begin env deserted 20000, .settle]
    ∃ refused emitted, l.entries = [.tick refused, .tick emitted] ∧
      refused.deed.outcome = .emitFailed ∧ emitted.deed.outcome = .emitted ∧
      l.context.counter.toNat = 0 ∧
      l.store.emissions = [.of "east" (.leader .etcd) "etcd has no leader"] := by
  intro env l
  obtain ⟨hcounter, -, hemissions, hticks, -⟩ :=
    accounts_after "east" (.leader .etcd) ⟨true, .ofSeconds 10, 1, ""⟩ {}
      [.failEmissions true, .begin env deserted 10000, .settle, .failEmissions false,
        .begin env deserted 20000, .settle]
  have hrefused := hticks [] _ _ rfl
  have hemitted := hticks [_] _ [] rfl
  have hreaches := hrefused.reachesStore.mpr ⟨rfl, by decide⟩
  have hreaches' := hemitted.reachesStore.mpr ⟨rfl, by decide⟩
  refine ⟨_, _, rfl, hrefused.emitFailed.mpr ⟨hreaches, by decide⟩,
    hemitted.emitted.mpr ⟨hreaches', by decide⟩, ?_, ?_⟩
  · exact hcounter
  · exact hemissions

end Alert.Ledger

end CopysetWatch
