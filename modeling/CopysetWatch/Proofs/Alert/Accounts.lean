import CopysetWatch.Proofs.Alert.Ledger

/-!
# Accounts of an alert context

The counter of a context and the alerts in its store follow from its ledger: this holds of a fresh
context, and every event keeps it. The main statement is therefore about every course of events, in
which ticks, settings, reloads and failures of the store come in any order.
-/

namespace CopysetWatch.Alert

/-- The counter and the stored alerts follow from the ledger of a context, whose store held some
alerts at first, and each tick did what it had to do at its place. -/
structure Ledger.Sound (cluster : String) (kind : Kind) (stored : List Emission) (l : Ledger) :
    Prop where
  sameCluster : l.context.cluster = cluster
  sameKind : l.context.kind = kind
  underWay : ∀ o, l.underWay = some o → o.settings.enabled
  counter : l.context.counter.toNat = capped (problemsSince kind l.entries)
  emissions : l.store.emissions = stored ++ l.entries.filterMap Entry.emission
  ticks : ∀ earlier t later, l.entries = earlier ++ .tick t :: later →
    t.Proper cluster kind (problemsSince kind earlier)

/-- Storing what a deed emitted adds its alert, if there is one. -/
theorem Deed.emissions_store (d : Deed) (s : Store) :
    (d.store s).emissions = s.emissions ++ d.emission.toList := by
  unfold Deed.store
  cases d.emission with
  | none => exact (List.append_nil _).symm
  | some e => rfl

/-- Storing alerts does not change whether the next one is accepted. -/
@[simp] theorem Deed.accepts_store (d : Deed) (s : Store) : (d.store s).accepts = s.accepts := by
  unfold Deed.store
  cases d.emission <;> rfl

/-- What holds of every tick and what came before it still holds with one more entry, if it holds
of this one. -/
theorem forall_tick_concat {P : List Entry → Tick → Prop} {entries : List Entry} {e : Entry}
    (h : ∀ earlier t later, entries = earlier ++ .tick t :: later → P earlier t)
    (he : ∀ t, e = .tick t → P entries t) :
    ∀ earlier t later, entries ++ [e] = earlier ++ .tick t :: later → P earlier t := by
  intro earlier t later hsplit
  rcases List.eq_nil_or_concat later with rfl | ⟨others, last, rfl⟩
  · obtain ⟨rfl, hlast⟩ := List.append_inj' hsplit rfl
    exact he t (List.singleton_inj.mp hlast)
  · rw [List.concat_eq_append, ← List.cons_append, ← List.append_assoc] at hsplit
    exact h earlier t others (List.append_inj' hsplit rfl).1

namespace Ledger

/-- A ledger of a context before anything happened to it. -/
def fresh (cluster : String) (kind : Kind) (settings : Settings) (store : Store) : Ledger where
  context := { cluster, kind, settings }
  store := store

namespace Sound

variable {cluster : String} {kind : Kind} {stored : List Emission} {l : Ledger}

theorem fresh (cluster : String) (kind : Kind) (settings : Settings) (store : Store) :
    (fresh cluster kind settings store).Sound cluster kind store.emissions where
  sameCluster := rfl
  sameKind := rfl
  underWay := by
    intro o ho
    cases ho
  counter := rfl
  emissions := (List.append_nil _).symm
  ticks := by
    intro earlier t later hsplit
    exact absurd hsplit (by simp [Ledger.fresh])

/-- Only the counter, the stored alerts and the tick under way are of account. -/
theorem of_eq {l' : Ledger} (h : l.Sound cluster kind stored)
    (hcluster : l'.context.cluster = l.context.cluster)
    (hkind : l'.context.kind = l.context.kind)
    (hcounter : l'.context.counter = l.context.counter)
    (hstored : l'.store.emissions = l.store.emissions) (hunderWay : l'.underWay = l.underWay)
    (hentries : l'.entries = l.entries) : l'.Sound cluster kind stored where
  sameCluster := hcluster.trans h.sameCluster
  sameKind := hkind.trans h.sameKind
  underWay := hunderWay ▸ h.underWay
  counter := by rw [hcounter, hentries, h.counter]
  emissions := by rw [hstored, hentries, h.emissions]
  ticks := hentries ▸ h.ticks

/-- A tick that is over may be entered if it did what it had to do and left the right count. -/
theorem close (h : l.Sound cluster kind stored) {o : Opening} {deed : Deed} {after : Context}
    (hcluster : after.cluster = l.context.cluster) (hkind : after.kind = l.context.kind)
    (hproper : Tick.Proper cluster kind (problemsSince kind l.entries)
      ⟨o, l.context.settings, l.store.accepts, deed⟩)
    (hcounter : after.counter.toNat = capped (problemsSince kind
      (l.entries ++ [.tick ⟨o, l.context.settings, l.store.accepts, deed⟩]))) :
    (l.close o deed after).Sound cluster kind stored where
  sameCluster := hcluster.trans h.sameCluster
  sameKind := hkind.trans h.sameKind
  underWay := by
    intro other hother
    cases hother
  counter := hcounter
  emissions := by
    have hlast : [Entry.tick ⟨o, l.context.settings, l.store.accepts, deed⟩].filterMap
        Entry.emission = deed.emission.toList := by
      cases hdeed : deed.emission <;> simp [Entry.emission, hdeed]
    rw [Ledger.close, deed.emissions_store, h.emissions, List.filterMap_append, hlast,
      List.append_assoc]
  ticks := by
    apply forall_tick_concat h.ticks
    rintro t ⟨⟩
    exact hproper

/-- A tick of a disabled kind is over at once and changes nothing. -/
theorem close_idle (h : l.Sound cluster kind stored) (env : Environment) (sight : Sight)
    (moment : Nat) (hdisabled : ¬l.context.settings.enabled) :
    (l.close ⟨env, sight, moment, l.context.settings⟩ (.idle l.context moment)
      l.context).Sound cluster kind stored := by
  have hproblem : Opening.problem ⟨env, sight, moment, l.context.settings⟩ kind = none :=
    if_neg hdisabled
  apply h.close rfl rfl
  · constructor <;> simp [Deed.idle, Tick.ReachesStore, hproblem, hdisabled]
  · rw [problemsSince_concat]
    simpa [Entry.isEmission, Entry.isProblem, Deed.idle, hproblem] using h.counter

/-- A tick whose evaluation is over concludes with the settings and the store as they are. -/
theorem close_evaluation (h : l.Sound cluster kind stored) {o : Opening}
    (ho : l.underWay = some o) {finding : Except Fault (Option String)}
    (hfinding : (o.evaluation l.context.kind).finding.returned? = some finding) :
    (l.close o (.ofEvaluation o.env l.context l.store.accepts o.moment
        (o.evaluation l.context.kind) finding)
      (l.context.conclude l.store.accepts finding).2.2).Sound cluster kind stored := by
  have hconcludes := l.context.concludes l.store.accepts finding
  have hcounter := h.sameKind ▸ h.counter
  apply h.close hconcludes.same.1 hconcludes.same.2.1
  · rw [← h.sameCluster, ← h.sameKind]
    exact Tick.proper_of_concludes (h.underWay o ho) hcounter rfl hfinding hconcludes rfl rfl rfl
  · rw [← h.sameKind]
    exact counter_of_concludes (h.underWay o ho) hcounter hfinding hconcludes rfl

/-- Every event keeps a ledger sound. -/
theorem step (h : l.Sound cluster kind stored) (e : Event) :
    (l.step e).Sound cluster kind stored := by
  cases e with
  | begin env sight moment =>
    cases hunderWay : l.underWay with
    | some o => simpa [Ledger.step, hunderWay] using h
    | none =>
      by_cases henabled : l.context.settings.enabled
      · rw [step_begin_of_enabled hunderWay henabled]
        refine ⟨h.sameCluster, h.sameKind, ?_, h.counter, h.emissions, h.ticks⟩
        rintro o ⟨⟩
        exact henabled
      · rw [step_begin_of_disabled hunderWay henabled]
        exact h.close_idle env sight moment henabled
  | settle =>
    cases hunderWay : l.underWay with
    | none => rwa [step_settle_of_idle hunderWay]
    | some o =>
      cases hfinding : (o.evaluation l.context.kind).finding.returned? with
      | none =>
        rw [step_settle_of_panic hunderWay hfinding]
        refine ⟨h.sameCluster, h.sameKind, ?_, h.counter, h.emissions, h.ticks⟩
        rintro o' ⟨⟩
      | some finding =>
        rw [step_settle hunderWay hfinding]
        exact h.close_evaluation hunderWay hfinding
  | apply settings => exact h.of_eq rfl rfl rfl rfl rfl rfl
  | reload defaults =>
    unfold Ledger.step
    cases l.store.load l.context.cluster with
    | error f => exact h
    | ok records => exact h.of_eq rfl rfl rfl rfl rfl rfl
  | turn state handle periods => exact h.of_eq rfl rfl rfl rfl rfl rfl
  | put cluster record => exact h.of_eq rfl rfl rfl rfl rfl rfl
  | remove cluster kind => exact h.of_eq rfl rfl rfl rfl rfl rfl
  | failLoads fails => exact h.of_eq rfl rfl rfl rfl rfl rfl
  | failEmissions fails => exact h.of_eq rfl rfl rfl rfl rfl rfl
  | emit e =>
    unfold Ledger.step Store.emit
    cases l.store.accepts with
    | false => exact h
    | true =>
      change Ledger.Sound cluster kind stored
        { l with store := l.store.add e, entries := l.entries ++ [.other e] }
      refine ⟨h.sameCluster, h.sameKind, h.underWay, ?_, ?_, ?_⟩
      · rw [h.counter, problemsSince_concat]
        rfl
      · change l.store.emissions ++ [e] = stored ++ (l.entries ++ [Entry.other e]).filterMap _
        rw [h.emissions, List.filterMap_append, List.append_assoc]
        rfl
      · apply forall_tick_concat h.ticks
        rintro t ⟨⟩

/-- So does every course of events. -/
theorem after (h : l.Sound cluster kind stored) (events : List Event) :
    (l.after events).Sound cluster kind stored := by
  induction events generalizing l with
  | nil => exact h
  | cons e rest ih => exact ih (h.step e)

end Sound

/-! ### What an event enters -/

/-- How a ledger goes on with an event: which settings are in force and whether the store accepts
alerts, which tick is under way, and which tick is entered. -/
structure Heeds (l : Ledger) (event : Event) (later : Ledger) : Prop where
  settings : later.context.settings =
    match event with
    | .apply settings => settings
    | .reload defaults =>
      match l.store.load l.context.cluster with
      | .ok stored => .inForce defaults stored l.context.kind
      | .error _ => l.context.settings
    | _ => l.context.settings
  accepts : later.store.accepts =
    match event with
    | .failEmissions fails => !fails
    | _ => l.store.accepts
  /-- A tick that begins with its kind enabled is under way, with the settings in force. -/
  begins : ∀ env sight moment, event = .begin env sight moment → l.underWay = none →
    l.context.settings.enabled → later.entries = l.entries ∧
      later.underWay = some ⟨env, sight, moment, l.context.settings⟩
  /-- A tick that begins with its kind disabled is entered at once. -/
  skips : ∀ env sight moment, event = .begin env sight moment → l.underWay = none →
    ¬l.context.settings.enabled → later.underWay = none ∧ ∃ deed,
      later.entries = l.entries ++
        [.tick ⟨⟨env, sight, moment, l.context.settings⟩, l.context.settings, l.store.accepts,
          deed⟩]
  /-- A tick whose evaluation is over is entered, with the settings in force by then. -/
  settles : ∀ o, event = .settle → l.underWay = some o →
    (o.evaluation l.context.kind).finding ≠ .panic → later.underWay = none ∧ ∃ deed,
      later.entries = l.entries ++
        [.tick ⟨o, l.context.settings, l.store.accepts, deed⟩]
  /-- A tick whose evaluation panicked is given up. -/
  givesUp : ∀ o, event = .settle → l.underWay = some o →
    (o.evaluation l.context.kind).finding = .panic →
      later.entries = l.entries ∧ later.underWay = none
  /-- Nothing else has to do with ticks. -/
  elsewise : (∀ env sight moment, event = .begin env sight moment → l.underWay.isSome) →
    (event = .settle → l.underWay = none) → later.underWay = l.underWay ∧
      (later.entries = l.entries ∨ ∃ e, later.entries = l.entries ++ [.other e])

/-- An event leaves at most one entry. -/
theorem Heeds.entries {l later : Ledger} {event : Event} (h : l.Heeds event later) :
    later.entries = l.entries ∨ ∃ entry, later.entries = l.entries ++ [entry] := by
  by_cases hsettles : event = .settle
  · cases hunderWay : l.underWay with
    | none =>
      rcases (h.elsewise (by simp [hsettles]) fun _ => hunderWay).2 with hsame | ⟨e, hentry⟩
      · exact .inl hsame
      · exact .inr ⟨_, hentry⟩
    | some o =>
      by_cases hpanic : (o.evaluation l.context.kind).finding = .panic
      · exact .inl (h.givesUp o hsettles hunderWay hpanic).1
      · obtain ⟨-, deed, hentry⟩ := h.settles o hsettles hunderWay hpanic
        exact .inr ⟨_, hentry⟩
  · by_cases hbegins : ∃ env sight moment, event = .begin env sight moment ∧ l.underWay = none
    · obtain ⟨env, sight, moment, hevent, hunderWay⟩ := hbegins
      by_cases henabled : l.context.settings.enabled
      · exact .inl (h.begins env sight moment hevent hunderWay henabled).1
      · obtain ⟨-, deed, hentry⟩ := h.skips env sight moment hevent hunderWay henabled
        exact .inr ⟨_, hentry⟩
    · have hbusy : ∀ env sight moment, event = .begin env sight moment → l.underWay.isSome :=
        fun env sight moment hevent => Option.isSome_iff_ne_none.mpr fun hnone =>
          hbegins ⟨env, sight, moment, hevent, hnone⟩
      rcases (h.elsewise hbusy fun hevent => absurd hevent hsettles).2 with hsame | ⟨e, hentry⟩
      · exact .inl hsame
      · exact .inr ⟨_, hentry⟩

/-- How a ledger goes on with the beginning of a tick. -/
theorem heeds_begin (l : Ledger) (env : Environment) (sight : Sight) (moment : Nat) :
    l.Heeds (.begin env sight moment) (l.step (.begin env sight moment)) := by
  cases hunderWay : l.underWay with
  | some o =>
    have hsame : l.step (.begin env sight moment) = l := by simp [step, hunderWay]
    rw [hsame]
    constructor <;> simp [hunderWay]
  | none =>
    by_cases henabled : l.context.settings.enabled
    · rw [step_begin_of_enabled hunderWay henabled]
      constructor <;> simp [hunderWay, henabled]
    · rw [step_begin_of_disabled hunderWay henabled]
      constructor <;> simp [hunderWay, henabled, close, Deed.idle, Deed.store]

/-- How a ledger goes on with the end of a tick. -/
theorem heeds_settle (l : Ledger) : l.Heeds .settle (l.step .settle) := by
  cases hunderWay : l.underWay with
  | none =>
    rw [step_settle_of_idle hunderWay]
    constructor <;> simp [hunderWay]
  | some o =>
    cases hfinding : (o.evaluation l.context.kind).finding.returned? with
    | none =>
      have hpanic := Outcome.returned?_eq_none_iff.mp hfinding
      rw [step_settle_of_panic hunderWay hfinding]
      constructor <;> simp [hunderWay, hpanic]
    | some finding =>
      have hreturned : (o.evaluation l.context.kind).finding ≠ .panic := by
        rw [Outcome.returned?_eq_some_iff.mp hfinding]
        cases finding <;> simp
      rw [step_settle hunderWay hfinding]
      constructor <;>
        simp [hunderWay, hreturned, close, (l.context.concludes l.store.accepts finding).same]

/-- Every ledger goes on with every event as it has to. -/
theorem heeds_step (l : Ledger) (event : Event) : l.Heeds event (l.step event) := by
  cases event with
  | begin env sight moment => exact l.heeds_begin env sight moment
  | settle => exact l.heeds_settle
  | reload defaults =>
    unfold step
    cases hload : l.store.load l.context.cluster with
    | error f => constructor <;> simp [hload]
    | ok stored => constructor <;> simp [hload, Context.apply]
  | emit e =>
    unfold step Store.emit
    cases haccepts : l.store.accepts with
    | false => constructor <;> simp [haccepts]
    | true =>
      refine ⟨rfl, rfl, ?_, ?_, ?_, ?_, fun _ _ => ⟨rfl, .inr ⟨e, rfl⟩⟩⟩ <;> simp
  | put cluster record => constructor <;> simp [step, Store.put, Store.withRecords, Store.accepts]
  | remove cluster kind =>
    constructor <;> simp [step, Store.remove, Store.withRecords, Store.accepts]
  | failLoads fails => constructor <;> simp [step, Store.accepts]
  | failEmissions fails => constructor <;> simp [step, Store.accepts]
  | apply settings => constructor <;> simp [step, Context.apply]
  | turn state handle periods => constructor <;> simp [step]

/-- Only a tick that finds a problem changes the counter. -/
theorem Sound.exists_problem_of_counter_ne {cluster : String} {kind : Kind}
    {stored : List Emission} {l : Ledger} (h : l.Sound cluster kind stored) {e : Event}
    (hne : (l.step e).context.counter ≠ l.context.counter) :
    ∃ t, (l.step e).entries = l.entries ++ [.tick t] ∧ (t.opening.problem kind).isSome := by
  have hafter := h.step e
  have hcounts : problemsSince kind (l.step e).entries ≠ problemsSince kind l.entries := by
    intro hsame
    apply hne
    rw [← UInt32.toNat_inj, hafter.counter, h.counter, hsame]
  rcases (l.heeds_step e).entries with hsame | ⟨entry, hentry⟩
  · exact absurd (by rw [hsame]) hcounts
  · rw [hentry, problemsSince_concat] at hcounts
    cases entry with
    | other other => exact absurd rfl hcounts
    | tick t =>
      refine ⟨t, hentry, ?_⟩
      by_contra hproblem
      have hproper := hafter.ticks l.entries t [] hentry
      have hemitted : t.deed.outcome ≠ .emitted := fun hemitted =>
        hproblem (hproper.reachesStore.mp (hproper.emitted.mp hemitted).1).1
      exact hcounts (by simp [Entry.isEmission, Entry.isProblem, hemitted, hproblem])

/-! ### What a tick enters -/

/-- Until it is settled, a tick stays under way, and no tick is entered. -/
theorem underWay_after {l : Ledger} {o : Opening} (ho : l.underWay = some o)
    {between : List Event} (hbetween : .settle ∉ between) :
    (l.after between).underWay = some o ∧
      ∃ others : List Emission, (l.after between).entries = l.entries ++ others.map .other := by
  induction between generalizing l with
  | nil => exact ⟨ho, [], (List.append_nil _).symm⟩
  | cons event rest ih =>
    rw [List.mem_cons, not_or] at hbetween
    obtain ⟨hunderWay, hentries⟩ := (l.heeds_step event).elsewise
      (fun _ _ _ _ => Option.isSome_iff_exists.mpr ⟨o, ho⟩) fun h => absurd h.symm hbetween.1
    obtain ⟨hlater, others, hothers⟩ := ih (hunderWay.trans ho) hbetween.2
    refine ⟨hlater, ?_⟩
    change ∃ others : List Emission,
      ((l.step event).after rest).entries = l.entries ++ others.map .other
    rcases hentries with hsame | ⟨e, hentry⟩
    · exact ⟨others, by rw [hothers, hsame]⟩
    · exact ⟨e :: others, by rw [hothers, hentry, List.map_cons, List.append_assoc]; rfl⟩

/-- A tick that was begun is entered when it is settled, unless its evaluation panics, with the
settings that were in force when it began and those that are by then. -/
theorem entries_settle_after {l : Ledger} (hidle : l.underWay = none)
    (henabled : l.context.settings.enabled) (env : Environment) (sight : Sight) (moment : Nat)
    {between : List Event} (hbetween : .settle ∉ between) :
    let o : Opening := ⟨env, sight, moment, l.context.settings⟩
    let closing := l.after (.begin env sight moment :: between)
    (∃ others : List Emission, closing.entries = l.entries ++ others.map .other) ∧
      ((o.evaluation closing.context.kind).finding ≠ .panic → ∃ deed,
        (closing.step .settle).entries = closing.entries ++
          [.tick ⟨o, closing.context.settings, closing.store.accepts, deed⟩]) := by
  intro o closing
  obtain ⟨hentries, hbegun⟩ :=
    (l.heeds_step (.begin env sight moment)).begins env sight moment rfl hidle henabled
  obtain ⟨hunderWay, others, hothers⟩ := underWay_after hbegun hbetween
  exact ⟨⟨others, hentries ▸ hothers⟩, fun hreturns =>
    ((closing.heeds_step .settle).settles o rfl hunderWay hreturns).2⟩

end Ledger

end CopysetWatch.Alert
