import CopysetWatch.Proofs.Alert.Loops
import CopysetWatch.Proofs.Alert.Watch
import CopysetWatch.Proofs.Check.Snapshot
import CopysetWatch.Proofs.Metrics
import Mathlib.Logic.Function.Basic

/-!
# Journal of a monitor

Health checks end and alert contexts tick in any number and in any order, on one store and one set
of metrics, while the contexts are changed, the store fails and recovers, and others use it. A tick
publishes its health check when its evaluation is over and everything else when it concludes, so
whatever else happens comes before, between or after the two. The journal keeps the checks and the
ticks that are over; the metrics can be read off it, whatever happened and in whatever order. A
panic publishes nothing: neither the health check nor the tick that it ends is ever over.
-/

namespace CopysetWatch.Alert

/-- Whether an alert is about a kind and a cluster. -/
def Emission.isAbout (cluster : String) (kind : Kind) (e : Emission) : Bool :=
  e.cluster == cluster && e.kind == kind

/-- The alert of a deed is the one that its outcome tells of. -/
structure Deed.Consistent (d : Deed) : Prop where
  isSome : d.emission.isSome ↔ d.outcome = .emitted
  isAbout : ∀ e ∈ d.emission, e.cluster = d.cluster ∧ e.kind = d.kind

theorem Deed.consistent_idle (c : Context) (moment : Nat) : (Deed.idle c moment).Consistent where
  isSome := by simp [Deed.idle]
  isAbout := by simp [Deed.idle]

theorem Deed.consistent_ofEvaluation (env : Environment) (c : Context) (accepts : Bool)
    (began : Nat) (e : Evaluation) (finding : Except Fault (Option String)) :
    (Deed.ofEvaluation env c accepts began e finding).Consistent := by
  have hconcludes := c.concludes accepts finding
  unfold ofEvaluation
  generalize c.conclude accepts finding = result at hconcludes ⊢
  cases hconcludes <;> constructor <;> simp_all [Emission.of]

/-- The outcome of a deed counts under one series at most. -/
theorem Deed.counted_recordOutcome (d : Deed) (m : Metrics) (s : Series) :
    (d.recordOutcome m).counted s = m.counted s +
      if (d.outcome = .inconclusive ∧ .evaluationsFailed d.cluster d.kind = s) ∨
        (d.outcome = .emitted ∧ .alertsEmitted d.cluster d.kind = s) then 1 else 0 := by
  unfold recordOutcome
  cases d.outcome <;> simp [Metrics.counted_count]

theorem Deed.get?_recordOutcome (d : Deed) (m : Metrics) (g : Gauge) (cluster : String) :
    (d.recordOutcome m).get? (g.series cluster) = m.get? (g.series cluster) := by
  unfold recordOutcome
  split
  · exact m.get?_count_of_ne (by cases g <;> simp [Gauge.series])
  · exact m.get?_count_of_ne (by cases g <;> simp [Gauge.series])
  · rfl

/-- Only an evaluation of the cluster's health makes a health check. -/
theorem Kind.check_evaluate {env : Environment} {sight : Sight} {kind : Kind} {rule : String}
    {start : Nat} {outcome : Except Fault Registry}
    (h : (kind.evaluate env sight rule start).check = some outcome) :
    ((Check.inspect env.check sight.gateway).run start).1.returned? = some outcome := by
  cases kind with
  | clusterHealth => exact h
  | clusterCapacity | leader _ | offline _ => cases h

namespace Journal

/-! ### Entries -/

/-- What is kept in a journal. -/
inductive Entry where
  /-- A health check of a cluster was over. -/
  | check (cluster : String) (outcome : Except Fault Registry)
  /-- A tick was over. -/
  | tick (d : Deed)
  /-- Somebody else's alert was stored. -/
  | other (e : Emission)

namespace Entry

/-- The report of a health check of a cluster that succeeded. -/
def report? (cluster : String) : Entry → Option Registry
  | check c (.ok r) => if c = cluster then some r else none
  | _ => none

/-- Whether a health check of a cluster failed. -/
def isFailure (cluster : String) : Entry → Bool
  | check c (.error _) => c == cluster
  | _ => false

/-- The alert that a tick put into the store. -/
def emitted : Entry → Option Emission
  | tick d => d.emission
  | _ => none

/-- The alert that was stored, no matter by whom. -/
def stored : Entry → Option Emission
  | check .. => none
  | tick d => d.emission
  | other e => some e

/-- Whether a tick of a kind did not decide. -/
def isUndecided (cluster : String) (kind : Kind) : Entry → Bool
  | tick d => d.cluster == cluster && d.kind == kind && d.outcome == .inconclusive
  | _ => false

/-- What an entry has to do with what really happened: a check was made and returned, and a tick's
alert is the one that its outcome tells of. -/
def IsProper : Entry → Prop
  | check _ outcome => ∃ settings gateway start,
      ((Check.inspect settings gateway).run start).1.returned? = some outcome
  | tick d => d.Consistent
  | other _ => True

/-- Publishes what an entry is counted for; a tick's check has an entry of its own. -/
def publish (m : Metrics) : Entry → Metrics
  | check cluster outcome => m.recordCheck cluster outcome
  | tick d => d.recordOutcome m
  | other _ => m

/-- Stores the alert of an entry. -/
def keep (s : Store) : Entry → Store
  | check .. => s
  | tick d => d.store s
  | other e => s.add e

theorem eq_of_report?_eq_some {e : Entry} {cluster : String} {r : Registry}
    (h : e.report? cluster = some r) : e = check cluster (.ok r) := by
  unfold report? at h
  split at h
  case h_1 c r' =>
    split at h
    case isTrue hc =>
      obtain rfl := Option.some.inj h
      rw [hc]
    case isFalse => cases h
  case h_2 => cases h

/-- A gauge shows the last report. -/
theorem get?_publish (e : Entry) (m : Metrics) (g : Gauge) (cluster : String) :
    (e.publish m).get? (g.series cluster) =
      ((e.report? cluster).map g.value).or (m.get? (g.series cluster)) := by
  cases e with
  | check c outcome =>
    cases outcome with
    | ok r =>
      rw [publish, Metrics.get?_recordCheck_ok, report?]
      split <;> rfl
    | error f => exact m.get?_recordCheck_error c cluster f g
  | tick d => exact d.get?_recordOutcome m g cluster
  | other e => rfl

theorem counted_checksFailed_publish (e : Entry) (m : Metrics) (cluster : String) :
    (e.publish m).counted (.checksFailed cluster) =
      m.counted (.checksFailed cluster) + if e.isFailure cluster then 1 else 0 := by
  cases e with
  | check c outcome =>
    rw [publish, m.counted_recordCheck c outcome (by rintro ⟨⟩ <;> simp [Gauge.series])]
    cases outcome with
    | ok r => simp [isFailure, Except.toOption]
    | error f => simp [isFailure, Except.toOption]
  | tick d => simp [publish, d.counted_recordOutcome, isFailure]
  | other e => rfl

theorem counted_alertsEmitted_publish {e : Entry} (h : e.IsProper) (m : Metrics) (cluster : String)
    (kind : Kind) :
    (e.publish m).counted (.alertsEmitted cluster kind) =
      m.counted (.alertsEmitted cluster kind) +
        e.emitted.toList.countP (Emission.isAbout cluster kind) := by
  cases e with
  | check c outcome =>
    rw [publish, m.counted_recordCheck c outcome (by rintro ⟨⟩ <;> simp [Gauge.series])]
    simp [emitted]
  | tick d =>
    -- the counter goes by the outcome and the store by the alert; a proper tick has both or none
    rw [publish, d.counted_recordOutcome]
    cases hemission : d.emission with
    | none =>
      have houtcome : d.outcome ≠ .emitted := by simp [← h.isSome, hemission]
      simp [emitted, hemission, houtcome]
    | some a =>
      have houtcome : d.outcome = .emitted := h.isSome.mp (by simp [hemission])
      obtain ⟨hcluster, hkind⟩ := h.isAbout a hemission
      simp [emitted, hemission, houtcome, Emission.isAbout, hcluster, hkind]
  | other e => rfl

theorem counted_evaluationsFailed_publish (e : Entry) (m : Metrics) (cluster : String)
    (kind : Kind) :
    (e.publish m).counted (.evaluationsFailed cluster kind) =
      m.counted (.evaluationsFailed cluster kind) +
        if e.isUndecided cluster kind then 1 else 0 := by
  cases e with
  | check c outcome =>
    rw [publish, m.counted_recordCheck c outcome (by rintro ⟨⟩ <;> simp [Gauge.series])]
    simp [isUndecided]
  | tick d =>
    rw [publish, d.counted_recordOutcome]
    simp [isUndecided, and_comm]
  | other e => rfl

theorem emissions_keep (e : Entry) (s : Store) :
    (e.keep s).emissions = s.emissions ++ e.stored.toList := by
  cases e with
  | check c outcome => exact (List.append_nil _).symm
  | tick d => exact d.emissions_store s
  | other e => rfl

end Entry

/-! ### The metrics that belong to some entries -/

/-- The last report of a health check of a cluster that succeeded. -/
def lastReport (cluster : String) (entries : List Entry) : Option Registry :=
  (entries.filterMap (Entry.report? cluster)).getLast?

/-- The metrics are those of some entries: the gauges show the last reports, and the counters how
many health checks failed, how many alerts the ticks put into the store, and how many of them did
not decide. -/
structure Shows (m : Metrics) (entries : List Entry) : Prop where
  gauge : ∀ (g : Gauge) (cluster : String),
    m.get? (g.series cluster) = (lastReport cluster entries).map g.value
  checksFailed : ∀ cluster, m.counted (.checksFailed cluster) =
    entries.countP (Entry.isFailure cluster)
  alertsEmitted : ∀ cluster kind, m.counted (.alertsEmitted cluster kind) =
    (entries.filterMap Entry.emitted).countP (Emission.isAbout cluster kind)
  evaluationsFailed : ∀ cluster kind, m.counted (.evaluationsFailed cluster kind) =
    entries.countP (Entry.isUndecided cluster kind)

theorem shows_nil : Shows {} [] where
  gauge _ _ := rfl
  checksFailed _ := rfl
  alertsEmitted _ _ := rfl
  evaluationsFailed _ _ := rfl

theorem lastReport_concat (cluster : String) (entries : List Entry) (e : Entry) :
    lastReport cluster (entries ++ [e]) = (e.report? cluster).or (lastReport cluster entries) := by
  unfold lastReport
  rw [List.filterMap_append]
  cases hreport : e.report? cluster <;> simp [hreport]

/-- Publishing one more entry keeps the metrics those of the entries. -/
theorem Shows.publish {m : Metrics} {entries : List Entry} (h : Shows m entries) {e : Entry}
    (he : e.IsProper) : Shows (e.publish m) (entries ++ [e]) where
  gauge g cluster := by
    rw [e.get?_publish, h.gauge, lastReport_concat]
    cases e.report? cluster <;> rfl
  checksFailed cluster := by
    rw [e.counted_checksFailed_publish, h.checksFailed, List.countP_append, List.countP_singleton]
  alertsEmitted cluster kind := by
    have hlast : [e].filterMap Entry.emitted = e.emitted.toList := by
      cases hemitted : e.emitted <;> simp [hemitted]
    rw [Entry.counted_alertsEmitted_publish he, h.alertsEmitted, List.filterMap_append, hlast,
      List.countP_append]
  evaluationsFailed cluster kind := by
    rw [e.counted_evaluationsFailed_publish, h.evaluationsFailed, List.countP_append,
      List.countP_singleton]

/-- A tick that is under way. -/
structure UnderWay (ι : Type) where
  context : ι
  opening : Opening
  /-- What its evaluation came to, once it is over and its health check published. -/
  finding : Option (Except Fault (Option String)) := none

/-- What can happen. -/
inductive Event (ι τ : Type) where
  /-- A health check that began at a moment is over. -/
  | check (cluster : String) (settings : CheckSettings) (gateway : Nat → Gateway) (start : Nat)
  /-- A tick of a context begins, unless it is under way. -/
  | begin (t : τ) (i : ι) (env : Environment) (sight : Sight) (moment : Nat)
  /-- The evaluation of a tick is over, or has panicked. -/
  | report (t : τ)
  /-- A tick whose evaluation is over concludes. -/
  | conclude (t : τ)
  /-- A context is changed from outside, but for its cluster and its kind. -/
  | edit (i : ι) (change : Context → Context)
  | call (c : StoreCall)
  /-- Somebody else emits an alert. -/
  | emit (e : Emission)

end Journal

/-- Alert contexts with the store and the metrics that they work on, the ticks under way, and an
entry for everything that is over. -/
structure Journal (ι τ : Type) where
  contexts : ι → Context
  ticks : τ → Option (Journal.UnderWay ι) := fun _ => none
  store : Store
  metrics : Metrics := {}
  entries : List Journal.Entry := []

namespace Journal

variable {ι τ : Type}

/-- The journal with one more entry, which is published and stored. -/
def enter (j : Journal ι τ) (e : Entry) : Journal ι τ :=
  { j with store := e.keep j.store, metrics := e.publish j.metrics, entries := j.entries ++ [e] }

/-- The evaluation of a tick that is under way. -/
def evaluation (j : Journal ι τ) (u : UnderWay ι) : Evaluation :=
  u.opening.evaluation (j.contexts u.context).kind

/-- What a tick that is under way does if it concludes now, by what its evaluation came to. -/
def deed (j : Journal ι τ) (u : UnderWay ι) (finding : Except Fault (Option String)) : Deed :=
  .ofEvaluation u.opening.env (j.contexts u.context) j.store.accepts u.opening.moment
    (j.evaluation u) finding

/-- The journal before anything happened. -/
def fresh (contexts : ι → Context) (store : Store) : Journal ι τ where
  contexts := contexts
  store := store

/-! ### What can come of an event -/

/-- Nothing is entered, or one thing that really happened, which is published and stored. -/
inductive Goes (j next : Journal ι τ) : Prop where
  | still (metrics : next.metrics = j.metrics)
      (emissions : next.store.emissions = j.store.emissions) (entries : next.entries = j.entries)
  | entered (e : Entry) (proper : e.IsProper) (metrics : next.metrics = e.publish j.metrics)
      (emissions : next.store.emissions = j.store.emissions ++ e.stored.toList)
      (entries : next.entries = j.entries ++ [e])

/-- Contexts and ticks under way may change beside an entry. -/
theorem goes_enter {j changed : Journal ι τ} {e : Entry} (he : e.IsProper)
    (hstore : changed.store = j.store) (hmetrics : changed.metrics = j.metrics)
    (hentries : changed.entries = j.entries) : j.Goes (changed.enter e) :=
  .entered e he (congrArg e.publish hmetrics) (hstore ▸ e.emissions_keep changed.store)
    (congrArg (· ++ [e]) hentries)

/-- Only a health check that succeeds moves a gauge, and only one of its own cluster. -/
theorem Goes.exists_report {j next : Journal ι τ} (h : j.Goes next) {g : Gauge} {cluster : String}
    (hne : next.metrics.get? (g.series cluster) ≠ j.metrics.get? (g.series cluster)) :
    ∃ r, next.entries = j.entries ++ [.check cluster (.ok r)] := by
  cases h with
  | still hmetrics => exact absurd (by rw [hmetrics]) hne
  | entered e he hmetrics hemissions hentries =>
    rw [hmetrics, e.get?_publish] at hne
    cases hreport : e.report? cluster with
    | none => exact absurd (by rw [hreport]; rfl) hne
    | some r =>
      obtain rfl := Entry.eq_of_report?_eq_some hreport
      exact ⟨r, hentries⟩

/-- The metrics are those of the entries, the stored alerts are those that were there and those of
the entries, and the entries are what really happened. -/
structure Sound (stored : List Emission) (j : Journal ι τ) : Prop where
  shows : Shows j.metrics j.entries
  emissions : j.store.emissions = stored ++ j.entries.filterMap Entry.stored
  proper : ∀ e ∈ j.entries, e.IsProper

theorem sound_fresh (contexts : ι → Context) (store : Store) :
    (fresh contexts store : Journal ι τ).Sound store.emissions where
  shows := shows_nil
  emissions := (List.append_nil _).symm
  proper _ he := absurd he List.not_mem_nil

theorem Sound.goes {stored : List Emission} {j next : Journal ι τ} (h : j.Sound stored)
    (hgoes : j.Goes next) : next.Sound stored := by
  cases hgoes with
  | still hmetrics hemissions hentries =>
    exact ⟨hmetrics ▸ hentries ▸ h.shows, by rw [hemissions, hentries, h.emissions],
      hentries ▸ h.proper⟩
  | entered e he hmetrics hemissions hentries =>
    have hlast : [e].filterMap Entry.stored = e.stored.toList := by
      cases hstored : e.stored <;> simp [hstored]
    refine ⟨hmetrics ▸ hentries ▸ h.shows.publish he, ?_, ?_⟩
    · rw [hemissions, hentries, h.emissions, List.filterMap_append, hlast, List.append_assoc]
    · rw [hentries, List.forall_mem_append, List.forall_mem_singleton]
      exact ⟨h.proper, he⟩

/-! ### What an event does -/

variable [DecidableEq τ]

/-- The journal with another tick under way, or with this one over. -/
def setTick (j : Journal ι τ) (t : τ) (u : Option (UnderWay ι)) : Journal ι τ :=
  { j with ticks := Function.update j.ticks t u }

/-- Begins a tick of a context, unless this tick is under way. -/
def beginTick (j : Journal ι τ) (t : τ) (i : ι) (env : Environment) (sight : Sight)
    (moment : Nat) : Journal ι τ :=
  match j.ticks t with
  | some _ => j
  | none =>
    let settings := (j.contexts i).settings
    if settings.enabled then
      j.setTick t (some { context := i, opening := { env, sight, moment, settings } })
    else j.enter (.tick (.idle (j.contexts i) moment))

theorem goes_beginTick (j : Journal ι τ) (t : τ) (i : ι) (env : Environment) (sight : Sight)
    (moment : Nat) : j.Goes (j.beginTick t i env sight moment) := by
  have hidle : (Entry.tick (.idle (j.contexts i) moment)).IsProper := Deed.consistent_idle ..
  unfold beginTick
  cases j.ticks t with
  | some u => exact .still rfl rfl rfl
  | none =>
    dsimp only
    split
    · exact .still rfl rfl rfl
    · exact goes_enter hidle rfl rfl rfl

/-- Ends the evaluation of a tick, and publishes the health check that was made for it, if there is
one. After a panic, the tick is no more. -/
def reportTick (j : Journal ι τ) (t : τ) : Journal ι τ :=
  match j.ticks t with
  | none => j
  | some u =>
    match u.finding with
    | some _ => j
    | none =>
      match (j.evaluation u).finding.returned? with
      | none => j.setTick t none
      | some finding =>
        let told := j.setTick t (some { u with finding := some finding })
        match (j.evaluation u).check with
        | some outcome => told.enter (.check u.opening.env.cluster outcome)
        | none => told

theorem goes_reportTick (j : Journal ι τ) (t : τ) : j.Goes (j.reportTick t) := by
  unfold reportTick
  split
  case h_1 => exact .still rfl rfl rfl
  case h_2 u hu =>
    split
    case h_1 => exact .still rfl rfl rfl
    case h_2 =>
      split
      case h_1 => exact .still rfl rfl rfl
      case h_2 finding hfinding =>
        dsimp only
        split
        case h_1 outcome hcheck =>
          have hproper : (Entry.check u.opening.env.cluster outcome).IsProper :=
            ⟨_, _, _, Kind.check_evaluate hcheck⟩
          exact goes_enter hproper rfl rfl rfl
        case h_2 => exact .still rfl rfl rfl

variable [DecidableEq ι]

/-- The journal with another context. -/
def setContext (j : Journal ι τ) (i : ι) (c : Context) : Journal ι τ :=
  { j with contexts := Function.update j.contexts i c }

/-- Concludes a tick whose evaluation is over. -/
def concludeTick (j : Journal ι τ) (t : τ) : Journal ι τ :=
  match j.ticks t with
  | none => j
  | some u =>
    match u.finding with
    | none => j
    | some finding =>
      let concluded := ((j.contexts u.context).conclude j.store.accepts finding).2.2
      ((j.setTick t none).setContext u.context concluded).enter (.tick (j.deed u finding))

theorem goes_concludeTick (j : Journal ι τ) (t : τ) : j.Goes (j.concludeTick t) := by
  unfold concludeTick
  split
  case h_1 => exact .still rfl rfl rfl
  case h_2 u hu =>
    split
    case h_1 => exact .still rfl rfl rfl
    case h_2 finding hfinding =>
      have hproper : (Entry.tick (j.deed u finding)).IsProper := Deed.consistent_ofEvaluation ..
      exact goes_enter hproper rfl rfl rfl

/-- The journal after an event. -/
def step (j : Journal ι τ) : Event ι τ → Journal ι τ
  | .check cluster settings gateway start =>
    match ((Check.inspect settings gateway).run start).1.returned? with
    | some outcome => j.enter (.check cluster outcome)
    | none => j
  | .begin t i env sight moment => j.beginTick t i env sight moment
  | .report t => j.reportTick t
  | .conclude t => j.concludeTick t
  | .edit i change =>
    let c := j.contexts i
    j.setContext i { change c with cluster := c.cluster, kind := c.kind }
  | .call c => { j with store := c.apply j.store }
  | .emit e => if j.store.accepts then j.enter (.other e) else j

/-- The journal after some events. -/
def after (j : Journal ι τ) (events : List (Event ι τ)) : Journal ι τ :=
  events.foldl step j

theorem emissions_apply (c : StoreCall) (s : Store) : (c.apply s).emissions = s.emissions := by
  cases c <;> rfl

/-- Every event enters one thing that really happened, or nothing. -/
theorem goes_step (j : Journal ι τ) (e : Event ι τ) : j.Goes (j.step e) := by
  cases e with
  | check cluster settings gateway start =>
    rw [step]
    cases houtcome : ((Check.inspect settings gateway).run start).1.returned? with
    | none => exact .still rfl rfl rfl
    | some outcome =>
      have hproper : (Entry.check cluster outcome).IsProper := ⟨settings, gateway, start, houtcome⟩
      exact goes_enter hproper rfl rfl rfl
  | begin t i env sight moment => exact j.goes_beginTick t i env sight moment
  | report t => exact j.goes_reportTick t
  | conclude t => exact j.goes_concludeTick t
  | edit i change => exact .still rfl rfl rfl
  | call c => exact .still rfl (emissions_apply c j.store) rfl
  | emit e =>
    have hproper : (Entry.other e).IsProper := trivial
    dsimp only [step]
    split
    · exact goes_enter hproper rfl rfl rfl
    · exact .still rfl rfl rfl

theorem Sound.after {stored : List Emission} {j : Journal ι τ} (h : j.Sound stored)
    (events : List (Event ι τ)) : (j.after events).Sound stored := by
  induction events generalizing j with
  | nil => exact h
  | cons e rest ih => exact ih (h.goes (j.goes_step e))

/-! ### What has to come of an event -/

/-- What an event enters, and which ticks are under way after it. -/
inductive Enters (j : Journal ι τ) :
    Event ι τ → List Entry → (τ → Option (UnderWay ι)) → Prop where
  /-- A health check is entered if it returns. -/
  | check (cluster : String) (settings : CheckSettings) (gateway : Nat → Gateway) (start : Nat) :
      Enters j (.check cluster settings gateway start)
        (((Check.inspect settings gateway).run start).1.returned?.map (.check cluster)).toList
        j.ticks
  /-- A tick that begins with its kind enabled is under way, with the settings in force. -/
  | begins {t : τ} {i : ι} (env : Environment) (sight : Sight) (moment : Nat)
      (hidle : j.ticks t = none) (henabled : (j.contexts i).settings.enabled) :
      Enters j (.begin t i env sight moment) []
        (Function.update j.ticks t (some {
          context := i
          opening := ⟨env, sight, moment, (j.contexts i).settings⟩ }))
  /-- A tick that begins with its kind disabled is entered at once. -/
  | skips {t : τ} {i : ι} (env : Environment) (sight : Sight) (moment : Nat)
      (hidle : j.ticks t = none) (hdisabled : ¬(j.contexts i).settings.enabled) :
      Enters j (.begin t i env sight moment) [.tick (.idle (j.contexts i) moment)] j.ticks
  | begun {t : τ} {u : UnderWay ι} (i : ι) (env : Environment) (sight : Sight) (moment : Nat)
      (hu : j.ticks t = some u) : Enters j (.begin t i env sight moment) [] j.ticks
  /-- The health check of a tick is entered as soon as its evaluation is over. -/
  | reports {t : τ} {u : UnderWay ι} {finding : Except Fault (Option String)}
      (hu : j.ticks t = some u) (hopen : u.finding = none)
      (hfinding : (j.evaluation u).finding.returned? = some finding) :
      Enters j (.report t) ((j.evaluation u).check.map (.check u.opening.env.cluster)).toList
        (Function.update j.ticks t (some { u with finding := some finding }))
  /-- A tick whose evaluation panicked is given up. -/
  | givesUp {t : τ} {u : UnderWay ι} (hu : j.ticks t = some u) (hopen : u.finding = none)
      (hpanic : (j.evaluation u).finding = .panic) :
      Enters j (.report t) [] (Function.update j.ticks t none)
  | reported {t : τ} (hclosed : ∀ u, j.ticks t = some u → u.finding ≠ none) :
      Enters j (.report t) [] j.ticks
  /-- A tick is entered as it concludes. -/
  | concludes {t : τ} {u : UnderWay ι} {finding : Except Fault (Option String)}
      (hu : j.ticks t = some u) (hfinding : u.finding = some finding) :
      Enters j (.conclude t) [.tick (j.deed u finding)] (Function.update j.ticks t none)
  | unreported {t : τ} (hopen : ∀ u, j.ticks t = some u → u.finding = none) :
      Enters j (.conclude t) [] j.ticks
  | edit (i : ι) (change : Context → Context) : Enters j (.edit i change) [] j.ticks
  | call (c : StoreCall) : Enters j (.call c) [] j.ticks
  /-- An alert of somebody else is entered if the store accepts it. -/
  | emit (e : Emission) :
      Enters j (.emit e) (if j.store.accepts then [.other e] else []) j.ticks

omit [DecidableEq ι] in
theorem enters_begin (j : Journal ι τ) (t : τ) (i : ι) (env : Environment) (sight : Sight)
    (moment : Nat) : ∃ entered, (j.beginTick t i env sight moment).entries = j.entries ++ entered ∧
      j.Enters (.begin t i env sight moment) entered (j.beginTick t i env sight moment).ticks := by
  unfold beginTick
  split
  case h_1 u hu => exact ⟨[], (List.append_nil _).symm, .begun i env sight moment hu⟩
  case h_2 hidle =>
    dsimp only
    split
    case isTrue henabled =>
      exact ⟨[], (List.append_nil _).symm, .begins env sight moment hidle henabled⟩
    case isFalse hdisabled => exact ⟨_, rfl, .skips env sight moment hidle hdisabled⟩

omit [DecidableEq ι] in
theorem enters_report (j : Journal ι τ) (t : τ) :
    ∃ entered, (j.reportTick t).entries = j.entries ++ entered ∧
      j.Enters (.report t) entered (j.reportTick t).ticks := by
  unfold reportTick
  split
  case h_1 hidle => exact ⟨[], (List.append_nil _).symm, .reported (by simp [hidle])⟩
  case h_2 u hu =>
    split
    case h_1 finding hclosed =>
      exact ⟨[], (List.append_nil _).symm, .reported (by simp [hu, hclosed])⟩
    case h_2 hopen =>
      split
      case h_1 hpanic =>
        exact ⟨[], (List.append_nil _).symm,
          .givesUp hu hopen (Outcome.returned?_eq_none_iff.mp hpanic)⟩
      case h_2 finding hfinding =>
        have hreports := Enters.reports hu hopen hfinding
        cases hcheck : (j.evaluation u).check with
        | none =>
          rw [hcheck] at hreports
          exact ⟨[], (List.append_nil _).symm, hreports⟩
        | some outcome =>
          rw [hcheck] at hreports
          exact ⟨_, rfl, hreports⟩

theorem enters_conclude (j : Journal ι τ) (t : τ) :
    ∃ entered, (j.concludeTick t).entries = j.entries ++ entered ∧
      j.Enters (.conclude t) entered (j.concludeTick t).ticks := by
  unfold concludeTick
  split
  case h_1 hidle => exact ⟨[], (List.append_nil _).symm, .unreported (by simp [hidle])⟩
  case h_2 u hu =>
    split
    case h_1 hopen => exact ⟨[], (List.append_nil _).symm, .unreported (by simp [hu, hopen])⟩
    case h_2 finding hfinding => exact ⟨_, rfl, .concludes hu hfinding⟩

/-- Every journal goes on with every event as it has to. -/
theorem enters_step (j : Journal ι τ) (event : Event ι τ) :
    ∃ entered, (j.step event).entries = j.entries ++ entered ∧
      j.Enters event entered (j.step event).ticks := by
  cases event with
  | check cluster settings gateway start =>
    have hcheck := Enters.check (j := j) cluster settings gateway start
    rw [step]
    cases houtcome : ((Check.inspect settings gateway).run start).1.returned? with
    | none =>
      rw [houtcome] at hcheck
      exact ⟨[], (List.append_nil _).symm, hcheck⟩
    | some outcome =>
      rw [houtcome] at hcheck
      exact ⟨_, rfl, hcheck⟩
  | begin t i env sight moment => exact j.enters_begin t i env sight moment
  | report t => exact j.enters_report t
  | conclude t => exact j.enters_conclude t
  | edit i change => exact ⟨[], (List.append_nil _).symm, .edit i change⟩
  | call c => exact ⟨[], (List.append_nil _).symm, .call c⟩
  | emit e =>
    have hemit := Enters.emit (j := j) e
    rw [step]
    split
    case isTrue haccepts =>
      rw [if_pos haccepts] at hemit
      exact ⟨_, rfl, hemit⟩
    case isFalse hrefuses =>
      rw [if_neg hrefuses] at hemit
      exact ⟨[], (List.append_nil _).symm, hemit⟩

/-! ### The life of a tick -/

omit [DecidableEq τ] in
theorem same_setContext (j : Journal ι τ) {changed : ι} (c : Context)
    (hcluster : c.cluster = (j.contexts changed).cluster)
    (hkind : c.kind = (j.contexts changed).kind) (i : ι) :
    ((j.setContext changed c).contexts i).cluster = (j.contexts i).cluster ∧
      ((j.setContext changed c).contexts i).kind = (j.contexts i).kind := by
  simp only [setContext]
  by_cases hi : i = changed
  · rw [hi, Function.update_self]
    exact ⟨hcluster, hkind⟩
  · rw [Function.update_of_ne hi]
    exact ⟨rfl, rfl⟩

/-- No event takes a context from its cluster or its kind. -/
theorem same_step (j : Journal ι τ) (event : Event ι τ) (i : ι) :
    ((j.step event).contexts i).cluster = (j.contexts i).cluster ∧
      ((j.step event).contexts i).kind = (j.contexts i).kind := by
  cases event with
  | check cluster settings gateway start =>
    rw [step]
    cases ((Check.inspect settings gateway).run start).1.returned? <;> exact ⟨rfl, rfl⟩
  | begin t begun env sight moment =>
    simp only [step, beginTick]
    split
    · exact ⟨rfl, rfl⟩
    · split <;> exact ⟨rfl, rfl⟩
  | report t =>
    simp only [step, reportTick]
    split
    · exact ⟨rfl, rfl⟩
    · split
      · exact ⟨rfl, rfl⟩
      · split
        · exact ⟨rfl, rfl⟩
        · split <;> exact ⟨rfl, rfl⟩
  | conclude t =>
    simp only [step, concludeTick]
    split
    · exact ⟨rfl, rfl⟩
    case h_2 u hu =>
      split
      · exact ⟨rfl, rfl⟩
      case h_2 finding hfinding =>
        obtain ⟨hcluster, hkind, -⟩ :=
          ((j.contexts u.context).concludes j.store.accepts finding).same
        exact (j.setTick t none).same_setContext _ hcluster hkind i
  | edit changed change =>
    refine j.same_setContext _ ?_ ?_ i <;> rfl
  | call c => exact ⟨rfl, rfl⟩
  | emit e =>
    rw [step]
    split <;> exact ⟨rfl, rfl⟩

theorem same_after (j : Journal ι τ) (events : List (Event ι τ)) (i : ι) :
    ((j.after events).contexts i).cluster = (j.contexts i).cluster ∧
      ((j.after events).contexts i).kind = (j.contexts i).kind := by
  induction events generalizing j with
  | nil => exact ⟨rfl, rfl⟩
  | cons event rest ih =>
    obtain ⟨hcluster, hkind⟩ := ih (j.step event)
    obtain ⟨hcluster', hkind'⟩ := j.same_step event i
    exact ⟨hcluster.trans hcluster', hkind.trans hkind'⟩

omit [DecidableEq ι] in
/-- A tick stays under way until its evaluation is over, and then until it concludes. -/
theorem Enters.ticks_eq {j : Journal ι τ} {event : Event ι τ} {entered : List Entry}
    {ticks : τ → Option (UnderWay ι)} (h : j.Enters event entered ticks) {t : τ} {u : UnderWay ι}
    (hu : j.ticks t = some u) (hreport : u.finding = none → event ≠ .report t)
    (hconclude : u.finding ≠ none → event ≠ .conclude t) : ticks t = some u := by
  have hupdate (other : τ) (v : Option (UnderWay ι)) (hne : other ≠ t) :
      Function.update j.ticks other v t = some u :=
    (Function.update_of_ne hne.symm ..).trans hu
  cases h with
  | @begins other i env sight moment hidle henabled =>
    refine hupdate other _ ?_
    rintro rfl
    rw [hidle] at hu
    cases hu
  | @reports other v finding hv hopen hfinding =>
    refine hupdate other _ ?_
    rintro rfl
    obtain rfl := Option.some.inj (hv.symm.trans hu)
    exact hreport hopen rfl
  | @givesUp other v hv hopen hpanic =>
    refine hupdate other _ ?_
    rintro rfl
    obtain rfl := Option.some.inj (hv.symm.trans hu)
    exact hreport hopen rfl
  | @concludes other v finding hv hfinding =>
    refine hupdate other _ ?_
    rintro rfl
    obtain rfl := Option.some.inj (hv.symm.trans hu)
    exact hconclude (by simp [hfinding]) rfl
  | _ => exact hu

theorem ticks_after {j : Journal ι τ} {t : τ} {u : UnderWay ι} (hu : j.ticks t = some u)
    {between : List (Event ι τ)} (hreport : u.finding = none → .report t ∉ between)
    (hconclude : u.finding ≠ none → .conclude t ∉ between) :
    (j.after between).ticks t = some u := by
  induction between generalizing j with
  | nil => exact hu
  | cons event rest ih =>
    obtain ⟨entered, -, henters⟩ := j.enters_step event
    have hnext := henters.ticks_eq hu
      (fun hopen heq => hreport hopen (heq ▸ List.mem_cons_self))
      (fun hclosed heq => hconclude hclosed (heq ▸ List.mem_cons_self))
    exact ih hnext (fun hopen hmem => hreport hopen (List.mem_cons_of_mem event hmem))
      (fun hclosed hmem => hconclude hclosed (List.mem_cons_of_mem event hmem))

/-- What an evaluation comes to does not depend on what happens meanwhile. -/
theorem evaluation_after (j : Journal ι τ) (events : List (Event ι τ)) (u : UnderWay ι) :
    (j.after events).evaluation u = j.evaluation u :=
  congrArg u.opening.evaluation (j.same_after events u.context).2

/-- A tick whose evaluation is over is entered when it concludes, with the context and the store as
they are then. -/
theorem entries_conclude_after {j : Journal ι τ} {t : τ} {u : UnderWay ι}
    {finding : Except Fault (Option String)} (hu : j.ticks t = some u)
    (hfinding : u.finding = some finding) {later : List (Event ι τ)}
    (hlater : .conclude t ∉ later) :
    let closing := j.after later
    (closing.step (.conclude t)).entries = closing.entries ++
      [.tick (.ofEvaluation u.opening.env (closing.contexts u.context) closing.store.accepts
        u.opening.moment (j.evaluation u) finding)] := by
  intro closing
  have hclosing : closing.ticks t = some u :=
    ticks_after hu (fun hopen => absurd (hfinding.symm.trans hopen) (by simp)) fun _ => hlater
  obtain ⟨entered, hentries, henters⟩ := closing.enters_step (.conclude t)
  generalize (closing.step (.conclude t)).ticks = ticks at henters
  cases henters with
  | concludes hv hfinding' =>
    obtain rfl := Option.some.inj (hv.symm.trans hclosing)
    obtain rfl := Option.some.inj (hfinding'.symm.trans hfinding)
    rw [hentries, deed, evaluation_after]
  | unreported hopen => exact absurd ((hopen u hclosing).symm.trans hfinding) (by simp)

omit [DecidableEq ι] in
theorem Enters.ticks_begin {j : Journal ι τ} {t : τ} {i : ι} {env : Environment} {sight : Sight}
    {moment : Nat} {entered : List Entry} {ticks : τ → Option (UnderWay ι)}
    (h : j.Enters (.begin t i env sight moment) entered ticks) (hidle : j.ticks t = none)
    (henabled : (j.contexts i).settings.enabled) : ticks t = some {
      context := i
      opening := ⟨env, sight, moment, (j.contexts i).settings⟩ } := by
  cases h with
  | begins => exact Function.update_self ..
  | skips _ _ _ _ hdisabled => exact absurd henabled hdisabled
  | begun _ _ _ _ hu =>
    rw [hidle] at hu
    cases hu

/-- A tick that is begun enters its health check when its evaluation is over, and its deed when it
concludes, with what the evaluation came to and with the context and the store as they are then.
After a panic, nothing is entered and the tick is no more. -/
theorem entries_tick_after {j : Journal ι τ} {t : τ} {i : ι} (hidle : j.ticks t = none)
    (henabled : (j.contexts i).settings.enabled) (env : Environment) (sight : Sight) (moment : Nat)
    {between : List (Event ι τ)} (hbetween : .report t ∉ between) :
    let o : Opening := ⟨env, sight, moment, (j.contexts i).settings⟩
    let e := o.evaluation (j.contexts i).kind
    let evaluated := j.after (.begin t i env sight moment :: between)
    let told := evaluated.step (.report t)
    (e.finding = .panic → told.entries = evaluated.entries ∧ told.ticks t = none) ∧
      ∀ finding, e.finding.returned? = some finding →
        told.entries = evaluated.entries ++ (e.check.map (.check env.cluster)).toList ∧
        ∀ later, .conclude t ∉ later →
          let closing := told.after later
          (closing.step (.conclude t)).entries = closing.entries ++
            [.tick (.ofEvaluation env (closing.contexts i) closing.store.accepts moment e
              finding)] := by
  intro o e evaluated told
  let u : UnderWay ι := { context := i, opening := o }
  obtain ⟨_, -, hbegins⟩ := j.enters_step (.begin t i env sight moment)
  have hu : evaluated.ticks t = some u := ticks_after (hbegins.ticks_begin hidle henabled)
    (fun _ => hbetween) fun hclosed => absurd rfl hclosed
  have he : evaluated.evaluation u = e := j.evaluation_after _ u
  obtain ⟨entered, hentries, henters⟩ := evaluated.enters_step (.report t)
  generalize hticks : (evaluated.step (.report t)).ticks = ticks at henters
  change told.entries = _ at hentries
  change told.ticks = ticks at hticks
  cases henters with
  | @reports _ v finding' hv hopen hfinding' =>
    obtain rfl := Option.some.inj (hv.symm.trans hu)
    rw [he] at hfinding' hentries
    refine ⟨fun hpanic => ?_, fun finding hfinding => ⟨hentries, fun later hlater => ?_⟩⟩
    · rw [hpanic] at hfinding'
      cases hfinding'
    · obtain rfl := Option.some.inj (hfinding.symm.trans hfinding')
      have htold : told.ticks t = some { u with finding := some finding } :=
        hticks ▸ Function.update_self ..
      have hsame : told.evaluation { u with finding := some finding } = e :=
        (evaluated.evaluation_after [.report t] u).trans he
      exact hsame ▸ entries_conclude_after htold rfl hlater
  | givesUp hv hopen hpanic =>
    obtain rfl := Option.some.inj (hv.symm.trans hu)
    rw [he] at hpanic
    rw [List.append_nil] at hentries
    refine ⟨fun _ => ⟨hentries, hticks ▸ Function.update_self ..⟩, fun finding hfinding => ?_⟩
    rw [hpanic] at hfinding
    cases hfinding
  | reported hclosed => exact absurd rfl (hclosed u hu)

/-! ### Deeds -/

omit [DecidableEq ι] in
/-- A tick publishes the health check of its deed and nothing else before it concludes. -/
theorem reportTick_eq {j : Journal ι τ} {t : τ} {u : UnderWay ι} (hu : j.ticks t = some u)
    (hopen : u.finding = none) {finding : Except Fault (Option String)}
    (hfinding : (j.evaluation u).finding.returned? = some finding) :
    j.reportTick t = { j.setTick t (some { u with finding := some finding }) with
      metrics := (j.deed u finding).recordCheck j.metrics
      entries := (j.reportTick t).entries } := by
  unfold reportTick deed Deed.ofEvaluation Deed.recordCheck
  simp only [hu, hopen, hfinding]
  cases (j.evaluation u).check with
  | none => rfl
  | some outcome => rfl

/-- A tick whose evaluation is over concludes with its deed. -/
theorem concludeTick_of_finding {j : Journal ι τ} {t : τ} {u : UnderWay ι}
    (hu : j.ticks t = some u) {finding : Except Fault (Option String)}
    (hfinding : u.finding = some finding) :
    (j.concludeTick t).metrics = (j.deed u finding).recordOutcome j.metrics ∧
      (j.concludeTick t).store = (j.deed u finding).store j.store := by
  simp only [concludeTick, hu, hfinding]
  exact ⟨rfl, rfl⟩

/-- A tick may conclude as soon as its evaluation is over. Then its deed is published and stored as
a whole. -/
theorem step_conclude_step_report {j : Journal ι τ} {t : τ} {u : UnderWay ι}
    (hu : j.ticks t = some u) (hopen : u.finding = none) {finding : Except Fault (Option String)}
    (hfinding : (j.evaluation u).finding.returned? = some finding) :
    let later := (j.step (.report t)).step (.conclude t)
    later.metrics = (j.deed u finding).record j.metrics ∧
      later.store = (j.deed u finding).store j.store := by
  intro later
  have heq := reportTick_eq hu hopen hfinding
  have hnext : (j.reportTick t).ticks t = some { u with finding := some finding } := by
    rw [heq]
    exact Function.update_self ..
  obtain ⟨hmetrics, hstore⟩ := concludeTick_of_finding hnext rfl
  constructor
  · refine hmetrics.trans ?_
    rw [heq]
    rfl
  · refine hstore.trans ?_
    rw [heq]
    rfl

/-- **The metrics mirror what happened.** Whatever happens to alert contexts, their store and the
clusters that they watch, in whatever order: the gauges of a cluster show its last report, and only
a health check that succeeds moves them; the counters tell how many health checks failed, how many
alerts of each kind the ticks put into the store, beside those of others, and how many ticks did not
decide. Every report has a snapshot that is healthy exactly if nothing in it is unhealthy. What
these are counts of is what happened: each health check that returns is entered, and so is each tick
that was begun, when it concludes, however much happens in between, while a panic enters nothing. A
tick that concludes at once is published and stored as its deed is. -/
theorem metrics_after (contexts : ι → Context) (store : Store) (events : List (Event ι τ)) :
    let j := (fresh contexts store).after events
    Shows j.metrics j.entries ∧
      (∀ e (g : Gauge) cluster,
        (j.step e).metrics.get? (g.series cluster) ≠ j.metrics.get? (g.series cluster) →
          ∃ r, (j.step e).entries = j.entries ++ [.check cluster (.ok r)]) ∧
      j.store.emissions = store.emissions ++ j.entries.filterMap Entry.stored ∧
      (∀ cluster r, .check cluster (.ok r) ∈ j.entries → (Check.snapshot r).Shows r) ∧
      (∀ event, ∃ entered, (j.step event).entries = j.entries ++ entered ∧
        j.Enters event entered (j.step event).ticks) ∧
      (∀ t i, j.ticks t = none → (j.contexts i).settings.enabled →
        ∀ env sight moment between, .report t ∉ between →
          let o : Opening := ⟨env, sight, moment, (j.contexts i).settings⟩
          let e := o.evaluation (j.contexts i).kind
          let evaluated := j.after (.begin t i env sight moment :: between)
          let told := evaluated.step (.report t)
          (e.finding = .panic → told.entries = evaluated.entries ∧ told.ticks t = none) ∧
            ∀ finding, e.finding.returned? = some finding →
              told.entries = evaluated.entries ++ (e.check.map (.check env.cluster)).toList ∧
              ∀ later, .conclude t ∉ later →
                let closing := told.after later
                (closing.step (.conclude t)).entries = closing.entries ++
                  [.tick (.ofEvaluation env (closing.contexts i) closing.store.accepts moment e
                    finding)]) ∧
      ∀ t u finding, j.ticks t = some u → u.finding = none →
        (j.evaluation u).finding.returned? = some finding →
          let later := (j.step (.report t)).step (.conclude t)
          later.metrics = (j.deed u finding).record j.metrics ∧
            later.store = (j.deed u finding).store j.store := by
  intro j
  have hsound : j.Sound store.emissions := (sound_fresh contexts store).after events
  refine ⟨hsound.shows, fun e g cluster hne => (j.goes_step e).exists_report hne,
    hsound.emissions, ?snapshot, j.enters_step, fun t i hidle henabled env sight moment between =>
      entries_tick_after hidle henabled env sight moment,
    fun t u finding hu hopen => step_conclude_step_report hu hopen⟩
  intro cluster r hr
  obtain ⟨settings, gateway, start, hinspect⟩ := hsound.proper _ hr
  exact Check.snapshot_shows
    (Check.consistent_of_inspect (Outcome.returned?_eq_some_iff.mp hinspect))

/-- A service without a leader is an alert while its cluster is checked, and a cluster whose servers
cannot be listed afterwards leaves what the check published. -/
theorem metrics_after_emitted_and_failed :
    let contexts (kind : Kind) : Context :=
      { cluster := "east", kind, settings := ⟨true, .ofSeconds 10, 1, ""⟩ }
    let env : Environment := ⟨"east", {}, .ofSeconds 1⟩
    let silent : Sight := { Ledger.deserted with
      gateway := fun m => { Ledger.deserted.gateway m with
        servers := .now (.error (.gateway "")) } }
    let j := (fresh contexts {} : Journal Kind Nat).after
      [.begin 0 (.leader .etcd) env Ledger.deserted 10000,
        .check "east" {} Ledger.deserted.gateway 10000, .report 0, .conclude 0,
        .begin 1 .clusterHealth env silent 20000, .report 1, .conclude 1]
    j.entries.length = 4 ∧ j.metrics.get? (Gauge.checkHealthy.series "east") = some 1 ∧
      j.metrics.counted (.checksFailed "east") = 1 ∧
      j.metrics.counted (.alertsEmitted "east" (.leader .etcd)) = 1 ∧
      j.metrics.counted (.evaluationsFailed "east" .clusterHealth) = 1 ∧
      j.store.emissions = [.of "east" (.leader .etcd) "etcd has no leader"] := by
  intro contexts env silent j
  obtain ⟨hshows, -, hemissions, -⟩ := metrics_after contexts {}
    [.begin 0 (.leader .etcd) env Ledger.deserted 10000,
      .check "east" {} Ledger.deserted.gateway 10000, .report 0, .conclude 0,
      .begin 1 .clusterHealth env silent 20000, .report 1, .conclude 1]
  refine ⟨by decide +kernel, (hshows.gauge .checkHealthy "east").trans ?_,
    (hshows.checksFailed "east").trans ?_,
    (hshows.alertsEmitted "east" (.leader .etcd)).trans ?_,
    (hshows.evaluationsFailed "east" .clusterHealth).trans ?_, hemissions.trans ?_⟩
  all_goals decide +kernel

end Journal

end CopysetWatch.Alert
