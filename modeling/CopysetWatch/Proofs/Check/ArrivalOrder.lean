import CopysetWatch.Proofs.Check.Outcome

/-!
# Order of arrival

Two health checks that are told the same come to the same. They may hear their answers in
different orders and after different delays, the servers may be listed in another order or more
than once, and a server that cannot be asked may fail in another way. Only where something that
has to be told is missing may two checks end with different faults, since the first one to arrive
ends a check; a fault that a check was not given, but found itself, is the same for both.
-/

namespace CopysetWatch

/-! ### Endings of one kind -/

/-- Two endings of the same kind, whatever they hold. -/
inductive Ending.Like {α β : Type} : Ending α → Ending β → Prop where
  | value (a : α) (b : β) : Like (.value a) (.value b)
  | fault (f g : Fault) : Like (.fault f) (.fault g)
  | panic : Like .panic .panic

namespace Ending.Like

variable {α β γ δ : Type} {x : Ending α} {y : Ending β}

protected theorem refl (x : Ending α) : Like x x := by
  cases x with
  | value a => exact .value a a
  | fault f => exact .fault f f
  | panic => exact .panic

theorem symm (h : Like x y) : Like y x := by
  cases h with
  | value a b => exact .value b a
  | fault f g => exact .fault g f
  | panic => exact .panic

theorem isValue (h : Like x y) : (∃ a, x = .value a) ↔ ∃ b, y = .value b := by
  cases h <;> simp

theorem isFault (h : Like x y) : (∃ f, x = .fault f) ↔ ∃ f, y = .fault f := by
  cases h <;> simp

theorem isPanic (h : Like x y) : x = .panic ↔ y = .panic := by
  cases h <;> simp

theorem map (h : Like x y) (f : α → γ) (g : β → δ) : Like (x.map f) (y.map g) := by
  cases h with
  | value a b => exact .value (f a) (g b)
  | fault e e' => exact .fault e e'
  | panic => exact .panic

/-- What follows two endings of the same kind matters only where both of them are values. -/
theorem bind (h : Like x y) {next : α → Ending γ} {next' : β → Ending δ}
    (hnext : ∀ a b, x = .value a → y = .value b → Like (next a) (next' b)) :
    Like (x.bind next) (y.bind next') := by
  cases h with
  | value a b => exact hnext a b rfl rfl
  | fault e e' => exact .fault e e'
  | panic => exact .panic

end Ending.Like

/-- Two replies that end in the same way, both of them in time or both too late. -/
structure Reply.Alike {α : Type} (timeout : Duration) (reply reply' : Reply α) : Prop where
  ending : reply.ending = reply'.ending
  inTime : reply.delay ≤ timeout.millis ↔ reply'.delay ≤ timeout.millis

/-- The same is heard of replies that are alike. -/
theorem Gather.result_arrival_congr {κ α : Type} {timeout : Duration} {query query' : κ → Reply α}
    {target : κ} (h : Reply.Alike timeout (query target) (query' target)) :
    (arrival timeout query target).result = (arrival timeout query' target).result := by
  unfold arrival
  dsimp only
  by_cases hintime : (query target).delay ≤ timeout.millis
  · rw [if_pos hintime, if_pos (h.inTime.mp hintime), h.ending]
  · rw [if_neg hintime, if_neg (mt h.inTime.mpr hintime)]

/-- Of replies that are alike, the first faults to arrive are faults for both, and all of them have
answered for both or for neither. -/
theorem Gather.Heard.like_firstError {κ β : Type} {timeout : Duration}
    {query query' : κ → Reply (List β)} {targets : List κ}
    {heard heard' : List (Arrival κ (List β))} (h : Heard timeout query targets heard)
    (h' : Heard timeout query' targets heard')
    (halike : ∀ target ∈ targets, Reply.Alike timeout (query target) (query' target)) :
    Ending.Like (Outcome.ofExcept (firstError heard)) (Outcome.ofExcept (firstError heard')) := by
  rcases h.firstError_cases with ⟨answers, hanswers, -, hall⟩ | ⟨f, hf, target, htarget, hfault⟩ <;>
    rcases h'.firstError_cases with
      ⟨answers', hanswers', -, hall'⟩ | ⟨g, hg, target', htarget', hfault'⟩
  · rw [hanswers, hanswers']
    exact .value answers answers'
  · obtain ⟨value, hvalue⟩ := hall target' htarget'
    rw [← result_arrival_eq_ok_iff, result_arrival_congr (halike target' htarget'),
        hfault'] at hvalue
    cases hvalue
  · obtain ⟨value, hvalue⟩ := hall' target htarget
    rw [← result_arrival_eq_ok_iff, ← result_arrival_congr (halike target htarget),
        hfault] at hvalue
    cases hvalue
  · rw [hf, hg]
    exact .fault f g

namespace Check

/-- Two checks are told the same, up to the order and repetition of the listed servers, the way in
which a server cannot be asked, and the delays, as long as every question with a timeout is
answered in time for both or for neither. -/
structure Answers.Alike (settings : CheckSettings) (a b : Answers) : Prop where
  listed : Ending.Like a.servers b.servers
  addresses : ∀ address, address ∈ a.addresses ↔ address ∈ b.addresses
  raftStatus : ∀ address ∈ a.addresses,
    (Gather.arrival settings.raftTimeout a.raftStatus address).result.toOption =
      (Gather.arrival settings.raftTimeout b.raftStatus address).result.toOption
  assignments : ∀ address, (a.assignments address).ending = (b.assignments address).ending
  placement : ∀ address, a.IsCandidate settings address →
    ((a.assignments address).delay ≤ settings.gatewayTimeout.millis ↔
      (b.assignments address).delay ≤ settings.gatewayTimeout.millis)
  members : ∀ address group,
    Reply.Alike settings.gatewayTimeout (a.membersOf address group) (b.membersOf address group)
  copysets : a.copysets = b.copysets

namespace Answers.Alike

variable {settings : CheckSettings} {a b : Answers}

/-- A listed server gives the same testimony, in whatever way it cannot be asked. -/
theorem testimony (h : Alike settings a b) {address : String} (haddress : address ∈ a.addresses) :
    a.testimony settings address = b.testimony settings address := by
  have hheard := h.raftStatus address haddress
  unfold Answers.testimony
  cases hfst : (Gather.arrival settings.raftTimeout a.raftStatus address).result <;>
    cases hsnd : (Gather.arrival settings.raftTimeout b.raftStatus address).result <;>
    rw [hfst, hsnd] at hheard
  · rfl
  · cases hheard
  · cases hheard
  · rw [Option.some.inj hheard]

/-- The same servers cannot be asked. -/
theorem isUnreachable (h : Alike settings a b) (address : String) :
    a.IsUnreachable settings address ↔ b.IsUnreachable settings address := by
  unfold Answers.IsUnreachable
  rw [← h.addresses]
  exact and_congr_right fun haddress => by rw [h.testimony haddress]

/-- The same servers have candidates. -/
theorem isCandidate (h : Alike settings a b) (address : String) :
    a.IsCandidate settings address ↔ b.IsCandidate settings address := by
  unfold Answers.IsCandidate
  rw [← h.addresses]
  exact and_congr_right fun haddress => by rw [h.testimony haddress]

protected theorem refl (settings : CheckSettings) (a : Answers) : Alike settings a a where
  listed := .refl a.servers
  addresses _ := Iff.rfl
  raftStatus _ _ := rfl
  assignments _ := rfl
  placement _ _ := Iff.rfl
  members _ _ := ⟨rfl, Iff.rfl⟩
  copysets := rfl

theorem symm (h : Alike settings a b) : Alike settings b a where
  listed := h.listed.symm
  addresses address := (h.addresses address).symm
  raftStatus address haddress := (h.raftStatus address ((h.addresses address).mpr haddress)).symm
  assignments address := (h.assignments address).symm
  placement address haddress := (h.placement address ((h.isCandidate address).mpr haddress)).symm
  members address group := ⟨(h.members address group).ending.symm,
    (h.members address group).inTime.symm⟩
  copysets := h.copysets.symm

/-- The same copysets are told of every unreachable server. -/
theorem hosted (h : Alike settings a b) (address : String) :
    a.hosted settings address = b.hosted settings address := by
  unfold Answers.hosted
  rw [h.assignments address]
  cases (b.assignments address).ending with
  | fault f => rfl
  | panic => rfl
  | value locations =>
    dsimp only
    congr 1
    funext group
    rw [Gather.told, Gather.told, Gather.result_arrival_congr (h.members address group)]

/-- The replies about the placement of a server with candidates are alike. -/
theorem placementAlike (h : Alike settings a b) {address : String}
    (haddress : a.IsCandidate settings address) :
    Reply.Alike settings.gatewayTimeout (a.assignments address) (b.assignments address) :=
  ⟨h.assignments address, h.placement address haddress⟩

/-- The same placement is told of every server with candidates. -/
theorem placed (h : Alike settings a b) {address : String}
    (haddress : a.IsCandidate settings address) :
    a.placed settings address = b.placed settings address := by
  rw [Answers.placed, Answers.placed, Gather.told, Gather.told,
    Gather.result_arrival_congr (h.placementAlike haddress)]

/-- The testimonies are the same. -/
theorem found (h : Alike settings a b) :
    oneEach a.addresses (a.testimony settings) = oneEach b.addresses (b.testimony settings) := by
  have hdistinct : distinct a.addresses = distinct b.addresses := by
    apply Ascending.eq_of_mem_iff (ascending_distinct _) (ascending_distinct _)
    simpa only [mem_distinct] using h.addresses
  unfold oneEach
  rw [← hdistinct]
  apply List.map_congr_left
  intro address haddress
  rw [h.testimony (mem_distinct.mp haddress)]

/-- The evidence is the same. -/
theorem evidence (h : Alike settings a b) : a.evidence settings = b.evidence settings := by
  have hplacement : (a.evidence settings).placement = (b.evidence settings).placement := by
    simp only [Answers.evidence, ← h.found]
    apply List.map_congr_left
    intro address haddress
    rw [h.placed (mem_candidateServers.mp haddress)]
  have hrebuilt : (a.evidence settings).rebuilt = (b.evidence settings).rebuilt := by
    simp only [Answers.evidence, h.found, h.hosted]
  simp only [Answers.evidence, Evidence.mk.injEq] at hplacement hrebuilt ⊢
  exact ⟨h.found, hrebuilt, hplacement, by rw [h.copysets]⟩

/-- What has to be told is told to both or to neither. -/
theorem complete (h : Alike settings a b) (hcomplete : Complete settings a) :
    Complete settings b where
  servers := h.listed.isValue.mp hcomplete.servers
  rebuilt address haddress := by
    obtain ⟨locations, hlocations, hmembers⟩ :=
      hcomplete.rebuilt address ((h.isUnreachable address).mpr haddress)
    refine ⟨locations, h.assignments address ▸ hlocations, fun group hgroup => ?_⟩
    obtain ⟨members, hintime, hending⟩ := hmembers group hgroup
    have hreply := h.members address group
    exact ⟨members, hreply.inTime.mp hintime, hreply.ending ▸ hending⟩
  placement address haddress := by
    have hcandidate := (h.isCandidate address).mpr haddress
    obtain ⟨locations, hintime, hending⟩ := hcomplete.placement address hcandidate
    exact ⟨locations, (h.placement address hcandidate).mp hintime,
      h.assignments address ▸ hending⟩
  listing := h.copysets ▸ hcomplete.listing

end Answers.Alike

/-! ### Courses of checks that are told the same -/

section

variable {settings : CheckSettings} {a b : Answers}

/-- Rebuilding a server ends in the same way. -/
theorem Rebuilds.like {address : String} {hosted hosted' : Ending (List Hosted)}
    (ha : Rebuilds settings a address hosted) (hb : Rebuilds settings b address hosted')
    (h : a.Alike settings b) : Ending.Like hosted hosted' := by
  unfold Rebuilds at ha hb
  rw [← h.assignments address] at hb
  cases hending : (a.assignments address).ending with
  | fault f =>
    rw [hending] at ha hb
    rw [ha, hb]
    exact .fault f f
  | panic =>
    rw [hending] at ha hb
    rw [ha, hb]
    exact .panic
  | value locations =>
    rw [hending] at ha hb
    obtain ⟨heard, hheard, rfl⟩ := ha
    obtain ⟨heard', hheard', rfl⟩ := hb
    exact (hheard.like_firstError hheard' fun group _ => h.members address group).map _ _

/-- Rebuilding the same servers one after the other ends in the same way. -/
theorem RebuildsAll.like {addresses : List String}
    {rebuilt rebuilt' : Ending (List (String × List Hosted))}
    (ha : RebuildsAll settings a addresses rebuilt)
    (hb : RebuildsAll settings b addresses rebuilt') (h : a.Alike settings b) :
    Ending.Like rebuilt rebuilt' := by
  induction addresses generalizing rebuilt rebuilt' with
  | nil =>
    obtain rfl : rebuilt = _ := ha
    obtain rfl : rebuilt' = _ := hb
    exact .value [] []
  | cons address rest ih =>
    obtain ⟨hosted, others, hhosted, hothers, rfl⟩ := ha
    obtain ⟨hosted', others', hhosted', hothers', rfl⟩ := hb
    exact (hhosted.like hhosted' h).bind fun _ _ _ _ => (ih hothers hothers').map _ _

/-- Asking for everything ends in the same way. -/
theorem Collects.like {evidence evidence' : Ending Evidence}
    (ha : Collects settings a evidence) (hb : Collects settings b evidence')
    (h : a.Alike settings b) : Ending.Like evidence evidence' := by
  unfold Collects at ha hb
  have hlisted := h.listed
  cases hservers : a.servers <;> cases hservers' : b.servers <;>
    rw [hservers, hservers'] at hlisted <;> cases hlisted <;>
    rw [hservers] at ha <;> rw [hservers'] at hb
  case value.value =>
    obtain ⟨heard, rebuilt, placed, hheard, hrebuilt, hplaced, rfl⟩ := ha
    obtain ⟨heard', rebuilt', placed', hheard', hrebuilt', hplaced', rfl⟩ := hb
    -- both hear the same testimonies, so they ask on in the same way
    rw [testimonies_heard hheard] at hrebuilt hplaced ⊢
    rw [testimonies_heard hheard', ← h.evidence] at hrebuilt' hplaced' ⊢
    refine (hrebuilt.like hrebuilt' h).bind fun _ _ _ _ => ?_
    split
    · exact .panic
    · refine (hplaced.like_firstError hplaced' fun address haddress =>
        h.placementAlike (mem_candidateServers_evidence.mp haddress)).bind fun _ _ _ _ => ?_
      rw [← h.copysets]
      exact (Ending.Like.refl a.copysets).map _ _
  case fault.fault =>
    rw [ha, hb]
    exact .fault _ _
  case panic.panic =>
    rw [ha, hb]
    exact .panic

/-- There is evidence only where everything is told. -/
theorem Collects.complete {e : Evidence} (h : Collects settings a (.value e)) :
    Complete settings a := by
  rcases h.cases with ⟨-, -, hcomplete, -⟩ | ⟨f, hf, -⟩ | ⟨hpanic, -⟩
  · exact hcomplete
  · cases hf
  · cases hpanic

/-- Two outcomes come to the same: both are the same registry or none is, and both are a fault or
none is, and both unwind or none does. -/
structure SameOutcome (outcome outcome' : Ending Registry) : Prop where
  registry : ∀ r, outcome = .value r ↔ outcome' = .value r
  fault : (∃ f, outcome = .fault f) ↔ ∃ f, outcome' = .fault f
  panic : outcome = .panic ↔ outcome' = .panic

/-- What one check that is told everything comes to, any other one does that is told the same. -/
theorem Courses.eq_of_complete {outcome outcome' : Ending Registry}
    (ha : Courses settings a outcome) (hb : Courses settings b outcome') (h : a.Alike settings b)
    (hcomplete : Complete settings a) : outcome' = outcome := by
  have hcomplete' := h.complete hcomplete
  by_cases hoverflows : a.Overflows settings
  · have hoverflows' : b.Overflows settings := by
      rwa [← overflowsSomewhere_evidence, ← h.evidence, overflowsSomewhere_evidence]
    rw [(ha.eq_panic_iff hcomplete).mpr hoverflows, (hb.eq_panic_iff hcomplete').mpr hoverflows']
  · have hfits' : ¬b.Overflows settings := by
      rwa [← overflowsSomewhere_evidence, ← h.evidence, overflowsSomewhere_evidence]
    rw [ha.eq_judge hcomplete hoverflows, hb.eq_judge hcomplete' hfits', h.evidence]

/-- All courses of two checks that are told the same come to the same. -/
theorem Courses.sameOutcome {outcome outcome' : Ending Registry}
    (ha : Courses settings a outcome) (hb : Courses settings b outcome')
    (h : a.Alike settings b) : SameOutcome outcome outcome' := by
  by_cases hcomplete : Complete settings a
  · rw [ha.eq_of_complete hb h hcomplete]
    exact ⟨fun _ => Iff.rfl, Iff.rfl, Iff.rfl⟩
  · -- Neither of them gets a registry, and both miss what they miss in the same way.
    have hincomplete : ¬Complete settings b := fun hb => hcomplete (h.symm.complete hb)
    have hlike : Ending.Like outcome outcome' := by
      obtain ⟨evidence, hevidence, rfl⟩ := ha
      obtain ⟨evidence', hevidence', rfl⟩ := hb
      refine (hevidence.like hevidence' h).bind fun e e' he _ => absurd ?_ hcomplete
      exact (he ▸ hevidence).complete
    refine ⟨fun r => ?_, hlike.isFault, hlike.isPanic⟩
    constructor
    · rintro rfl
      exact absurd ha.of_value.1 hcomplete
    · rintro rfl
      exact absurd hb.of_value.1 hincomplete

/-- A fault that was not given is the fault of both. -/
theorem Courses.eq_fault_of_not_gives {f : Fault} {outcome' : Ending Registry}
    (ha : Courses settings a (.fault f)) (hb : Courses settings b outcome')
    (h : a.Alike settings b) (hf : ¬Gives settings a f) : outcome' = .fault f := by
  rcases ha.cases with ⟨hcomplete, -⟩ | ⟨g, hg, hgiven⟩ | ⟨hpanic, -⟩
  · exact ha.eq_of_complete hb h hcomplete
  · cases hg
    exact absurd hgiven hf
  · cases hpanic

end

/-- A cluster of two servers that cannot be asked, as one check is told of it. -/
def firstView : Gateway where
  servers := .now (.ok [⟨"10.0.0.1:8200", .online⟩, ⟨"10.0.0.2:8200", .online⟩])
  assignments _ := .now (.ok [⟨1, 7⟩, ⟨2, 9⟩])
  members pool copysets :=
    ⟨if pool = 1 then 10 else 20, .value (copysets.map fun copyset => ⟨copyset, []⟩)⟩
  copysets := .now (.ok [⟨1, 7, 0, true⟩, ⟨2, 9, 0, true⟩])
  raftStatus address := .now (.error (.unreachable address))

/-- The same cluster as another check is told of it: the servers come late and in another order, one
of them twice, and fail in another way, and the pools answer in the other order. -/
def secondView : Gateway where
  servers := ⟨7000, .value [⟨"10.0.0.2:8200", .offline⟩, ⟨"10.0.0.1:8200", .online⟩,
    ⟨"10.0.0.2:8200", .offline⟩]⟩
  assignments _ := ⟨9000, .value [⟨1, 7⟩, ⟨2, 9⟩]⟩
  members pool copysets :=
    ⟨if pool = 1 then 20 else 10, .value (copysets.map fun copyset => ⟨copyset, []⟩)⟩
  copysets := .now (.ok [⟨1, 7, 0, true⟩, ⟨2, 9, 0, true⟩])
  raftStatus _ := ⟨6000, .panic⟩

theorem views_alike : Answers.Alike {} (.during {} (fun _ => firstView) 0)
    (.during {} (fun _ => secondView) 0) where
  listed := .value _ _
  addresses address := by
    simp only [Answers.during_const, Answers.addresses, listedAddresses, firstView, secondView,
      Reply.now, Outcome.ofExcept_ok, Outcome.value?_value, Option.getD_some, List.map_cons,
      List.map_nil, List.mem_cons, List.not_mem_nil, or_false]
    tauto
  raftStatus address _ := rfl
  assignments address := rfl
  placement address haddress := by
    obtain ⟨-, record, hrecord, -⟩ := haddress
    cases hrecord
  members address group := by
    refine ⟨rfl, ?_⟩
    simp only [Answers.membersOf, Answers.during_const, firstView, secondView]
    split <;> decide
  copysets := rfl

/-- A cluster of a server that cannot be asked, whose two pools answer with faults after delays of
their own. The first of the faults is one that a check could also find by itself. -/
def disputedView (first second : Nat) : Gateway where
  servers := .now (.ok [⟨"10.0.0.1:8200", .online⟩])
  assignments _ := .now (.ok [⟨1, 7⟩, ⟨2, 9⟩])
  members pool _ :=
    if pool = 1 then ⟨first, .fault (.setMismatch [] [])⟩
    else ⟨second, .fault (.gateway "pool is not available")⟩
  copysets := .now (.ok [])
  raftStatus address := .now (.error (.unreachable address))

theorem disputedViews_alike : Answers.Alike {} (.during {} (fun _ => disputedView 10 20) 0)
    (.during {} (fun _ => disputedView 20 10) 0) where
  listed := .refl _
  addresses _ := Iff.rfl
  raftStatus _ _ := rfl
  assignments _ := rfl
  placement _ _ := Iff.rfl
  members address group := by
    simp only [Answers.membersOf, Answers.during_const, disputedView]
    split
    · exact ⟨rfl, by decide⟩
    · exact ⟨rfl, by decide⟩
  copysets := rfl

end Check

end CopysetWatch
