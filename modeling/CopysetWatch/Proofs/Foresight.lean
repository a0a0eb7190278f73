import CopysetWatch.Alert.Evaluation
import CopysetWatch.Proofs.Inquiry

/-!
# No foresight

An inquiry asks each question at the moment at which it gets there, so when it is over, it has seen
nothing of what comes later. What is the same up to a moment is therefore the same for every inquiry
that is over by then, and the evaluation of an alert kind is such an inquiry.
-/

namespace CopysetWatch

namespace Inquiry

variable {α β κ : Type} {moment : Nat}

/-- Whenever an inquiry is over by a moment, another one comes to the same. -/
structure AgreesUntil (moment : Nat) (inquiry other : Inquiry α) : Prop where
  run_eq : ∀ start, start + (inquiry.run start).2 ≤ moment →
    other.run start = inquiry.run start

theorem AgreesUntil.refl (moment : Nat) (inquiry : Inquiry α) :
    inquiry.AgreesUntil moment inquiry :=
  ⟨fun _ _ => rfl⟩

/-- Inquiries in succession agree where each of them does. -/
theorem AgreesUntil.bind {first first' : Inquiry α} {next next' : α → Inquiry β}
    (h : first.AgreesUntil moment first') (hnext : ∀ a, (next a).AgreesUntil moment (next' a)) :
    (first >>= next).AgreesUntil moment (first' >>= next') := by
  refine ⟨fun start hend => ?_⟩
  cases hfirst : (first.run start).1 with
  | value a =>
    rw [run_bind_of_value hfirst] at hend ⊢
    have hsame := h.run_eq start (by omega)
    rw [run_bind_of_value (hsame ▸ hfirst), hsame, (hnext a).run_eq _ (by omega)]
  | fault f =>
    rw [run_bind_of_fault hfirst] at hend ⊢
    have hsame := h.run_eq start hend
    rw [run_bind_of_fault (hsame ▸ hfirst), hsame]
  | panic =>
    rw [run_bind_of_panic hfirst] at hend ⊢
    have hsame := h.run_eq start hend
    rw [run_bind_of_panic (hsame ▸ hfirst), hsame]

theorem agreesUntil_ask {reply reply' : Nat → Reply α} (h : ∀ m ≤ moment, reply' m = reply m) :
    (ask reply).AgreesUntil moment (ask reply') := by
  refine ⟨fun start hend => ?_⟩
  rw [run_ask, run_ask, h start (Nat.le_of_add_right_le hend)]

theorem agreesUntil_gather {query query' : Nat → κ → Reply α}
    (h : ∀ m ≤ moment, query' m = query m) (timeout : Duration) (targets : List κ) :
    (gather timeout query targets).AgreesUntil moment (gather timeout query' targets) := by
  refine ⟨fun start hend => ?_⟩
  rw [run_gather, run_gather, h start (Nat.le_of_add_right_le hend)]

theorem agreesUntil_gatherAll {query query' : Nat → κ → Reply α}
    (h : ∀ m ≤ moment, query' m = query m) (timeout : Duration) (targets : List κ) :
    (gatherAll timeout query targets).AgreesUntil moment (gatherAll timeout query' targets) :=
  (agreesUntil_gather h timeout targets).bind fun _ => .refl ..

end Inquiry

/-! ### Health checks -/

namespace Check

variable {moment : Nat} {gateway gateway' : Nat → Gateway}

theorem rebuildAll_agreesUntil (h : ∀ m ≤ moment, gateway' m = gateway m)
    (settings : CheckSettings) (addresses : List String) :
    (rebuildAll settings gateway addresses).AgreesUntil moment
      (rebuildAll settings gateway' addresses) := by
  induction addresses with
  | nil => exact .refl ..
  | cons address rest ih =>
    have hone : (rebuild settings gateway address).AgreesUntil moment
        (rebuild settings gateway' address) := by
      refine .bind (Inquiry.agreesUntil_ask fun m hm => by rw [h m hm]) fun locations => ?_
      exact .bind (Inquiry.agreesUntil_gatherAll (fun m hm => by rw [h m hm]) ..) fun _ => .refl ..
    exact .bind hone fun _ => .bind ih fun _ => .refl ..

/-- A health check sees nothing of what comes after it. -/
theorem inspect_agreesUntil (h : ∀ m ≤ moment, gateway' m = gateway m)
    (settings : CheckSettings) :
    (inspect settings gateway).AgreesUntil moment (inspect settings gateway') := by
  have hcollect : (collect settings gateway).AgreesUntil moment (collect settings gateway') := by
    refine .bind (Inquiry.agreesUntil_ask fun m hm => by rw [h m hm]) fun servers => ?_
    refine .bind (Inquiry.agreesUntil_gather (fun m hm => by rw [h m hm]) ..) fun heard => ?_
    refine .bind (rebuildAll_agreesUntil h settings _) fun rebuilt => ?_
    split
    · exact .refl ..
    refine .bind (Inquiry.agreesUntil_gatherAll (fun m hm => by rw [h m hm]) ..) fun _ => ?_
    exact .bind (Inquiry.agreesUntil_ask fun m hm => by rw [h m hm]) fun _ => .refl ..
  exact hcollect.bind fun _ => .refl ..

end Check

/-! ### Evaluations -/

namespace Alert

/-- Up to a moment, two sights are the same. -/
def Sight.AgreesUntil (moment : Nat) (sight other : Sight) : Prop :=
  ∀ m ≤ moment, other.gateway m = sight.gateway m ∧ other.probe m = sight.probe m

variable {moment : Nat} {sight other : Sight}

theorem Sight.AgreesUntil.symm (h : sight.AgreesUntil moment other) :
    other.AgreesUntil moment sight :=
  fun m hm => ⟨(h m hm).1.symm, (h m hm).2.symm⟩

theorem Sight.AgreesUntil.mono (h : sight.AgreesUntil moment other) {earlier : Nat}
    (hle : earlier ≤ moment) : sight.AgreesUntil earlier other :=
  fun m hm => h m (Nat.le_trans hm hle)

theorem hearEndpoints_agreesUntil (h : sight.AgreesUntil moment other) (env : Environment)
    (service : Service) :
    (hearEndpoints env sight service).AgreesUntil moment (hearEndpoints env other service) := by
  refine .bind (Inquiry.agreesUntil_ask fun m hm => by rw [(h m hm).2]) fun endpoints => ?_
  exact Inquiry.agreesUntil_gather (fun m hm => by rw [(h m hm).2]) ..

/-- Inquiries that agree amount to the same evaluation. -/
theorem Evaluation.ofInquiry_eq {inquiry inquiry' : Inquiry (Option String)}
    (h : inquiry.AgreesUntil moment inquiry') {start : Nat}
    (hend : start + (ofInquiry inquiry start).elapsed ≤ moment) :
    ofInquiry inquiry' start = ofInquiry inquiry start := by
  unfold ofInquiry at hend ⊢
  rw [h.run_eq start hend]

/-- **No evaluation sees the future.** What is the same up to the end of an evaluation makes no
difference to it. -/
theorem Kind.evaluate_eq (h : sight.AgreesUntil moment other) {env : Environment} {kind : Kind}
    {rule : String} {start : Nat}
    (hend : start + (kind.evaluate env sight rule start).elapsed ≤ moment) :
    kind.evaluate env other rule start = kind.evaluate env sight rule start := by
  cases kind with
  | clusterHealth =>
    have hchecked :=
      (Check.inspect_agreesUntil (fun m hm => (h m hm).1) env.check).run_eq start hend
    unfold evaluate
    rw [hchecked]
  | clusterCapacity =>
    have hask : (Inquiry.ask fun m => (sight.probe m).capacity).AgreesUntil moment
        (Inquiry.ask fun m => (other.probe m).capacity) :=
      Inquiry.agreesUntil_ask fun m hm => by rw [(h m hm).2]
    exact Evaluation.ofInquiry_eq (.bind (.refl ..) fun _ => hask.bind fun _ => .refl ..) hend
  | leader service | offline service =>
    exact Evaluation.ofInquiry_eq
      ((hearEndpoints_agreesUntil h env service).bind fun _ => .refl ..) hend

end Alert

end CopysetWatch
