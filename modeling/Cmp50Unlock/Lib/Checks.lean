import Cmp50Unlock.Lib.Triple

/-!
# Scripts that check

A script whose commands change nothing, as what their answers show. `Shows known p P` says that `P` holds of what the
script returns, where `known` is what is known of the answers that no signal has interrupted.
-/

namespace Cmp50Unlock.Lib.Script

variable {Op Sig : Type} {Out : Op → Type} {α β σ : Type} {known : (o : Op) → Done Sig (Out o) → Prop}
  {exits : Sig → Nat}
  {p : Script Op Sig Out α} {P P' : α → Prop} {o : Op}

/-- Answers, with no state. -/
def SaysStep (known : (o : Op) → Done Sig (Out o) → Prop) (o : Op) (_ : Unit) (d : Done Sig (Out o))
    (_ : Unit) : Prop :=
  d.signal = none → known o d

def Shows (known : (o : Op) → Done Sig (Out o) → Prop) (p : Script Op Sig Out α) (P : α → Prop) : Prop :=
  Meets (SaysStep known) p () (fun a _ => P a) fun _ _ => True

/-- Among other commands, whose state the script keeps. -/
theorem Shows.meets {step : (o : Op) → σ → Done Sig (Out o) → σ → Prop} {I : σ → Prop} {s : σ} (hp : Shows known p P)
    (htold : ∀ o s d s', step o s d s' → d.signal = none → known o d) (hI : ∀ o s d s', step o s d s' → I s → I s')
    (hs : I s) : Meets step p s (fun a s' => P a ∧ I s') fun _ => I := by
  intro r s' he
  have hanswers := hp r () (exec_view (fun _ => ()) htold he)
  have hs' := meets_inv hI hs r s' he
  cases r with
  | ok a => exact ⟨hanswers, hs'⟩
  | error n => exact hs'

/-! ## Rules -/

theorem Shows.mono (hp : Shows known p P) (hP : ∀ a, P a → P' a) : Shows known p P' :=
  Meets.mono hp (fun a _ => hP a) fun _ _ => id

theorem Shows.bind {f : α → Script Op Sig Out β} {Q : β → Prop} (hp : Shows known p P)
    (hf : ∀ a, P a → Shows known (f a) Q) :
    Shows known (p >>= f) Q :=
  meets_bind.mpr (Meets.mono hp (fun a _ => hf a) fun _ _ => id)

theorem shows_pure {a : α} (ha : P a) : Shows known (pure a) P := meets_pure.mpr ha

theorem shows_throw {n : Nat} : Shows known (throw n) P := meets_throw.mpr trivial

theorem shows_attempt (o : Op) : Shows known (attempt exits o) (known o) := by
  refine meets_attempt.mpr fun d _ hstep => ⟨?_, fun _ _ => trivial⟩
  exact hstep

theorem shows_sh (o : Op) :
    Shows known (sh exits o) fun out => ∃ d : Done Sig (Out o), d.out = out ∧ d.status = 0 ∧ known o d := by
  refine meets_sh.mpr fun d _ hstep => ⟨fun hsignal hstatus => ?_, fun _ _ => trivial, fun _ _ => trivial⟩
  exact ⟨d, rfl, hstatus, hstep hsignal⟩

/-- A command before the exit, whatever it shows. -/
theorem shows_exit {n : Nat} : Shows known (do let _ ← sh exits o; throw n) P :=
  (shows_sh o).bind fun _ _ => shows_throw

section
variable [Stderr Op] {status : Nat} {message : String}

theorem shows_fail : Shows known (fail exits status message) P := shows_exit

theorem shows_orFail {holds : Bool} : Shows known (orFail exits holds status message) fun _ => holds = true := by
  cases holds with
  | true => exact shows_pure rfl
  | false => exact shows_fail

/-- `command || fail` -/
theorem shows_test {f : Done Sig (Out o) → Bool} :
    Shows known (do let done ← attempt exits o; orFail exits (f done) status message)
      fun _ => ∃ done, known o done ∧ f done = true :=
  (shows_attempt o).bind fun done htold => shows_orFail.mono fun _ hf => ⟨done, htold, hf⟩

/-- `command || fail`, where only the status counts -/
theorem shows_status :
    Shows known (do let done ← attempt exits o; orFail exits (done.status == 0) status message)
      fun _ => ∃ done, known o done ∧ done.status = 0 := by
  refine shows_test.mono fun _ hdone => ?_
  obtain ⟨done, htold, hstatus⟩ := hdone
  exact ⟨done, htold, beq_iff_eq.mp hstatus⟩

end

theorem shows_ite {c : Prop} [Decidable c] {q : Script Op Sig Out α} (hp : c → Shows known p P)
    (hq : ¬c → Shows known q P) :
    Shows known (if c then p else q) P := meets_ite.mpr ⟨hp, hq⟩

theorem shows_when {c : Prop} [Decidable c] {p : Script Op Sig Out Unit} {P : Prop}
    (hp : c → Shows known p fun _ => P) :
    Shows known (when c p) fun _ => c → P := by
  refine meets_when.mpr ⟨fun hc => ?_, fun hc hc' => absurd hc' hc⟩
  exact (hp hc).mono fun _ h _ => h

theorem shows_forM {f : β → Script Op Sig Out PUnit} {P : β → Prop} (hf : ∀ b, Shows known (f b) fun _ => P b)
    (bs : List β) :
    Shows known (bs.forM f) fun _ => ∀ b ∈ bs, P b := by
  induction bs with
  | nil => exact shows_pure fun _ hmem => absurd hmem List.not_mem_nil
  | cons b bs ih =>
      rw [List.forM]
      exact (hf b).bind fun _ hb => ih.mono fun _ hbs => List.forall_mem_cons.mpr ⟨hb, hbs⟩

end Cmp50Unlock.Lib.Script
