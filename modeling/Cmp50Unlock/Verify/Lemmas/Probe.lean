import Cmp50Unlock.Lib.Wp
import Cmp50Unlock.Verify.Lemmas.Report
import Cmp50Unlock.Verify.Lemmas.Verdict
import Cmp50Unlock.Verify.Spec

/-!
# What the probe sends and prints
-/

namespace Cmp50Unlock.Verify

open Lib

variable {σ : Type} {step : (o : RmOp) → σ → o.Ans → σ → Prop} {G : σ → RmOp → Prop} {I : σ → Prop} {s : σ}
  {fd : Fd} {client subdevice : NvHandle} {answers : (c : Control) → Reply c.Params}

theorem succeeded_iff {α : Type} (r : Reply α) : rmOk (resultOf r).1 ↔ r.Succeeded := by
  rw [rmOk, resultOf, Reply.Succeeded, Bool.and_eq_true, beq_iff_eq, beq_iff_eq]
  cases r.error with
  | none => simp
  | some e =>
      have hne : e.val ≠ 0#32 := e.property
      simp [hne]

/-- The controls on a subdevice may be sent, and are answered by `answers`. -/
def Answered (step : (o : RmOp) → σ → o.Ans → σ → Prop) (G : σ → RmOp → Prop) (I : σ → Prop) (fd : Fd)
    (client subdevice : NvHandle) (answers : (c : Control) → Reply c.Params) : Prop :=
  ∀ c s, I s → G s (.control fd client subdevice c) ∧
    ∀ a s', step (.control fd client subdevice c) s a s' → a = answers c ∧ I s'

theorem rmControl_wp (h : Answered step G I fd client subdevice answers) (hs : I s) (c : Control) :
    (rmControl fd client subdevice c).wp step G s fun r s' => r = resultOf (answers c) ∧ I s' := by
  rw [rmControl, Prog.wp_bind, rm, Prog.wp_lift]
  refine ⟨(h c s hs).1, fun a s' hstep => ?_⟩
  obtain ⟨rfl, hs'⟩ := (h c s hs).2 a s' hstep
  exact ⟨rfl, hs'⟩

theorem rmControl_bind (h : Answered step G I fd client subdevice answers) (hs : I s) (c : Control) {α : Type}
    {f : ControlResult × c.Params → Rm α} {Q : α → σ → Prop}
    (hf : ∀ s', I s' → (f (resultOf (answers c))).wp step G s' Q) :
    (rmControl fd client subdevice c >>= f).wp step G s Q := by
  rw [Prog.wp_bind]
  refine (rmControl_wp h hs c).mono ?_
  rintro _ s' ⟨rfl, hs'⟩
  exact hf s' hs'

theorem queryEngineClasses_bind (h : Answered step G I fd client subdevice answers) (hs : I s) (name : String)
    (engineType : NvU32) {α : Type} {f : EngineClassQuery → Rm α} {Q : α → σ → Prop}
    (hf : ∀ s', I s' → (f (queryOf answers (name, engineType))).wp step G s' Q) :
    (queryEngineClasses fd client subdevice name engineType >>= f).wp step G s Q := by
  rw [Prog.wp_bind, queryEngineClasses]
  exact rmControl_bind h hs _ hf

/-- The properties of the first `n` engines. -/
theorem collect_wp (h : Answered step G I fd client subdevice answers) (hs : I s) (n : Nat) :
    (collect (fun i => rmControl fd client subdevice (.contextProperties (BitVec.ofNat 32 i))) n).wp step G s
      fun r s' => r = Vector.ofFn (fun i : Fin n => resultOf (answers (.contextProperties (BitVec.ofNat 32 i)))) ∧
      I s' := by
  induction n with
  | zero =>
      rw [collect_zero]
      exact ⟨rfl, hs⟩
  | succ n ih =>
      rw [collect_succ, Prog.wp_bind]
      refine ih.mono fun buffers s₁ hbuffers => ?_
      refine rmControl_bind h hbuffers.2 _ fun s₂ hs₂ => ⟨?_, hs₂⟩
      rw [Vector.ofFn_succ, hbuffers.1]
      rfl

theorem map_four {α β : Type} (f : α → β) (xs : Vector α 4) :
    xs.map f = #v[f (xs.get 0), f (xs.get 1), f (xs.get 2), f (xs.get 3)] := by
  apply Vector.toList_inj.mp
  rw [Vector.toList_map, toList_eq]
  rfl

theorem sendControls_wp (h : Answered step G I fd client subdevice answers) (hs : I s) :
    (sendControls fd client subdevice).wp step G s fun r s' => r = controlsOf answers ∧ I s' := by
  refine rmControl_bind h hs _ fun s₁ hs₁ => ?_
  refine rmControl_bind h hs₁ _ fun s₂ hs₂ => ?_
  refine rmControl_bind h hs₂ _ fun s₃ hs₃ => ?_
  refine rmControl_bind h hs₃ _ fun s₄ hs₄ => ?_
  refine rmControl_bind h hs₄ _ fun s₅ hs₅ => ?_
  refine rmControl_bind h hs₅ _ fun s₆ hs₆ => ?_
  rw [Prog.wp_bind]
  refine (collect_wp h hs₆ engineIdCount).mono fun buffers s₇ hs₇ => ?_
  refine rmControl_bind h hs₇.2 _ fun s₈ hs₈ => ?_
  refine queryEngineClasses_bind h hs₈ _ _ fun s₉ hs₉ => ?_
  refine queryEngineClasses_bind h hs₉ _ _ fun s₁₀ hs₁₀ => ?_
  refine queryEngineClasses_bind h hs₁₀ _ _ fun s₁₁ hs₁₁ => ?_
  refine queryEngineClasses_bind h hs₁₁ _ _ fun s₁₂ hs₁₂ => ⟨?_, hs₁₂⟩
  rw [hs₇.1, controlsOf, map_four]
  rfl

theorem controlsOf_named (answers : (c : Control) → Reply c.Params) : (controlsOf answers).Named := by
  rw [Controls.Named, controlsOf]
  simp only [Vector.map_map]
  rfl

/-- The exit status of `run_probe`. -/
def probeStatus (answers : Answers) : Nat :=
  if rmOk (resultOf (answers .issueRate)).1 || rmOk (resultOf (answers .issueRateV2)).1 then 0 else 1

/-- `run_probe` prints one text, which decodes to the report. -/
theorem runProbe_text (answers : Answers) (deviceIndex : Int) : ∃ text,
    Json.loads text = some (reportJson deviceIndex (controlsOf answers)) ∧
    ∀ {σ : Type} {step : (o : RmOp) → σ → o.Ans → σ → Prop} {G : σ → RmOp → Prop} {I : σ → Prop} {s : σ} {fd : Fd}
      {client subdevice : NvHandle}, Answered step G I fd client subdevice answers → I s →
      (runProbe fd client subdevice deviceIndex).wp step G s fun r s' =>
        r = some (probeStatus answers, text) ∧ I s' := by
  obtain ⟨text, hrun, hloads⟩ := printReport_loads deviceIndex (controlsOf answers) (controlsOf_named answers).plain
  refine ⟨text, hloads, fun h hs => ?_⟩
  rw [runProbe, Prog.wp_bind]
  refine (sendControls_wp h hs).mono ?_
  rintro _ s' ⟨rfl, hs'⟩
  refine ⟨?_, hs'⟩
  rw [hrun]
  rfl

end Cmp50Unlock.Verify
