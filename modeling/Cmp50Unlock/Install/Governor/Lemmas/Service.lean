import Cmp50Unlock.Install.Governor.Lemmas.Changes

/-!
# How the service is replaced
-/

namespace Cmp50Unlock.Install.Governor

open Lib
open Lib.Script (Meets meets_bind meets_pure meets_throw meets_ite meets_when meets_sh_of
  meets_attempt_of meets_orFail_of)
open Scripts (Signal)

variable {h : Host} {o : Options} {w₀ w w₁ w' : World} {s t : ServiceOp} {d : Done Signal Unit} {startNow starts : Bool}
  {log : Log} {P : Done Signal Unit → Prop}

/-! ## What has been run -/

theorem Ran.cons {i : InstallOp} {a : Done Signal i.Out} (hran : Ran log s P) : Ran (⟨i, a⟩ :: log) s P := by
  obtain ⟨d, hd, hmem⟩ := hran
  exact ⟨d, hd, .tail _ hmem⟩

theorem ran_head (hd : P d) : Ran (⟨.service s, d⟩ :: log) s P := ⟨d, hd, .head _⟩

theorem ran_cons_ne (hne : t ≠ s) : Ran (⟨.service t, d⟩ :: log) s P ↔ Ran log s P := by
  constructor
  · rintro ⟨d', hd', hmem⟩
    cases hmem with
    | head => exact absurd rfl hne
    | tail _ hmem => exact ⟨d', hd', hmem⟩
  · exact Ran.cons

theorem Early.not_ran (hlog : Early log) : ¬Ran log s P := by
  rintro ⟨d, -, hmem⟩
  exact hlog _ hmem s rfl

theorem Early.orderly (hlog : Early log) : Orderly startNow log := by
  induction log with
  | nil => trivial
  | cons event log ih =>
      refine ⟨?_, ih fun event' hmem => hlog event' (.tail _ hmem)⟩
      obtain ⟨i, d⟩ := event
      cases i with
      | service s => exact absurd rfl (hlog _ (.head _) s)
      | _ => trivial

/-! ## The decision -/

/-- The governor is down, and `starts` says whether it will be started. -/
structure Decided (startNow starts : Bool) (log : Log) : Prop where
  orderly : Orderly startNow log
  down : Down log
  reason : starts = true → startNow = true ∨ Ran log .stop fun d => d.status = 0
  needed : (startNow = true ∨ Ran log .stop fun _ => True) → starts = true
  idle : ¬Ran log .start fun _ => True

theorem Down.cons {i : InstallOp} {a : Done Signal i.Out} (hdown : Down log) : Down (⟨i, a⟩ :: log) :=
  hdown.imp Ran.cons Ran.cons

/-- The commands that replace files come between the two decisions. -/
theorem Decided.guarded (hlog : Decided startNow starts log) (hstop : s ≠ .stop) (hstart : s ≠ .start) :
    Guarded startNow log (.service s) := by
  cases s with
  | stop => exact absurd rfl hstop
  | start => exact absurd rfl hstart
  | installBinary => exact hlog.down
  | _ => trivial

theorem Decided.cons (hlog : Decided startNow starts log) (hstop : s ≠ .stop) (hstart : s ≠ .start) :
    Decided startNow starts (⟨.service s, d⟩ :: log) where
  orderly := ⟨hlog.guarded hstop hstart, hlog.orderly⟩
  down := hlog.down.cons
  reason := fun hs => (hlog.reason hs).imp_right Ran.cons
  needed := fun hs => hlog.needed (hs.imp_right (ran_cons_ne hstop).mp)
  idle := fun hran => hlog.idle ((ran_cons_ne hstart).mp hran)

/-! ## What the commands keep -/

structure Serving (startNow : Bool) (w w' : World) : Prop where
  requests : Written w.requests w'.requests
  temp : w'.temp = w.temp
  directory : w'.directory = w.directory
  environment : w'.environment = w.environment
  log : Orderly startNow w'.log

theorem Serving.step (hw : Serving startNow w₀ w) (hstep : InstallStep h (.service s) w d w')
    (hguard : Guarded startNow w.log (.service s)) : Serving startNow w₀ w' := by
  obtain ⟨requests, binary, unit, legacy, enabled, hwritten, rfl⟩ := service_step hstep
  exact ⟨hw.requests.trans hwritten, hw.temp, hw.directory, hw.environment, hguard, hw.log⟩

theorem log_step {i : InstallOp} {a : Done Signal i.Out} (hstep : InstallStep h i w a w') :
    w'.log = ⟨i, a⟩ :: w.log := by
  obtain ⟨requests, w₁, -, -, rfl⟩ := hstep
  rfl

/-- A command that succeeds. -/
theorem served_step (hstep : InstallStep h (.service s) w d w') (hstatus : d.status = 0) :
    ∃ requests w₁, World.Served h { w with requests := requests } s w₁ ∧ w'.service = w₁.service := by
  obtain ⟨requests, w₁, -, ⟨hdone, -, -⟩, rfl⟩ := hstep
  exact ⟨requests, w₁, hdone hstatus, rfl⟩

/-- A command that changes no file. -/
theorem same_service (hstep : InstallStep h (.service s) w d w')
    (hs : s ∉ [ServiceOp.installBinary, .installUnit, .removeLegacy, .enable]) : w'.service = w.service := by
  simp only [List.mem_cons, List.not_mem_nil, or_false, not_or] at hs
  obtain ⟨hbinary, hunit, hlegacy, henable⟩ := hs
  obtain ⟨requests, w₁, -, ⟨hdone, hfailed, -⟩, rfl⟩ := hstep
  have hsame : w₁ = { w with requests := requests } := by
    cases s with
    | installBinary => exact absurd rfl hbinary
    | installUnit => exact absurd rfl hunit
    | removeLegacy => exact absurd rfl hlegacy
    | enable => exact absurd rfl henable
    | _ =>
        by_cases hstatus : d.status = 0
        · exact hdone hstatus
        · exact hfailed hstatus
  rw [hsame]
  rfl

/-! ## The script -/

/-- A command after the decision that the governor is down. -/
structure Phase (startNow starts : Bool) (w₀ w : World) : Prop where
  serving : Serving startNow w₀ w
  decided : Decided startNow starts w.log

theorem Phase.step (hw : Phase startNow starts w₀ w) (hstep : InstallStep h (.service s) w d w') (hstop : s ≠ .stop)
    (hstart : s ≠ .start) : Phase startNow starts w₀ w' where
  serving := hw.serving.step hstep (hw.decided.guarded hstop hstart)
  decided := by
    rw [log_step hstep]
    exact hw.decided.cons hstop hstart

theorem Phase.sh {Q : Unit → World → Prop} (hw : Phase startNow starts w₀ w) (hstop : s ≠ .stop) (hstart : s ≠ .start)
    (hQ : ∀ d w', InstallStep h (.service s) w d w' → d.status = 0 → Phase startNow starts w₀ w' → Q () w') :
    Meets (fun s => InstallStep h (.service s)) (Service.sh s) w Q fun _ => Serving startNow w₀ :=
  meets_sh_of (fun _ _ hstep => (hw.step hstep hstop hstart).serving) fun d w' hstep _ hstatus =>
    hQ d w' hstep hstatus (hw.step hstep hstop hstart)

theorem stopGovernor_meets (hlog : Early w.log) :
    Meets (fun s => InstallStep h (.service s)) (Service.stopGovernor startNow) w
      (fun starts w' => Phase startNow starts w w') fun _ => Serving startNow w := by
  have hw : Serving startNow w w := ⟨.refl, rfl, rfl, rfl, hlog.orderly⟩
  rw [Service.stopGovernor, meets_bind]
  have hactive : ∀ d w', InstallStep h (.service .isActive) w d w' → Serving startNow w w' :=
    fun d w' hstep => hw.step hstep trivial
  refine meets_attempt_of hactive fun d w₁ hstep₁ _ => ?_
  have hw₁ := hactive d w₁ hstep₁
  have hlog₁ := log_step hstep₁
  rw [meets_ite]
  constructor
  · intro hstatus
    have hguard : Guarded startNow w₁.log (.service .stop) := by
      rw [hlog₁]
      exact ran_head hstatus
    rw [meets_bind]
    refine meets_sh_of (fun d w' hstep => hw₁.step hstep hguard) fun d₂ w₂ hstep₂ _ hstatus₂ => ?_
    have hw₂ := hw₁.step hstep₂ hguard
    have hlog₂ := log_step hstep₂
    refine meets_pure.mpr ⟨hw₂, ?_⟩
    rw [hlog₂]
    exact {
      orderly := hlog₂ ▸ hw₂.log
      down := .inr (ran_head hstatus₂)
      reason := fun _ => .inr (ran_head hstatus₂)
      needed := fun _ => rfl
      idle := fun hran => by
        rw [ran_cons_ne (by simp), hlog₁, ran_cons_ne (by simp)] at hran
        exact hlog.not_ran hran }
  · intro hstatus
    refine meets_pure.mpr ⟨hw₁, ?_⟩
    rw [hlog₁]
    exact {
      orderly := hlog₁ ▸ hw₁.log
      down := .inl (ran_head hstatus)
      reason := .inl
      needed := fun hstop => hstop.resolve_right fun hran => hlog.not_ran ((ran_cons_ne (by simp)).mp hran)
      idle := fun hran => hlog.not_ran ((ran_cons_ne (by simp)).mp hran) }

/-- The files of the service. -/
structure Files (h : Host) (w : World) : Prop where
  binary : ∃ content, h.binary = some content ∧ w.binary = some ⟨content, 0o755⟩
  unit : w.unit = some ⟨h.unit, 0o644⟩
  legacy : w.legacy = false
  enabled : w.enabled = true

theorem Files.same (hw : Files h w) (heq : w'.service = w.service) : Files h w' := by
  simp only [World.service, Prod.mk.injEq] at heq
  obtain ⟨hbinary, hunit, hlegacy, henabled⟩ := heq
  exact ⟨hbinary ▸ hw.binary, hunit ▸ hw.unit, hlegacy ▸ hw.legacy, henabled ▸ hw.enabled⟩

theorem installFiles_meets (hw : Phase startNow starts w₀ w) :
    Meets (fun s => InstallStep h (.service s)) Service.installFiles w
      (fun _ w' => Phase startNow starts w₀ w' ∧ Files h w') fun _ => Serving startNow w₀ := by
  rw [Service.installFiles, meets_bind]
  refine hw.sh (by simp) (by simp) fun d₁ w₁ hstep₁ hstatus₁ hw₁ => ?_
  obtain ⟨_, _, ⟨content, hcontent, rfl⟩, hservice₁⟩ := served_step hstep₁ hstatus₁
  rw [meets_bind]
  refine hw₁.sh (by simp) (by simp) fun d₂ w₂ hstep₂ hstatus₂ hw₂ => ?_
  obtain ⟨_, _, rfl, hservice₂⟩ := served_step hstep₂ hstatus₂
  rw [meets_bind]
  refine meets_attempt_of (fun d w' hstep => (hw₂.step hstep (by simp) (by simp)).serving)
    fun d₃ w₃ hstep₃ hsignal₃ => ?_
  have hw₃ := hw₂.step hstep₃ (by simp) (by simp)
  have hservice₃ := same_service hstep₃ (by simp)
  have hlegacy : d₃.status = 0 ↔ w₂.legacy ∨ h.vendorLegacy := by
    obtain ⟨_, _, -, ⟨-, -, htold⟩, -⟩ := hstep₃
    exact htold hsignal₃ rfl
  simp only [World.service, Prod.mk.injEq] at hservice₁ hservice₂ hservice₃
  -- what is left once the earlier version is gone
  have hrest : ∀ w₄, Phase startNow starts w₀ w₄ → w₄.binary = w₃.binary → w₄.unit = w₃.unit → w₄.legacy = false →
      Meets (fun s => InstallStep h (.service s)) (do Service.sh .daemonReload; Service.sh .enable) w₄
        (fun _ w' => Phase startNow starts w₀ w' ∧ Files h w') fun _ => Serving startNow w₀ := by
    intro w₄ hw₄ hbinary₄ hunit₄ hlegacy₄
    rw [meets_bind]
    refine hw₄.sh (by simp) (by simp) fun d₅ w₅ hstep₅ _ hw₅ => ?_
    have hservice₅ := same_service hstep₅ (by simp)
    refine hw₅.sh (by simp) (by simp) fun d₆ w₆ hstep₆ hstatus₆ hw₆ => ?_
    obtain ⟨_, _, rfl, hservice₆⟩ := served_step hstep₆ hstatus₆
    simp only [World.service, Prod.mk.injEq] at hservice₅ hservice₆
    refine ⟨hw₆, ⟨content, hcontent, ?_⟩, ?_, ?_, hservice₆.2.2.2⟩
    · rw [hservice₆.1, hservice₅.1, hbinary₄, hservice₃.1, hservice₂.1, hservice₁.1]
    · rw [hservice₆.2.1, hservice₅.2.1, hunit₄, hservice₃.2.1, hservice₂.2.1]
    · rw [hservice₆.2.2.1, hservice₅.2.2.1, hlegacy₄]
  rw [meets_bind, meets_when]
  constructor
  · intro _
    rw [meets_bind]
    refine hw₃.sh (by simp) (by simp) fun d₄ w₄ hstep₄ _ hw₄ => ?_
    have hservice₄ := same_service hstep₄ (by simp)
    refine hw₄.sh (by simp) (by simp) fun d₅ w₅ hstep₅ hstatus₅ hw₅ => ?_
    obtain ⟨_, _, rfl, hservice₅⟩ := served_step hstep₅ hstatus₅
    simp only [World.service, Prod.mk.injEq] at hservice₄ hservice₅
    exact hrest w₅ hw₅ (hservice₅.1.trans hservice₄.1) (hservice₅.2.1.trans hservice₄.2.1) hservice₅.2.2.1
  · intro hstatus
    rw [hlegacy, not_or, Bool.not_eq_true] at hstatus
    exact hrest w₃ hw₃ rfl rfl (hservice₃.2.2.1.trans hstatus.1)

/-- The governor is up again if it was stopped or is to be started, and else has not been started. -/
structure Ended (startNow : Bool) (log : Log) : Prop where
  up : (startNow = true ∨ Ran log .stop fun _ => True) → Up log
  down : ¬(startNow = true ∨ Ran log .stop fun _ => True) → ¬Ran log .start fun _ => True

theorem startGovernor_meets (hw : Phase startNow starts w₀ w) (hfiles : Files h w) :
    Meets (fun s => InstallStep h (.service s)) (Service.startGovernor starts) w
      (fun _ w' => Serving startNow w₀ w' ∧ Files h w' ∧ Ended startNow w'.log) fun _ => Serving startNow w₀ := by
  rw [Service.startGovernor, meets_ite]
  constructor
  · intro hstarts
    have hreason := hw.decided.reason hstarts
    rw [meets_bind]
    refine meets_sh_of (fun d w' hstep => hw.serving.step hstep hreason) fun d₁ w₁ hstep₁ _ hstatus₁ => ?_
    have hw₁ := hw.serving.step hstep₁ hreason
    have hfiles₁ := hfiles.same (same_service hstep₁ (by simp))
    rw [meets_bind]
    refine meets_sh_of (fun d w' hstep => hw₁.step hstep trivial) fun d₂ w₂ hstep₂ _ _ => ?_
    have hw₂ := hw₁.step hstep₂ trivial
    have hfiles₂ := hfiles₁.same (same_service hstep₂ (by simp))
    rw [meets_bind]
    refine meets_attempt_of (fun d w' hstep => hw₂.step hstep trivial) fun d₃ w₃ hstep₃ _ => ?_
    have hw₃ := hw₂.step hstep₃ trivial
    have hfiles₃ := hfiles₂.same (same_service hstep₃ (by simp))
    have hlog₃ : w₃.log = ⟨.service .isActive, d₃⟩ :: ⟨.service .sleep, d₂⟩ :: ⟨.service .start, d₁⟩ :: w.log := by
      rw [log_step hstep₃, log_step hstep₂, log_step hstep₁]
    rw [meets_bind]
    refine meets_orFail_of (fun d w' hstep => hw₃.step hstep trivial) fun hactive => ?_
    refine meets_sh_of (fun d w' hstep => hw₃.step hstep trivial) fun d₄ w₄ hstep₄ _ _ => ?_
    refine ⟨hw₃.step hstep₄ trivial, hfiles₃.same (same_service hstep₄ (by simp)), ?_⟩
    rw [log_step hstep₄, hlog₃]
    constructor
    · intro _
      refine ⟨[⟨_, d₄⟩], _, d₃, rfl, beq_iff_eq.mp hactive, (ran_head hstatus₁).cons, ?_⟩
      simp
    · intro hnot
      refine absurd (hreason.imp_right fun hran => ?_) hnot
      obtain ⟨d, -, hmem⟩ := hran
      exact ⟨d, trivial, .tail _ (.tail _ (.tail _ (.tail _ hmem)))⟩
  · intro hstarts
    refine hw.sh (by simp) (by simp) fun d w' hstep _ hw' => ?_
    refine ⟨hw'.serving, hfiles.same (same_service hstep (by simp)), ?_, fun _ => hw'.decided.idle⟩
    intro hstop
    exact absurd (hw'.decided.needed hstop) hstarts

theorem installService_meets (hlog : Early w.log) :
    Meets (fun s => InstallStep h (.service s)) (Service.installService o) w
      (fun _ w' => Serving o.startNow w w' ∧ Files h w' ∧ Ended o.startNow w'.log) fun _ => Serving o.startNow w := by
  rw [Service.installService, meets_bind]
  refine (stopGovernor_meets hlog).mono ?_ fun _ _ => id
  intro starts w₁ hw₁
  rw [meets_bind]
  refine (installFiles_meets hw₁).mono ?_ fun _ _ => id
  rintro _ w₂ ⟨hw₂, hfiles₂⟩
  exact startGovernor_meets hw₂ hfiles₂

end Cmp50Unlock.Install.Governor
