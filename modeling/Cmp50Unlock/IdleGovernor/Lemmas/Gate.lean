import Cmp50Unlock.IdleGovernor.Lemmas.Ticks

/-!
# The gate in front of the hardware

`validate` looks at positions of the list, once, when a request is applied. The commands that follow address cards by
index, from the profile, from the map and from the list; each of these ways leads to supported cards only.
-/

namespace Cmp50Unlock.IdleGovernor

open Lib

/-- A card of the profile that is followed, while it is followed. -/
structure Admitted (c : Config) (g : Governor) (i : Int) : Prop where
  active : g.active
  governs : Governs c g.control
  index : i ∈ g.control.indices
  entry : (g.states i).isSome

/-- What is known when an operation is issued. -/
def Gate (c : Config) (w : World) : Op → Prop
  | .call (.setPState i pstate) => SupportedIndex c i ∧ (pstate = 8 → Admitted c w.gov i)
  | .call (.setFan i percent) => Admitted c w.gov i ∧ 0 < w.gov.control.idleFanPercent ∧
      percent = BitVec.ofInt 32 w.gov.control.idleFanPercent
  | .call cmd => SupportedIndex c cmd.index
  | .utilization i | .temperature i => Admitted c w.gov i
  | _ => True

section
variable {c : Config} {A : Answers} {w w' : World} {i : Int} {o : Op}

theorem Admitted.supported {g : Governor} (h : Admitted c g i) : SupportedIndex c i :=
  validate_supported h.governs.validated h.index

theorem Inv.admitted (h : Inv c w.gov) (hactive : w.gov.active) (hi : i ∈ w.gov.control.indices) :
    Admitted c w.gov i where
  active := hactive
  governs := h.governs hactive
  index := hi
  entry := (h.domain i).mpr (validate_supported (h.governs hactive).validated hi).mem

/-- Only the request, the active flag and the keys of the map matter. -/
theorem Admitted.same {g g' : Governor} (h : Admitted c g i)
    (hcontrol : g'.control = g.control ∧ g'.active = g.active)
    (hentry : (g'.states i).isSome = (g.states i).isSome) : Admitted c g' i where
  active := hcontrol.2.trans h.active
  governs := hcontrol.1.symm ▸ h.governs
  index := hcontrol.1.symm ▸ h.index
  entry := hentry.trans h.entry

theorem Admitted.exec {α : Type} {p : Gov α} {S : Op → Prop} {Q : α → Prop} {r : α} (h : Admitted c w.gov i)
    (hp : p.Within S Q) (hS : ∀ o, S o → o.KeepsControl) (he : p.Exec (Step A) w r w') : Admitted c w'.gov i :=
  h.same (within_keepsControl hp hS he) (exec_isSome he)

/-- A program of a card of the profile issues every operation while the card is in it. -/
theorem admitted_wp {α : Type} {p : Gov α} {S : Op → Prop} {Q : α → Prop} (hp : p.Within S Q)
    (hS : ∀ o, S o → o.KeepsControl) (hG : ∀ o w, S o → Admitted c w.gov i → Gate c w o)
    (h : Admitted c w.gov i) : p.wp (Step A) (Gate c) w fun _ w' => Admitted c w'.gov i := by
  refine (hp.wp (I := fun w => Admitted c w.gov i) (fun o w a w' ho hst hw => ?_)
    (fun o w ho hw => hG o w ho hw) h).mono
    fun _ _ h => h.2
  obtain ⟨-, d, -, rfl⟩ := hst
  exact hw.same (hS o ho).gov isSome_states_after

/-! ## Releases -/

theorem clockCall_gate (h : SupportedIndex c i) : Gate c w (.call (c.clockCall i)) := by
  unfold Config.clockCall
  split <;> exact h

theorem Op.Restores.gate (ho : o.Restores c i) (h : SupportedIndex c i) : Gate c w o := by
  cases o with
  | call cmd =>
      rcases mem_releaseCalls.mp ho with rfl | rfl | ⟨-, rfl⟩ | rfl
      · exact h
      · exact ⟨h, fun h8 => absurd h8 (by decide)⟩
      · exact h
      · exact clockCall_gate h
  | assign x => trivial
  | getGov => trivial
  | _ => exact ho.elim

theorem restores_gate {α : Type} {p : Gov α} (hp : p.Uses (Op.Restores c i)) (h : SupportedIndex c i) :
    p.wp (Step A) (Gate c) w fun r w' => p.Exec (Step A) w r w' :=
  Prog.wp_iff.mpr ⟨fun _ _ hi => (hp.issued hi).gate h, fun _ _ he => he⟩

theorem releaseHeld_gate (hinv : Inv c w.gov) : (releaseHeld c i).wp (Step A) (Gate c) w fun _ _ => True := by
  simp only [releaseHeld, Prog.wp_bind, wp_getGov, Prog.wp_ite, Prog.wp_pure]
  refine ⟨trivial, fun _ => ⟨fun hheld => ?_, fun _ => trivial⟩⟩
  have hlow : (w.gov.state i).lowPower = true := by
    rcases Bool.or_eq_true_iff.mp hheld with hlow | hmanual
    · exact hlow
    · exact hinv.fan i hmanual
  obtain ⟨hactive, hi⟩ := hinv.held i hlow
  exact (restores_gate (release_restores i) (hinv.admitted hactive hi).supported).mono fun _ _ _ => trivial

theorem releaseAll_gate (hinv : Inv c w.gov) :
    (releaseAll c).wp (Step A) (Gate c) w fun r w' => (releaseAll c).Exec (Step A) w r w' := by
  refine Prog.wp.mono (Q := fun r w' => True ∧ (releaseAll c).Exec (Step A) w r w') (Prog.wp.with_exec ?_)
    fun _ _ h => h.2
  simp only [releaseAll, Prog.wp_bind, wp_rangeStates]
  refine ⟨trivial, fun keys _ _ _ => ?_⟩
  refine Prog.wp.mono (Prog.wp_forM (I := fun w => Inv c w.gov) (fun j _ w₁ hw₁ => ?_) hinv) fun _ _ _ => trivial
  refine (releaseHeld_gate hw₁).with_exec.mono fun _ w₂ hpost => ?_
  obtain ⟨_, he⟩ := hpost
  have huses : (releaseHeld c j).Uses (Op.Releases c) := (releaseHeld_uses j).mono (fun _ h => h.2) fun _ h => h
  exact ((inv_of_sound (sound_of_releases huses) hw₁).exec he).2

theorem cleanup_gate : (cleanup c).wp (Step A) (Gate c) w fun r w' => (cleanup c).Exec (Step A) w r w' := by
  have huses : (cleanup c).Uses fun o => ∃ i, SupportedIndex c i ∧ o.Restores c i :=
    Prog.uses_foldlM (fun gpu hgpu result => (cleanupGPU_restores result gpu).mono
      (fun _ h => ⟨gpu.index, ⟨gpu, hgpu, rfl, h.1⟩, h.2⟩) fun _ h => h) none
  refine Prog.wp_iff.mpr ⟨fun o w' hissued => ?_, fun _ _ he => he⟩
  obtain ⟨i, hi, ho⟩ := huses.issued hissued
  exact ho.gate hi

/-! ## Polls -/

theorem Op.Lowers.gate (ho : o.Lowers c i) (h : Admitted c w.gov i) : Gate c w o := by
  cases o with
  | call cmd =>
      cases cmd with
      | setPState j pstate =>
          obtain rfl : j = i := ho.1
          exact ⟨h.supported, fun _ => h⟩
      | setFan j percent => exact ho.elim
      | resetLockedClocks j | setLockedClocks j lo hi | setCoreOffset j offset | setFanAuto j =>
          obtain rfl : j = i := ho.1
          exact h.supported
  | assign x => trivial
  | _ => exact ho.elim

theorem Op.Lowers.keepsControl (ho : o.Lowers c i) : o.KeepsControl := ho.onCard.keepsControl

theorem idleFan_gate {t : BitVec 32} (h : Admitted c w.gov i) (hwant : w.gov.control.idleFanPercent > 0) :
    (idleFan c i w.gov t).wp (Step A) (Gate c) w fun _ _ => True := by
  simp only [idleFan, Prog.wp_bind, Prog.wp_ite, wp_call, Prog.wp_pure]
  refine ⟨fun _ => ⟨fun _ => ⟨h.supported, ?_⟩, fun _ => trivial⟩, fun _ =>
    ⟨fun _ => ⟨⟨h, hwant, rfl⟩, ?_⟩, fun _ => trivial⟩⟩
  all_goals
    rintro (_ | err) _
    · exact ⟨trivial, fun _ _ _ => trivial⟩
    · trivial

theorem pollFan_gate (h : Admitted c w.gov i) : (pollFan c i).wp (Step A) (Gate c) w fun _ _ => True := by
  simp only [pollFan, Prog.wp_bind, wp_getGov, Prog.wp_ite, wp_temperature, Prog.wp_pure]
  refine ⟨trivial, fun _ => ⟨fun hwant => ⟨h, ?_⟩, fun _ => trivial⟩⟩
  rintro (err | t) _
  · trivial
  · exact idleFan_gate (w := (w.next .getGov w.gov).next (.temperature i) (.ok t)) h hwant.2

theorem pollIdle_gate (h : Admitted c w.gov i) : (pollIdle c i).wp (Step A) (Gate c) w fun _ _ => True := by
  simp only [pollIdle, Prog.wp_bind, wp_getGov, wp_assign, Prog.wp_ite, Prog.wp_pure]
  refine ⟨trivial, fun _ => ⟨trivial, fun _ => ⟨trivial, fun _ => ?_⟩⟩⟩
  generalize hw₁ : World.next (World.next (World.next w .getGov w.gov)
    (.assign (.idlePolls i ((w.gov.state i).idlePolls + 1))) ()) .getGov _ = w₁
  have h₁ : Admitted c w₁.gov i := by
    rw [← hw₁]
    exact h.same ⟨rfl, rfl⟩ (isSome_states_update w.gov _)
  refine ⟨fun _ => ?_, fun _ => pollFan_gate h₁⟩
  refine (admitted_wp (lowPower_lowers i) (fun _ => Op.Lowers.keepsControl) (fun _ _ => Op.Lowers.gate) h₁).mono
    fun r w₂ h₂ => ?_
  cases r with
  | none => exact pollFan_gate h₂
  | some err => trivial

theorem pollBusy_gate (h : Admitted c w.gov i) : (pollBusy c i).wp (Step A) (Gate c) w fun _ _ => True := by
  simp only [pollBusy, Prog.wp_bind, wp_getGov, wp_assign, Prog.wp_ite, Prog.wp_pure]
  refine ⟨trivial, fun _ => ⟨trivial, fun _ => ⟨fun _ => ?_, fun _ => trivial⟩⟩⟩
  exact (restores_gate (release_restores i) h.supported).mono fun _ _ _ => trivial

theorem pollCard_gate (h : Admitted c w.gov i) : (pollCard c i).wp (Step A) (Gate c) w fun _ _ => True := by
  rw [pollCard, Prog.wp_bind, wp_utilization]
  refine ⟨h, ?_⟩
  rintro (err | u) _
  · trivial
  · exact Prog.wp_ite.mpr ⟨fun _ => pollBusy_gate h, fun _ => pollIdle_gate h⟩

theorem poll_gate (hinv : Inv c w.gov) (hactive : w.gov.active) :
    (poll c).wp (Step A) (Gate c) w fun _ _ => True := by
  rw [poll, Prog.wp_bind, wp_getGov]
  refine ⟨trivial, fun _ => ?_⟩
  refine Prog.wp.mono (Prog.wp_each (I := fun w' => ∀ i ∈ w.gov.control.indices, Admitted c w'.gov i)
    (Q := fun _ _ => True) (fun i hi w₁ hw₁ => ?_) fun i hi => hinv.admitted hactive hi) fun _ _ _ => trivial
  refine (pollCard_gate (hw₁ i hi)).with_exec.mono fun r w₂ hpost => ?_
  obtain ⟨_, he⟩ := hpost
  cases r with
  | none => exact fun j hj => (hw₁ j hj).exec (pollCard_uses i) (fun _ h => h.keepsControl) he
  | some err => trivial

/-! ## Runs -/

theorem disable_gate (hinv : Inv c w.gov) : (disable c).wp (Step A) (Gate c) w fun _ _ => True := by
  simp only [disable, Prog.wp_bind, wp_assign, wp_publishInactive, Prog.wp_pure]
  exact (releaseAll_gate hinv).mono fun _ _ _ => ⟨trivial, fun _ => ⟨trivial, fun _ _ _ _ => trivial⟩⟩

theorem fail_gate (err : GoError) : (fail c err).wp (Step A) (Gate c) w fun _ _ => True := by
  simp only [fail, Prog.wp_bind, wp_assign, wp_publishError]
  exact cleanup_gate.mono fun _ _ _ => ⟨trivial, fun _ => ⟨trivial, fun _ _ _ => trivial⟩⟩

theorem applyControl_gate {control : Control} (hinv : Inv c w.gov) :
    (applyControl c control).wp (Step A) (Gate c) w fun _ _ => True := by
  simp only [applyControl, Prog.wp_bind, wp_assign, wp_publishActive]
  refine (releaseAll_gate hinv).mono fun _ _ _ => ⟨trivial, fun _ => ⟨trivial, ?_⟩⟩
  rintro (_ | err) d _ _
  · trivial
  · exact ⟨trivial, fun _ _ _ => trivial⟩

theorem syncControl_gate (hinv : Inv c w.gov) : (syncControl c).wp (Step A) (Gate c) w fun _ w' => Inv c w'.gov := by
  refine ((?_ : (syncControl c).wp (Step A) (Gate c) w fun _ _ => True).and (inv_of_sound syncControl_spec hinv)).imp
    (fun _ _ h => h.1) fun _ _ h => h.2.2
  rw [syncControl, Prog.wp_bind, wp_load]
  refine ⟨trivial, ?_⟩
  rintro (err | control) d _ _
  · trivial
  · refine Prog.wp_ite.mpr ⟨fun _ => ?_, fun _ => ?_⟩
    · rw [Prog.wp_bind]
      exact (disable_gate (w := w.after .loadControl (.ok control) d) hinv).mono fun _ _ _ => trivial
    simp only [changeControl, Prog.wp_bind, wp_getGov, Prog.wp_ite, Prog.wp_pure]
    refine ⟨trivial, fun _ => ⟨fun _ => trivial, fun _ => ?_⟩⟩
    cases validate c control with
    | some err => trivial
    | none => exact applyControl_gate (w := (w.after .loadControl (.ok control) d).next .getGov w.gov) hinv

theorem run_gate {l : Label} (h : RunInv c l w) : (run c l).wp (Step A) (Gate c) w fun _ _ => True := by
  cases l with
  | entry =>
      simp only [run, Prog.wp_bind, Prog.wp_pure]
      exact cleanup_gate.mono fun _ _ _ => trivial
  | startup =>
      simp only [run, startup, Prog.wp_bind, Prog.wp_pure]
      refine (syncControl_gate h.inv).mono fun r w₁ _ => ?_
      cases r with
      | none => trivial
      | some err => exact Prog.wp_ite.mpr ⟨fun _ => fail_gate err, fun _ => trivial⟩
  | wait =>
      rw [run, Prog.wp_bind, wp_select]
      refine ⟨trivial, ?_⟩
      rintro (_ | _ | _) _
      · simp only [Prog.wp_bind, Prog.wp_pure]
        exact cleanup_gate.mono fun _ _ _ => trivial
      · simp only [controlTick, Prog.wp_bind, Prog.wp_pure]
        refine (syncControl_gate (w := w.next .select .controlTicker) h.inv).mono fun r w₁ hinv₁ => ?_
        cases r with
        | none => trivial
        | some err => exact Prog.wp_ite.mpr ⟨fun _ => disable_gate hinv₁, fun _ => fail_gate err⟩
      · simp only [gpuTick, Prog.wp_bind, wp_getGov, Prog.wp_ite, Prog.wp_pure]
        refine ⟨trivial, fun _ => ⟨fun hactive => ?_, fun _ => trivial⟩⟩
        refine (poll_gate (w := (w.next .select .gpuTicker).next .getGov w.gov) h.inv hactive).mono fun r w₁ _ => ?_
        cases r with
        | none => trivial
        | some err => exact fail_gate err

/-- A fan percentage that `LoadControl` accepts, and that is not zero, survives the conversion. -/
theorem fanPercent_range {control : Control} (h : control.Loadable) (hpos : 0 < control.idleFanPercent) :
    15 ≤ (BitVec.ofInt 32 control.idleFanPercent).toNat ∧ (BitVec.ofInt 32 control.idleFanPercent).toNat ≤ 100 := by
  have hrange : 15 ≤ control.idleFanPercent ∧ control.idleFanPercent ≤ 100 := h.fan.resolve_left (by omega)
  rw [BitVec.toNat_ofInt]
  omega

variable {cards : Int → Card} {dir : Dir}

/-- The gate holds wherever an operation is issued. -/
theorem Issues.gate (h : Issues c A cards dir o w) : Gate c w o := by
  obtain ⟨l, w₁, hreach, hissued⟩ := h
  exact (run_gate (ComesTo.runInv hreach)).issued hissued

end

end Cmp50Unlock.IdleGovernor
