import Cmp50Unlock.Stockflow.Lemmas.Geometry
import Cmp50Unlock.Stockflow.Lemmas.Jumps
import Cmp50Unlock.Stockflow.Lemmas.Routine

/-!
# The range along the whole function

Each part of `kgspBootstrap_TU102` goes on with a range that is kept or learned, or ends the attempt as it is to
be ended.
-/

namespace Cmp50Unlock.Stockflow

open Lib

section
variable {stock : StockCode} {pGpu : ObjGpu} {bootMode : BootMode} {s : Slots} {w w' : World}

/-! ## Parts without FWSEC -/

theorem Op.Routine.keepsGeometry {o : Op} (h : o.Routine pGpu) : o.KeepsGeometry :=
  ⟨fun ho => by subst ho; exact h, fun _ _ _ ho => by subst ho; exact h⟩

theorem riscvBootargs_keeps (idx : Nat) : (riscvBootargs idx).Within Op.KeepsGeometry ToStock := by
  simp [riscvBootargs, rdNeStock, fullSpeedLost, Op.keepsGeometry_iff, ToStock]

theorem joinStockBooter_keeps (pGpu : ObjGpu) : (joinStockBooter pGpu).Within Op.KeepsGeometry ToStock := by
  simp [joinStockBooter, kgspCmp50SetExploitMode, Op.keepsGeometry_iff, ToStock]

theorem stockBooterPart_keeps {rejoin : Bool} :
    (stockBooterPart stock pGpu bootMode rejoin).Within Op.KeepsGeometry ToStock := by
  refine ((stockBooterPart_routine rejoin).and (stockBooterPart_returns rejoin)).mono ?_ ?_
  · exact fun o ho => ho.1.keepsGeometry
  · exact fun e he l hl => absurd hl (he.2 l)

/-! ## Parts with a replay -/

/-- The postcondition of a part that goes nowhere but to the stock Booter. -/
def PartOutcome (pGpu : ObjGpu) (bootMode : BootMode) (s : Slots) : Exit Label NvStatus → World → Prop
  | .goto l, w => (∃ rejoin, l = .cmp50V525StockBooter rejoin) ∧ Geometry pGpu bootMode s w
  | .ret r, w => Outcome pGpu bootMode s r w

theorem geometry_part {p : Driver (Exit Label NvStatus)} (h : p.Within Op.KeepsGeometry ToStock)
    (hw : Geometry pGpu bootMode s w) : p.wp Step (fun _ _ => True) w (PartOutcome pGpu bootMode s) := by
  refine Prog.wp_exec.mono fun e w' he => ?_
  have hw' := geometry_frame h (fun _ ho => ho) he hw
  cases e with
  | goto l => exact ⟨h.result he l rfl, hw'⟩
  | ret r => exact hw'.outcome r

theorem refwsec_geometry (hw : Geometry pGpu bootMode s w) :
    (refwsec (cmp50StockflowGpuIndex pGpu)).wp Step (fun _ _ => True) w
      (OrOutcome pGpu bootMode s (Geometry pGpu bootMode s)) := by
  rcases hw with hk | hl
  · refine (refwsec_kept hk).mono fun r w' h => ?_
    cases r with
    | none => exact .inl h
    | some status => exact h
  · have huses : (refwsec (cmp50StockflowGpuIndex pGpu)).Uses fun o => ∀ b i v, o ≠ .act (.setWpr b i v) := by
      simp [refwsec, wprNeStock, readGate]
    refine Prog.wp_exec.mono fun r w' he => ?_
    have hl' := learned_frame huses (fun _ ho => ho) he hl
    cases r with
    | none => exact .inr hl'
    | some status => exact .inr hl'

theorem commitTransaction_geometry (hcmp : isCmp50ComputeUnlock pGpu) (hw : Geometry pGpu bootMode s w) :
    (commitTransaction pGpu (cmp50StockflowGpuIndex pGpu)).wp Step (fun _ _ => True) w
    (PartOutcome pGpu bootMode s) := by
  simp only [commitTransaction, Prog.wp_bind]
  refine Prog.wp_exec.mono fun r₁ w₁ he₁ => ?_
  have hw₁ := geometry_frame (exploitBooter_routine hcmp) (fun _ ho => ho.keepsGeometry) he₁ hw
  cases r₁ with
  | some status => exact hw₁.outcome status
  | none =>
      simp only [Prog.wp_bind]
      refine Prog.wp_exec.mono fun r₂ w₂ he₂ => ?_
      have hw₂ := geometry_frame (@restoreStock_aside pGpu) (fun _ ho => ho.1.keepsGeometry) he₂ hw₁
      cases r₂ with
      | some status => exact hw₂.outcome status
      | none =>
          simp only [Prog.wp_bind, wp_act, wp_print, wp_printRegs, true_and]
          intro v
          have hcommit : ∀ o ∈ [Op.act (.setFlag .phaseCommitted (cmp50StockflowGpuIndex pGpu) true),
              .logRd [.sec2ResetPlm], .act (.print .phaseBoundaryPass), .act (.print .bdfState)], o.KeepsGeometry := by
            simp [Op.keepsGeometry_iff]
          have hw₃ := geometry_after (a := ()) (hcommit _ (.head _)) hw₂
          have hw₃ := geometry_after (a := v) (hcommit _ (.tail _ (.head _))) hw₃
          have hw₃ := geometry_after (a := ()) (hcommit _ (.tail _ (.tail _ (.head _)))) hw₃
          have hw₃ := geometry_after (a := ()) (hcommit _ (.tail _ (.tail _ (.tail _ (.head _))))) hw₃
          refine (refwsec_geometry hw₃).mono fun r₃ w₄ h₄ => ?_
          cases r₃ with
          | some status => exact h₄
          | none => exact geometry_part (riscvBootargs_keeps _) h₄

theorem retryRejoin_geometry (hw : Kept pGpu bootMode s w) :
    (retryRejoin pGpu (cmp50StockflowGpuIndex pGpu)).wp Step (fun _ _ => True) w (PartOutcome pGpu bootMode s) := by
  have hjoin : ∀ w', Kept pGpu bootMode s w' →
      (joinStockBooter pGpu).wp Step (fun _ _ => True) w' (PartOutcome pGpu bootMode s) :=
    fun w' h => geometry_part (joinStockBooter_keeps pGpu) (.inl h)
  have hlost : ∀ lo hi, (orElse (pure (!retryWprAccepted lo hi)) fullSpeedLost).Uses Op.KeepsGeometry := by
    simp [fullSpeedLost, Op.keepsGeometry_iff]
  simp only [retryRejoin, Prog.wp_bind, wp_rd, true_and]
  intro lo hi
  have hw : Kept pGpu bootMode s ((w.after (.rd .wpr2AddrLo) lo).after (.rd .wpr2AddrHi) hi) := by
    refine kept_after ?_ (kept_after ?_ hw) <;> simp [Op.keepsGeometry_iff]
  refine Prog.wp_exec.mono fun lost w₁ he₁ => ?_
  have hw₁ := kept_frame (hlost lo hi) (fun _ ho => ho) he₁ hw
  simp only [Prog.wp_ite, Prog.wp_bind, Prog.wp_pure, wp_print, wp_printRegs, wp_getFlag, true_and]
  refine ⟨fun _ v => (hw₁.printRegs _ _ v).outcome _, fun _ => ?_⟩
  have hw₂ : Kept pGpu bootMode s (w₁.after (.getFlag .gspReady (cmp50StockflowGpuIndex pGpu))
      (w₁.slots.flag .gspReady (cmp50StockflowGpuIndex pGpu))) :=
    kept_after (by simp [Op.keepsGeometry_iff]) hw₁
  refine ⟨fun _ => (persistentReady_kept hw₂).mono fun r w₃ h₃ => ?_, fun _ => hjoin _ hw₂⟩
  cases r with
  | some status => exact h₃
  | none => exact hjoin _ h₃

/-! ## The first readings -/

/-- No value of WPR2 was read yet. -/
structure Unread (stock : StockCode) (pGpu : ObjGpu) (bootMode : BootMode) (s : Slots) (w : World) : Prop where
  wpr : ∀ b, w.slots.wpr b (cmp50StockflowGpuIndex pGpu) = s.wpr b (cmp50StockflowGpuIndex pGpu)
  lo : firstRead .wpr2AddrLo w.log = none
  hi : firstRead .wpr2AddrHi w.log = none
  clean : stock.admitsFwsec bootMode = false → Clean s (cmp50StockflowGpuIndex pGpu) w.log
  uncommitted : bootMode = .normal → s.flag .phaseCommitted (cmp50StockflowGpuIndex pGpu) = false

theorem firstRead_of_append {r : Reg} {log log' : List Event} (h : firstRead r (log' ++ log) = none) :
    firstRead r log' = none := by
  induction log' with
  | nil => rfl
  | cons e log' ih =>
      rw [List.cons_append, firstRead_step, Option.or_eq_none_iff] at h
      rw [firstRead_step, ih h.1, h.2]
      rfl

theorem not_firstReadDiffers {i : Nat} {log : List Event} (h : firstRead .wpr2AddrLo log = none) :
    ¬ FirstReadDiffers s i log := by
  rintro ⟨lo, hi, hlo, -⟩
  exact absurd (h.symm.trans hlo) (by simp)

theorem Unread.outcome (h : Unread stock pGpu bootMode s w) (r : NvStatus) : Outcome pGpu bootMode s r w := by
  refine .inl ⟨⟨h.wpr .lo, h.wpr .hi, fun since before heq hd => ?_⟩, fun hr => ?_⟩
  · exact absurd hd (not_firstReadDiffers (firstRead_of_append (heq ▸ h.lo)))
  · exact not_firstReadDiffers h.lo hr.2.2

/-- The operation stores no range and does not read WPR2. -/
@[mk_iff]
structure Op.KeepsUnread (o : Op) : Prop where
  not_store : ∀ b i v, o ≠ .act (.setWpr b i v)
  not_lo : o ≠ .rd .wpr2AddrLo
  not_hi : o ≠ .rd .wpr2AddrHi

theorem unread_after {o : Op} {a : o.Ans} (ho : o.KeepsUnread)
    (hf : stock.admitsFwsec bootMode = false → o ≠ .hal .kgspExecuteFwsec) (hw : Unread stock pGpu bootMode s w) :
    Unread stock pGpu bootMode s (w.after o a) := by
  have hwpr : (w.slots.step o).wpr = w.slots.wpr := wpr_step ho.not_store
  refine ⟨fun b => ?_, ?_, ?_, fun ha => ?_, hw.uncommitted⟩
  · rw [slots_after, hwpr, hw.wpr b]
  · rw [log_after, firstRead_step, hw.lo, firstRead_other ho.not_lo]
    rfl
  · rw [log_after, firstRead_step, hw.hi, firstRead_other ho.not_hi]
    rfl
  · exact (hw.clean ha).cons fun heq => hf ha (by cases heq; rfl)

theorem unread_frame {α : Type} {p : Driver α} {S : Op → Prop} {R : α → Prop} {r : α} (h : p.Within S R)
    (hS : ∀ o, S o → o.KeepsUnread ∧ (stock.admitsFwsec bootMode = false → o ≠ .hal .kgspExecuteFwsec))
    (he : p.Exec Step w r w') (hw : Unread stock pGpu bootMode s w) : R r ∧ Unread stock pGpu bootMode s w' := by
  refine h.exec (I := Unread stock pGpu bootMode s) (fun o _ _ _ ho hst hI => ?_) he hw
  rw [hst.2]
  exact unread_after (hS o ho).1 (hS o ho).2 hI

/-- The first reading of WPR2: if it is no other stock range, the captured one is kept. -/
theorem Unread.kept {lo hi : BitVec 32} (h : Unread stock pGpu bootMode s w)
    (hsame : SameRange s (cmp50StockflowGpuIndex pGpu) lo hi) :
    Kept pGpu bootMode s ((w.after (.rd .wpr2AddrLo) lo).after (.rd .wpr2AddrHi) hi) := by
  have hread : ∀ log, firstRead .wpr2AddrLo log = none → firstRead .wpr2AddrHi log = none →
      FirstReadSame s (cmp50StockflowGpuIndex pGpu) (⟨.rd .wpr2AddrHi, hi⟩ :: ⟨.rd .wpr2AddrLo, lo⟩ :: log) :=
    fun log hlo hhi => ⟨lo, hi, by simp [firstRead, hlo], by simp [firstRead, hhi], hsame⟩
  refine ⟨h.wpr .lo, h.wpr .hi, fun since before heq => ?_, fun _ _ => hread _ h.lo h.hi⟩
  obtain ⟨e₁, e₂, since', rfl⟩ : ∃ e₁ e₂ since', since = e₁ :: e₂ :: since' := by
    rcases since with _ | ⟨e₁, _ | ⟨e₂, since'⟩⟩
    · cases heq
    · cases heq
    · exact ⟨e₁, e₂, since', rfl⟩
  simp only [log_after, List.cons_append, List.cons.injEq] at heq
  obtain ⟨rfl, rfl, hlog⟩ := heq
  exact hread since' (firstRead_of_append (hlog ▸ h.lo)) (firstRead_of_append (hlog ▸ h.hi))

/-- What is appended to the log without an FWSEC run keeps the captured range if the pair stays. -/
theorem Kept.extend (hw : Kept pGpu bootMode s w) {tail : List Event} (hlog : w'.log = tail ++ w.log)
    (htail : fwsecOk ∉ tail)
    (hwpr : ∀ b, w'.slots.wpr b (cmp50StockflowGpuIndex pGpu) = w.slots.wpr b (cmp50StockflowGpuIndex pGpu)) :
    Kept pGpu bootMode s w' := by
  refine ⟨(hwpr .lo).trans hw.lo, (hwpr .hi).trans hw.hi, ?_, fun hm hc => hlog ▸ (hw.first hm hc).append tail⟩
  rw [hlog]
  clear hlog
  induction tail with
  | nil => exact hw.clean
  | cons e tail ih =>
      rw [List.mem_cons, not_or] at htail
      exact (ih htail.2).cons (Ne.symm htail.1)

theorem captureStockRange_log {idx : Nat} {lo hi : BitVec 32} {r : Option NvStatus}
    (he : (captureStockRange idx lo hi).Exec Step w r w') : ∃ tail, w'.log = tail ++ w.log ∧ fwsecOk ∉ tail := by
  have huses : (captureStockRange idx lo hi).Uses fun o => o ≠ .hal .kgspExecuteFwsec := by
    simp [captureStockRange]
  refine (huses.exec (I := fun w' => ∃ tail, w'.log = tail ++ w.log ∧ fwsecOk ∉ tail) ?_ he ⟨[], rfl, by simp⟩).2
  rintro o w₁ a w₂ ho hst ⟨tail, hlog, htail⟩
  refine ⟨⟨o, a⟩ :: tail, by simp [hst.2, hlog], ?_⟩
  rw [List.mem_cons, not_or]
  exact ⟨fun heq => ho (by cases heq; rfl), htail⟩

theorem captureStockRange_geometry {lo hi : BitVec 32} (hb : w.slots.Between) (hm : bootMode = .normal)
    (hc : s.flag .phaseCommitted (cmp50StockflowGpuIndex pGpu) = false)
    (hwpr : ∀ b, w.slots.wpr b (cmp50StockflowGpuIndex pGpu) = s.wpr b (cmp50StockflowGpuIndex pGpu))
    (hlo : firstRead .wpr2AddrLo w.log = some lo) (hhi : firstRead .wpr2AddrHi w.log = some hi)
    (hkept : SameRange s (cmp50StockflowGpuIndex pGpu) lo hi → Kept pGpu bootMode s w) :
    (captureStockRange (cmp50StockflowGpuIndex pGpu) lo hi).wp Step (fun _ _ => True) w fun _ w' =>
      Geometry pGpu bootMode s w' := by
  have hwp : (captureStockRange (cmp50StockflowGpuIndex pGpu) lo hi).wp Step
      (Op.Checked pGpu bootMode fun _ => True) w _ := captureStockRange_wp hb
  refine (hwp.guard fun _ _ _ => trivial).with_exec.mono fun r w' ⟨⟨_, h⟩, he⟩ => ?_
  obtain ⟨tail, hlog, htail⟩ := captureStockRange_log he
  rcases h with ⟨hrange, -, hs⟩ | ⟨hnot, hs, -⟩
  · have hlo' : w'.slots.wpr .lo (cmp50StockflowGpuIndex pGpu) = lo := by simp [hs, Slots.setWpr]
    have hhi' : w'.slots.wpr .hi (cmp50StockflowGpuIndex pGpu) = hi := by simp [hs, Slots.setWpr]
    by_cases hsame : lo = s.wpr .lo (cmp50StockflowGpuIndex pGpu) ∧ hi = s.wpr .hi (cmp50StockflowGpuIndex pGpu)
    · refine .inl ((hkept fun _ => hsame).extend hlog htail fun b => ?_)
      cases b with
      | lo => exact hlo'.trans (hsame.1.trans (hwpr .lo).symm)
      | hi => exact hhi'.trans (hsame.2.trans (hwpr .hi).symm)
    · refine .inr ⟨hm, hc, ?_, ?_, ?_, by rwa [hlo', hhi']⟩
      · rw [hlog, firstRead_append hlo, hlo']
      · rw [hlog, firstRead_append hhi, hhi']
      · rwa [Slots.HasRange, hlo', hhi']
  · exact .inl ((hkept fun hrange => absurd hrange hnot).extend hlog htail fun b => by rw [hs])

theorem commitBlock_geometry (hcmp : isCmp50ComputeUnlock pGpu) (hw : Unread stock pGpu bootMode s w)
    (hb : w.slots.Between) (hm : bootMode = .normal) :
    (commitBlock pGpu (cmp50StockflowGpuIndex pGpu)).wp Step (fun _ _ => True) w (PartOutcome pGpu bootMode s) := by
  simp only [commitBlock, Prog.wp_bind, Prog.wp_ite, Prog.wp_pure, wp_rd, wp_print, wp_printRegs, true_and]
  intro lo hi v
  have hkept := fun hsame : SameRange s (cmp50StockflowGpuIndex pGpu) lo hi =>
    (hw.kept hsame).printRegs .postFwsecPreGspEntry [.fecsFeaturePlm, .sec2ResetPlm] v
  refine ⟨fun hbad => ?_, fun _ => ?_⟩
  · have hnot : ¬ IsStockRange lo hi := fun h => hbad (.inr (isStockRange_iff.mp h).1)
    exact ((hkept fun h => absurd h hnot).print .unexpectedPostFwsecWpr).outcome _
  · have hlo : firstRead .wpr2AddrLo (⟨.rd .wpr2AddrHi, hi⟩ :: ⟨.rd .wpr2AddrLo, lo⟩ :: w.log) = some lo := by
      simp [firstRead, hw.lo]
    have hhi : firstRead .wpr2AddrHi (⟨.rd .wpr2AddrHi, hi⟩ :: ⟨.rd .wpr2AddrLo, lo⟩ :: w.log) = some hi := by
      simp [firstRead, hw.hi]
    refine (captureStockRange_geometry ?_ hm (hw.uncommitted hm) ?_ (firstRead_cons (firstRead_cons hlo))
      (firstRead_cons (firstRead_cons hhi)) hkept).mono fun r w' h => ?_
    · exact hb
    · exact hw.wpr
    · cases r with
      | some status => exact h.outcome status
      | none => exact commitTransaction_geometry hcmp h

/-! ## Scrubber and FWSEC -/

theorem scrubberAndFwsec_geometry (hcmp : isCmp50ComputeUnlock pGpu) (hw : Unread stock pGpu bootMode s w) {idx : Nat} :
    (scrubberAndFwsec stock pGpu bootMode idx).wp Step (fun _ _ => True) w fun e w' =>
      Unread stock pGpu bootMode s w' ∧
        ∀ l, e = .goto l → l = .cmp50V274Commit ∨ l = .cmp50V525StockBooter false ∧
        stock.admitsFwsec bootMode = false := by
  have huses : (scrubberAndFwsec stock pGpu bootMode idx).Within
      (fun o => o.KeepsUnread ∧ (stock.admitsFwsec bootMode = false → o ≠ .hal .kgspExecuteFwsec))
      fun e => ∀ l, e = .goto l →
        l = .cmp50V274Commit ∨ l = .cmp50V525StockBooter false ∧ stock.admitsFwsec bootMode = false := by
    cases ha : stock.admitsFwsec bootMode <;>
      simp +contextual [scrubberAndFwsec, executeScrubberIfNeeded, fwsecBlock, executeFwsec,
        Op.keepsUnread_iff, ha, hcmp]
  exact Prog.wp_exec.mono fun e w' he => (unread_frame huses (fun _ ho => ho) he hw).symm

/-! ## The assertions at the labels -/

/-- What holds of the range when an attempt that started with the arrays `s` comes to a label. -/
def Followed (stock : StockCode) (pGpu : ObjGpu) (bootMode : BootMode) (s : Slots) : Label → World → Prop
  | .entry, w => w.slots = s ∧ w.log = []
  | .cmp50V274Commit, w => Unread stock pGpu bootMode s w
  | .cmp50V525StockBooter _, w => Geometry pGpu bootMode s w

/-- The postcondition of the part of a label. -/
abbrev LabelOutcome (stock : StockCode) (pGpu : ObjGpu) (bootMode : BootMode) (s : Slots) :
    Exit Label NvStatus → World → Prop :=
  Goto.Post (Followed stock pGpu bootMode s) (Outcome pGpu bootMode s)

theorem Unread.keeps (h : Unread stock pGpu bootMode s w) (ha : stock.admitsFwsec bootMode = false) :
    Kept pGpu bootMode s w :=
  ⟨h.wpr .lo, h.wpr .hi, h.clean ha, fun hm => absurd (stock.admits_normal) (by simp [← hm, ha])⟩

theorem PartOutcome.label {e : Exit Label NvStatus} (h : PartOutcome pGpu bootMode s e w) :
    LabelOutcome stock pGpu bootMode s e w := by
  cases e with
  | goto l =>
      obtain ⟨⟨rejoin, rfl⟩, hw⟩ := h
      exact hw
  | ret r => exact h

theorem entryPart_geometry (hcmp : isCmp50ComputeUnlock pGpu) (h : Followed stock pGpu bootMode s .entry w) :
    (entryPart pGpu bootMode).wp Step (fun _ _ => True) w (LabelOutcome stock pGpu bootMode s) := by
  obtain ⟨rfl, hlog⟩ := h
  have hclean : ∀ log, fwsecOk ∉ log → Clean w.slots (cmp50StockflowGpuIndex pGpu) log :=
    fun log hnot since before heq => absurd (heq ▸ by simp) hnot
  simp only [entryPart, Prog.wp_bind, Prog.wp_ite, Prog.wp_pure, wp_getFlag, true_and]
  refine ⟨fun hn => ⟨fun hc => ?_, fun hc => ?_⟩, fun hn => ?_⟩
  · refine (retryRejoin_geometry ?_).mono fun e w' h => h.label
    exact ⟨rfl, rfl, hclean _ (by simp [hlog, fwsecOk]), fun _ hf => absurd (hf ▸ hc) (by simp)⟩
  · refine ⟨fun _ => rfl, ?_, ?_, fun _ => hclean _ ?_, fun _ => Bool.not_eq_true _ ▸ hc⟩
      <;> simp [hlog, firstRead, fwsecOk]
  · refine ⟨fun _ => rfl, ?_, ?_, fun _ => hclean _ ?_, fun hm => absurd ⟨hm, hcmp⟩ hn⟩ <;>
      simp [hlog, firstRead]

theorem commitPart_geometry (hcmp : isCmp50ComputeUnlock pGpu) (hb : w.slots.Between)
    (h : Followed stock pGpu bootMode s .cmp50V274Commit w) :
    (commitPart stock pGpu bootMode).wp Step (fun _ _ => True) w (LabelOutcome stock pGpu bootMode s) := by
  have hscrub : ∀ w₁, Unread stock pGpu bootMode s w₁ →
      (scrubberAndFwsec stock pGpu bootMode (cmp50StockflowGpuIndex pGpu)).wp Step (fun _ _ => True) w₁
        (LabelOutcome stock pGpu bootMode s) := by
    intro w₁ hw₁
    refine (scrubberAndFwsec_geometry hcmp hw₁).mono fun e w' ⟨hw', hl⟩ => ?_
    cases e with
    | ret r => exact hw'.outcome r
    | goto l =>
        rcases hl l rfl with rfl | ⟨rfl, ha⟩
        · exact hw'
        · exact .inl (hw'.keeps ha)
  have hflag : Unread stock pGpu bootMode s (w.after (.getFlag .fwsecReady (cmp50StockflowGpuIndex pGpu))
      (w.slots.flag .fwsecReady (cmp50StockflowGpuIndex pGpu))) :=
    unread_after (by simp [Op.keepsUnread_iff]) (by simp) h
  simp only [commitPart, Prog.wp_bind, Prog.wp_ite, wp_getFlag, true_and]
  refine ⟨fun hn => ⟨fun _ => ?_, fun _ => hscrub _ hflag⟩, fun _ => hscrub w h⟩
  refine (commitBlock_geometry hcmp hflag ?_ hn.1).mono fun e w' h => h.label
  exact hb

theorem bootstrap_geometry {g : KernelGsp} (hcmp : isCmp50ComputeUnlock pGpu) (hs : s.Between) (l : Label) (w : World)
    (h : Reached pGpu bootMode s g l w ∧ Followed stock pGpu bootMode s l w) :
    (kgspBootstrap stock pGpu bootMode l).wp Step (fun _ _ => True) w
      (Goto.Post (fun l w => Reached pGpu bootMode s g l w ∧ Followed stock pGpu bootMode s l w)
        (Outcome pGpu bootMode s)) := by
  have hfollow : (kgspBootstrap stock pGpu bootMode l).wp Step (fun _ _ => True) w
      (LabelOutcome stock pGpu bootMode s) := by
    cases l with
    | entry => exact entryPart_geometry hcmp h.2
    | cmp50V274Commit => exact commitPart_geometry hcmp h.1.1 h.2
    | cmp50V525StockBooter rejoin =>
        exact (geometry_part stockBooterPart_keeps h.2).mono fun _ _ h => h.label
  refine ((bootstrap_wp hs l w h.1).and hfollow).imp (fun _ _ _ => trivial) fun e w' ⟨hreached, hfollowed⟩ => ?_
  cases e with
  | goto l => exact ⟨hreached, hfollowed⟩
  | ret r => exact hfollowed

/-! ## One attempt -/

theorem Returns.outcome {g : KernelGsp} {r : NvStatus} (hcmp : isCmp50ComputeUnlock pGpu) (hs : s.Between)
    (hr : Returns stock pGpu bootMode s g r w) : Outcome pGpu bootMode s r w :=
  Goto.call_of_wp (bootstrap_geometry hcmp hs) ⟨reached_start pGpu bootMode s g, rfl, rfl⟩ hr

theorem Outcome.failsClosed_iff {r : NvStatus} (h : Outcome pGpu bootMode s r w) :
    FailsClosed s (cmp50StockflowGpuIndex pGpu) r w ↔ ¬ Relearns pGpu bootMode s w.log := by
  rcases h with ⟨hf, hr⟩ | hl
  · exact iff_of_true hf hr
  · exact iff_of_false (hl.not_failsClosed r) (not_not_intro hl.relearns)

end

end Cmp50Unlock.Stockflow
