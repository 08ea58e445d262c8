import Cmp50Unlock.Stockflow.Geometry
import Cmp50Unlock.Stockflow.Lemmas.Attempts

/-!
# Which range an attempt goes on with

Two assertions follow an attempt that started with a captured range. Either it kept that range and every FWSEC
run so far yielded it (or no other stock range), or it took its first reading for the range.
-/

namespace Cmp50Unlock.Stockflow

open Lib

/-! ## Logs -/

/-- A split at a successful FWSEC run, in a log whose newest run is known. -/
theorem split_at_fwsec {since before tail log : List Event} (htail : fwsecOk ∉ tail)
    (h : tail ++ fwsecOk :: log = since ++ fwsecOk :: before) :
    (since = tail ∧ before = log) ∨ ∃ since', since = tail ++ fwsecOk :: since' ∧
    log = since' ++ fwsecOk :: before := by
  rcases List.append_eq_append_iff.mp h with ⟨t, hs, ht⟩ | ⟨t, hs, ht⟩
  · cases t with
    | nil => simp only [List.nil_append, List.cons.injEq, true_and] at ht; simp [hs, ht]
    | cons e t =>
        simp only [List.cons_append, List.cons.injEq] at ht
        obtain ⟨rfl, rfl⟩ := ht
        exact .inr ⟨t, hs, rfl⟩
  · cases t with
    | nil => simp only [List.nil_append, List.cons.injEq, true_and] at ht; simp [hs, ht]
    | cons e t =>
        simp only [List.cons_append, List.cons.injEq] at ht
        exact absurd (hs ▸ by simp [ht.1]) htail

section
variable {s : Slots} {i : Nat} {log tail : List Event}

/-- The pair is no stock range other than the captured one. -/
def SameRange (s : Slots) (i : Nat) (lo hi : BitVec 32) : Prop :=
  IsStockRange lo hi → lo = s.wpr .lo i ∧ hi = s.wpr .hi i

/-- The first values read from WPR2 are known and no other stock range. -/
def FirstReadSame (s : Slots) (i : Nat) (log : List Event) : Prop :=
  ∃ lo hi, firstRead .wpr2AddrLo log = some lo ∧ firstRead .wpr2AddrHi log = some hi ∧ SameRange s i lo hi

/-- Each FWSEC run so far yielded no other stock range. -/
def Clean (s : Slots) (i : Nat) (log : List Event) : Prop :=
  ∀ since before, log = since ++ fwsecOk :: before → FirstReadSame s i since

theorem FirstReadSame.append (h : FirstReadSame s i log) (more : List Event) : FirstReadSame s i (more ++ log) := by
  obtain ⟨lo, hi, hlo, hhi, hsame⟩ := h
  exact ⟨lo, hi, firstRead_append hlo, firstRead_append hhi, hsame⟩

theorem FirstReadSame.not_differs (h : FirstReadSame s i log) : ¬ FirstReadDiffers s i log := by
  rintro ⟨lo', hi', hlo', hhi', hrange, hne⟩
  obtain ⟨lo, hi, hlo, hhi, hsame⟩ := h
  obtain rfl := Option.some.inj (hlo.symm.trans hlo')
  obtain rfl := Option.some.inj (hhi.symm.trans hhi')
  exact hne (hsame hrange)

theorem Clean.cons {e : Event} (h : Clean s i log) (he : e ≠ fwsecOk) : Clean s i (e :: log) := by
  intro since before heq
  cases since with
  | nil => exact absurd (List.cons.inj heq).1 he
  | cons e' since =>
      obtain ⟨rfl, rfl⟩ := List.cons.inj heq
      exact (h since before rfl).append [e]

theorem Clean.fwsec (h : Clean s i log) (htail : fwsecOk ∉ tail) (hread : FirstReadSame s i tail) :
    Clean s i (tail ++ fwsecOk :: log) := by
  intro since before heq
  rcases split_at_fwsec htail heq with ⟨rfl, -⟩ | ⟨since', rfl, hlog⟩
  · exact hread
  · have := (h since' before hlog).append (tail ++ [fwsecOk])
    simpa using this

end

/-! ## The two assertions -/

section
variable {stock : StockCode} {pGpu : ObjGpu} {bootMode : BootMode} {s : Slots} {w w' : World}

/-- The attempt goes on with the captured range. -/
structure Kept (pGpu : ObjGpu) (bootMode : BootMode) (s : Slots) (w : World) : Prop where
  lo : w.slots.wpr .lo (cmp50StockflowGpuIndex pGpu) = s.wpr .lo (cmp50StockflowGpuIndex pGpu)
  hi : w.slots.wpr .hi (cmp50StockflowGpuIndex pGpu) = s.wpr .hi (cmp50StockflowGpuIndex pGpu)
  clean : Clean s (cmp50StockflowGpuIndex pGpu) w.log
  first : bootMode = .normal → s.flag .phaseCommitted (cmp50StockflowGpuIndex pGpu) = false →
    FirstReadSame s (cmp50StockflowGpuIndex pGpu) w.log

/-- The attempt stored its first reading of WPR2, another stock range. -/
structure Learned (pGpu : ObjGpu) (bootMode : BootMode) (s : Slots) (w : World) : Prop where
  normal : bootMode = .normal
  uncommitted : s.flag .phaseCommitted (cmp50StockflowGpuIndex pGpu) = false
  lo : firstRead .wpr2AddrLo w.log = some (w.slots.wpr .lo (cmp50StockflowGpuIndex pGpu))
  hi : firstRead .wpr2AddrHi w.log = some (w.slots.wpr .hi (cmp50StockflowGpuIndex pGpu))
  range : w.slots.HasRange (cmp50StockflowGpuIndex pGpu)
  differs : ¬(w.slots.wpr .lo (cmp50StockflowGpuIndex pGpu) = s.wpr .lo (cmp50StockflowGpuIndex pGpu) ∧
    w.slots.wpr .hi (cmp50StockflowGpuIndex pGpu) = s.wpr .hi (cmp50StockflowGpuIndex pGpu))

/-- What holds at the labels. -/
def Geometry (pGpu : ObjGpu) (bootMode : BootMode) (s : Slots) (w : World) : Prop :=
  Kept pGpu bootMode s w ∨ Learned pGpu bootMode s w

/-- What holds at a return. -/
def Outcome (pGpu : ObjGpu) (bootMode : BootMode) (s : Slots) (r : NvStatus) (w : World) : Prop :=
  FailsClosed s (cmp50StockflowGpuIndex pGpu) r w ∧ ¬ Relearns pGpu bootMode s w.log ∨ Learned pGpu bootMode s w

theorem Kept.not_relearns (h : Kept pGpu bootMode s w) : ¬ Relearns pGpu bootMode s w.log :=
  fun ⟨hm, hc, hd⟩ => (h.first hm hc).not_differs hd

theorem Kept.failsClosed (h : Kept pGpu bootMode s w) (r : NvStatus) :
    FailsClosed s (cmp50StockflowGpuIndex pGpu) r w :=
  ⟨h.lo, h.hi, fun since before heq hd => absurd hd (h.clean since before heq).not_differs⟩

theorem Geometry.outcome (h : Geometry pGpu bootMode s w) (r : NvStatus) : Outcome pGpu bootMode s r w :=
  h.imp (fun h => ⟨h.failsClosed r, h.not_relearns⟩) id

theorem Learned.relearns (h : Learned pGpu bootMode s w) : Relearns pGpu bootMode s w.log :=
  ⟨h.normal, h.uncommitted, _, _, h.lo, h.hi, h.range, h.differs⟩

theorem Learned.not_failsClosed (h : Learned pGpu bootMode s w) (r : NvStatus) :
    ¬ FailsClosed s (cmp50StockflowGpuIndex pGpu) r w :=
  fun hf => h.differs ⟨hf.lo, hf.hi⟩

/-! ## Operations that leave the assertions alone -/

/-- The operation stores no range and is not an FWSEC run. -/
@[mk_iff]
structure Op.KeepsGeometry (o : Op) : Prop where
  not_fwsec : o ≠ .hal .kgspExecuteFwsec
  not_store : ∀ b i v, o ≠ .act (.setWpr b i v)

/-- The operation is none of those that the refusal of a range is about. -/
@[mk_iff]
structure Op.Plain (o : Op) : Prop where
  keeps : o.KeepsGeometry
  not_launch : ∀ u addr, o ≠ .launch u addr

theorem Op.Quiet.keepsGeometry {o : Op} (h : o.Quiet) : o.KeepsGeometry :=
  ⟨fun ho => by subst ho; exact h, fun _ _ _ ho => by subst ho; exact h⟩

theorem wpr_step {o : Op} (h : ∀ b i v, o ≠ .act (.setWpr b i v)) : (s.step o).wpr = s.wpr := by
  unfold Slots.step
  split <;> first | rfl | exact absurd rfl (h _ _ _)

theorem Op.KeepsGeometry.ne_fwsecOk {o : Op} (h : o.KeepsGeometry) (a : o.Ans) : (⟨o, a⟩ : Event) ≠ fwsecOk := by
  rintro heq
  cases heq
  exact h.not_fwsec rfl

theorem Kept.step {o : Op} {a : o.Ans} (hw : Kept pGpu bootMode s w) (hwpr : (w.slots.step o).wpr = w.slots.wpr)
    (hne : (⟨o, a⟩ : Event) ≠ fwsecOk) : Kept pGpu bootMode s (w.after o a) := by
  refine ⟨?_, ?_, hw.clean.cons hne, fun hm hc => ?_⟩
  · exact (congrFun (congrFun hwpr _) _).trans hw.lo
  · exact (congrFun (congrFun hwpr _) _).trans hw.hi
  · exact (hw.first hm hc).append [⟨o, a⟩]

theorem kept_after {o : Op} {a : o.Ans} (ho : o.KeepsGeometry) (hw : Kept pGpu bootMode s w) :
    Kept pGpu bootMode s (w.after o a) :=
  hw.step (wpr_step ho.not_store) (ho.ne_fwsecOk a)

theorem Kept.fwsec_failed {status : NvStatus} (hw : Kept pGpu bootMode s w) (hst : status ≠ .ok) :
    Kept pGpu bootMode s (w.after (.hal .kgspExecuteFwsec) status) :=
  hw.step rfl fun heq => hst (by cases heq; rfl)

theorem learned_after {o : Op} {a : o.Ans} (ho : ∀ b i v, o ≠ .act (.setWpr b i v)) (hw : Learned pGpu bootMode s w) :
    Learned pGpu bootMode s (w.after o a) := by
  have hwpr : (w.slots.step o).wpr = w.slots.wpr := wpr_step ho
  refine ⟨hw.normal, hw.uncommitted, ?_, ?_, ?_, ?_⟩ <;> simp only [slots_after, log_after, Slots.HasRange, hwpr]
  · exact firstRead_cons hw.lo
  · exact firstRead_cons hw.hi
  · exact hw.range
  · exact hw.differs

theorem geometry_after {o : Op} {a : o.Ans} (ho : o.KeepsGeometry) (hw : Geometry pGpu bootMode s w) :
    Geometry pGpu bootMode s (w.after o a) :=
  hw.imp (kept_after ho) (learned_after ho.not_store)

section
variable {α : Type} {p : Driver α} {S : Op → Prop} {R : α → Prop} {r : α}

theorem kept_frame (h : p.Within S R) (hS : ∀ o, S o → o.KeepsGeometry) (he : p.Exec Step w r w')
    (hw : Kept pGpu bootMode s w) : Kept pGpu bootMode s w' := by
  refine (h.exec (I := Kept pGpu bootMode s) (fun o _ _ _ ho hst hI => ?_) he hw).2
  rw [hst.2]
  exact kept_after (hS o ho) hI

theorem learned_frame (h : p.Within S R) (hS : ∀ o, S o → ∀ b i v, o ≠ .act (.setWpr b i v)) (he : p.Exec Step w r w')
    (hw : Learned pGpu bootMode s w) : Learned pGpu bootMode s w' := by
  refine (h.exec (I := Learned pGpu bootMode s) (fun o _ _ _ ho hst hI => ?_) he hw).2
  rw [hst.2]
  exact learned_after (hS o ho) hI

theorem geometry_frame (h : p.Within S R) (hS : ∀ o, S o → o.KeepsGeometry) (he : p.Exec Step w r w')
    (hw : Geometry pGpu bootMode s w) : Geometry pGpu bootMode s w' :=
  hw.imp (kept_frame h hS he) (learned_frame h (fun o ho => (hS o ho).not_store) he)

end

/-! ## After a replay of FWSEC -/

/-- FWSEC was run while the captured range was kept, and nothing was launched or stored since. `lo` and `hi` are
the first values read from WPR2 after that run. -/
structure Pending (pGpu : ObjGpu) (bootMode : BootMode) (s : Slots) (lo hi : Option (BitVec 32))
    (w : World) : Prop where
  replayed : ∃ tail w₀, Kept pGpu bootMode s w₀ ∧ w.log = tail ++ fwsecOk :: w₀.log ∧
    w.slots.wpr = w₀.slots.wpr ∧ (∀ e ∈ tail, e.1.Plain) ∧
    firstRead .wpr2AddrLo tail = lo ∧ firstRead .wpr2AddrHi tail = hi

theorem pending_fwsec (hw : Kept pGpu bootMode s w) :
    Pending pGpu bootMode s none none (w.after (.hal .kgspExecuteFwsec) .ok) :=
  ⟨[], w, hw, rfl, rfl, by simp, rfl, rfl⟩

section
variable {lo hi : Option (BitVec 32)} {vlo vhi : BitVec 32}

theorem Pending.after {o : Op} {a : o.Ans} (hw : Pending pGpu bootMode s lo hi w) (ho : o.Plain) :
    Pending pGpu bootMode s (lo.or (firstRead .wpr2AddrLo [⟨o, a⟩])) (hi.or (firstRead .wpr2AddrHi [⟨o, a⟩]))
      (w.after o a) := by
  obtain ⟨tail, w₀, hk, hlog, hwpr, htail, hlo, hhi⟩ := hw.replayed
  refine ⟨⟨o, a⟩ :: tail, w₀, hk, by simp [hlog], ?_, by simpa [ho] using htail, ?_, ?_⟩
  · rw [slots_after, wpr_step ho.keeps.not_store, hwpr]
  · rw [firstRead_step, hlo]
  · rw [firstRead_step, hhi]

theorem Pending.wpr (hw : Pending pGpu bootMode s lo hi w) (b : WprBound) :
    w.slots.wpr b (cmp50StockflowGpuIndex pGpu) = s.wpr b (cmp50StockflowGpuIndex pGpu) := by
  obtain ⟨tail, w₀, hk, -, hwpr, -⟩ := hw.replayed
  cases b with
  | lo => exact hwpr ▸ hk.lo
  | hi => exact hwpr ▸ hk.hi

theorem not_mem_of_plain {tail : List Event} (htail : ∀ e ∈ tail, e.1.Plain) : fwsecOk ∉ tail :=
  fun h => (htail _ h).keeps.not_fwsec rfl

/-- The values read after the replay are the captured range. -/
theorem Pending.kept (hw : Pending pGpu bootMode s (some vlo) (some vhi) w)
    (hlo : vlo = w.slots.wpr .lo (cmp50StockflowGpuIndex pGpu))
    (hhi : vhi = w.slots.wpr .hi (cmp50StockflowGpuIndex pGpu)) : Kept pGpu bootMode s w := by
  rw [hw.wpr] at hlo hhi
  obtain ⟨tail, w₀, hk, hlog, hwpr, htail, hflo, hfhi⟩ := hw.replayed
  refine ⟨hwpr ▸ hk.lo, hwpr ▸ hk.hi, ?_, fun hm hc => ?_⟩
  · exact hlog ▸ hk.clean.fwsec (not_mem_of_plain htail) ⟨vlo, vhi, hflo, hfhi, fun _ => ⟨hlo, hhi⟩⟩
  · have h := (hk.first hm hc).append (tail ++ [fwsecOk])
    simpa [hlog] using h

/-- The attempt gives up after the replay. -/
theorem Pending.outcome (hw : Pending pGpu bootMode s lo hi w) : Outcome pGpu bootMode s .errInvalidState w := by
  obtain ⟨tail, w₀, hk, hlog, hwpr, htail, -⟩ := hw.replayed
  refine .inl ⟨⟨hwpr ▸ hk.lo, hwpr ▸ hk.hi, fun since before heq hd => ⟨rfl, ?_⟩⟩, fun ⟨hm, hc, hd⟩ => ?_⟩
  · rcases split_at_fwsec (not_mem_of_plain htail) (hlog ▸ heq) with ⟨rfl, -⟩ | ⟨since', rfl, hlog₀⟩
    · rintro e he ⟨u, addr, hlaunch⟩
      exact (htail e he).not_launch u addr hlaunch
    · have h := (hk.clean since' before hlog₀).append (tail ++ [fwsecOk])
      exact absurd hd (by simpa using h.not_differs)
  · have h := (hk.first hm hc).append (tail ++ [fwsecOk])
    exact absurd hd (by simpa [hlog] using h.not_differs)

theorem Pending.rd (hw : Pending pGpu bootMode s lo hi w) (r : Reg) (v : BitVec 32) :
    Pending pGpu bootMode s (lo.or (if r = .wpr2AddrLo then some v else none))
      (hi.or (if r = .wpr2AddrHi then some v else none)) (w.after (.rd r) v) := by
  have ho : (Op.rd r).Plain := by simp [Op.plain_iff, Op.keepsGeometry_iff]
  exact hw.after ho

theorem readGate_pending (hw : Pending pGpu bootMode s none none w) :
    readGate.wp Step (fun _ _ => True) w fun g w' =>
      Pending pGpu bootMode s (some g.wprLo) (some g.wprHi) w' := by
  simp only [readGate, Prog.wp_bind, wp_rd, Prog.wp_pure, true_and]
  intro plm lo hi speed0 speed1
  simpa using ((((hw.rd .fecsFeaturePlm plm).rd .wpr2AddrLo lo).rd .wpr2AddrHi hi).rd .fecsSmSpeedOverride0 speed0).rd
    .fecsSmSpeedOverride1 speed1

theorem readGateWprFirst_pending (hw : Pending pGpu bootMode s none none w) :
    readGateWprFirst.wp Step (fun _ _ => True) w fun g w' =>
      Pending pGpu bootMode s (some g.wprLo) (some g.wprHi) w' := by
  simp only [readGateWprFirst, Prog.wp_bind, wp_rd, Prog.wp_pure, true_and]
  intro lo hi plm speed0 speed1
  simpa using ((((hw.rd .wpr2AddrLo lo).rd .wpr2AddrHi hi).rd .fecsFeaturePlm plm).rd .fecsSmSpeedOverride0 speed0).rd
    .fecsSmSpeedOverride1 speed1

theorem Pending.getWpr (hw : Pending pGpu bootMode s lo hi w) (b : WprBound) (i : Nat) :
    Pending pGpu bootMode s lo hi (w.after (.getWpr b i) (w.slots.wpr b i)) := by
  have ho : (Op.getWpr b i).Plain := by simp [Op.plain_iff, Op.keepsGeometry_iff]
  simpa [firstRead] using hw.after ho

/-- A comparison with the captured pair: no difference means that the pair was read. -/
theorem wprNeStock_pending (hw : Pending pGpu bootMode s (some vlo) (some vhi) w) :
    (wprNeStock (cmp50StockflowGpuIndex pGpu) vlo vhi).wp Step (fun _ _ => True) w fun b w' =>
      Pending pGpu bootMode s (some vlo) (some vhi) w' ∧
      (b = false → vlo = w'.slots.wpr .lo (cmp50StockflowGpuIndex pGpu) ∧
        vhi = w'.slots.wpr .hi (cmp50StockflowGpuIndex pGpu)) := by
  simp only [wprNeStock, wp_orElse, Prog.wp_bind, wp_getWpr, Prog.wp_pure, true_and]
  refine ⟨fun hne => ⟨?_, by simp⟩, fun heq => ⟨?_, fun heq' => ?_⟩⟩
  · exact hw.getWpr _ _
  · exact (hw.getWpr _ _).getWpr _ _
  · exact ⟨by simpa [Slots.step] using heq, by simpa [Slots.step] using heq'⟩

end

/-- The postcondition of a part that may end the attempt: `none` goes on with `J`. -/
def OrOutcome (pGpu : ObjGpu) (bootMode : BootMode) (s : Slots) (J : World → Prop) : Option NvStatus → World → Prop
  | none, w => J w
  | some status, w => Outcome pGpu bootMode s status w

@[simp] theorem orOutcome_none {J : World → Prop} : OrOutcome pGpu bootMode s J none w ↔ J w := Iff.rfl

@[simp] theorem orOutcome_some {J : World → Prop} {r : NvStatus} :
    OrOutcome pGpu bootMode s J (some r) w ↔ Outcome pGpu bootMode s r w := Iff.rfl

theorem Kept.outcome (h : Kept pGpu bootMode s w) (r : NvStatus) : Outcome pGpu bootMode s r w :=
  Geometry.outcome (.inl h) r

theorem Kept.print (hw : Kept pGpu bootMode s w) (m : Msg) : Kept pGpu bootMode s (w.after (.act (.print m)) ()) :=
  kept_after (by simp [Op.keepsGeometry_iff]) hw

theorem Kept.printRegs (hw : Kept pGpu bootMode s w) (m : Msg) (rs : List Reg) (v : Reg → BitVec 32) :
    Kept pGpu bootMode s ((w.after (.logRd rs) v).after (.act (.print m)) ()) := by
  refine Kept.print (kept_after ?_ hw) m
  simp [Op.keepsGeometry_iff]

theorem Kept.getGsp (hw : Kept pGpu bootMode s w) : Kept pGpu bootMode s (w.after .getGsp w.gsp) :=
  kept_after (by simp [Op.keepsGeometry_iff]) hw

theorem Kept.kflcnReset (hw : Kept pGpu bootMode s w) (status : NvStatus) :
    Kept pGpu bootMode s (w.after (.hal .kflcnReset) status) :=
  kept_after (by simp [Op.keepsGeometry_iff]) hw

theorem Kept.portMemFreeFwsecCmd (hw : Kept pGpu bootMode s w) :
    Kept pGpu bootMode s (w.after (.act .portMemFreeFwsecCmd) ()) :=
  kept_after (by simp [Op.keepsGeometry_iff]) hw

theorem Pending.print {lo hi : Option (BitVec 32)} (hw : Pending pGpu bootMode s lo hi w) (m : Msg) :
    Pending pGpu bootMode s lo hi (w.after (.act (.print m)) ()) := by
  have ho : (Op.act (.print m)).Plain := by simp [Op.plain_iff, Op.keepsGeometry_iff]
  simpa [firstRead] using hw.after ho

/-- A replay of FWSEC, up to the reads. -/
theorem Kept.replay (hw : Kept pGpu bootMode s w) :
    Pending pGpu bootMode s none none
      ((w.after (.hal .kgspExecuteFwsec) .ok).after (.act .portMemFreeFwsecCmd) ()) := by
  have ho : (Op.act .portMemFreeFwsecCmd).Plain := by simp [Op.plain_iff, Op.keepsGeometry_iff]
  simpa [firstRead] using (pending_fwsec hw).after ho

theorem refwsec_kept (hw : Kept pGpu bootMode s w) : (refwsec (cmp50StockflowGpuIndex pGpu)).wp Step (fun _ _ => True) w
    (OrOutcome pGpu bootMode s (Kept pGpu bootMode s)) := by
  simp only [refwsec, Prog.wp_bind, Prog.wp_ite, Prog.wp_pure, wp_getGsp, wp_hal, wp_act, wp_print, true_and,
    orOutcome_some, orOutcome_none]
  have hw := hw.getGsp
  refine ⟨fun _ => hw.outcome _, fun _ status₁ => ?_⟩
  have hw := hw.kflcnReset status₁
  refine ⟨fun _ => hw.outcome _, fun _ status₂ => ⟨fun hst => ?_, fun hst => ?_⟩⟩
  · exact ((hw.fwsec_failed hst).portMemFreeFwsecCmd.print _).outcome _
  · obtain rfl := Decidable.not_not.mp hst
    refine (readGate_pending hw.replay).mono fun g w₁ hp => ?_
    refine wp_orElse.mpr ((wprNeStock_pending hp).mono fun b w₂ hpost => ?_)
    obtain ⟨hp, hb⟩ := hpost
    refine ⟨fun _ => ?_, fun h => ?_⟩
    · exact ⟨fun _ => (hp.print _).outcome, fun hf => absurd rfl hf⟩
    · exact ⟨fun _ => (hp.print _).outcome, fun _ => (hp.kept (hb h).1 (hb h).2).print _⟩

theorem persistentReady_kept (hw : Kept pGpu bootMode s w) :
    (persistentReady (cmp50StockflowGpuIndex pGpu)).wp Step (fun _ _ => True) w
      (OrOutcome pGpu bootMode s (Kept pGpu bootMode s)) := by
  simp only [persistentReady, Prog.wp_bind, Prog.wp_ite, Prog.wp_pure, wp_getGsp, wp_hal, wp_act, wp_print, true_and,
    orOutcome_some, orOutcome_none]
  have hw := hw.getGsp
  refine ⟨fun _ => (hw.print _).outcome _, fun _ status₁ => ?_⟩
  have hw := (hw.print .persistentReadyRefwsec).kflcnReset status₁
  refine ⟨fun _ => hw.outcome _, fun _ status₂ => ⟨fun hst => ?_, fun hst => ?_⟩⟩
  · exact ((hw.fwsec_failed hst).portMemFreeFwsecCmd.print _).outcome _
  · obtain rfl := Decidable.not_not.mp hst
    refine (readGateWprFirst_pending hw.replay).mono fun g w₁ hp => ?_
    have hmismatch : ∀ m w₂, Pending pGpu bootMode s (some g.wprLo) (some g.wprHi) w₂ →
        Outcome pGpu bootMode s .errInvalidState (w₂.after (.act (.print m)) ()) := fun m w₂ h => (h.print m).outcome
    simp only [wp_orElse, Prog.wp_bind, wp_getWpr, Prog.wp_pure, true_and]
    refine ⟨fun _ => ⟨fun _ => hmismatch _ _ (hp.getWpr _ _), fun hf => absurd trivial hf⟩, fun _ => ?_⟩
    have hp := hp.getWpr .lo (cmp50StockflowGpuIndex pGpu)
    refine ⟨fun _ => ⟨fun _ => hmismatch _ _ (hp.getWpr _ _), fun hf => absurd trivial hf⟩, fun _ => ?_⟩
    have hp := hp.getWpr .hi (cmp50StockflowGpuIndex pGpu)
    refine (wprNeStock_pending hp).mono fun b w₂ hpost => ?_
    obtain ⟨hp, hb⟩ := hpost
    refine ⟨fun _ => ?_, fun h => ⟨fun _ => hmismatch _ _ hp, fun _ => ?_⟩⟩
    · exact ⟨fun _ => hmismatch _ _ hp, fun hf => absurd trivial hf⟩
    · have hw := (hp.kept (hb h).1 (hb h).2).print .persistentReadyRefwsecStockWprPass
      refine Prog.wp_exec.mono fun status w₃ he => ?_
      have hw := kept_frame rebuild_uses (fun o ho => ho.1.keepsGeometry) he hw
      exact ⟨fun _ => (hw.print _).outcome _, fun _ => hw.print _⟩

end

end Cmp50Unlock.Stockflow
