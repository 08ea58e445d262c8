import Cmp50Unlock.Stockflow.Board
import Cmp50Unlock.Stockflow.Lemmas.GeometryWalk
import Cmp50Unlock.Stockflow.Lemmas.Stock

/-!
# Theorems about the boot of a CMP50

What holds in every history of boot attempts: the captured range, the transaction, the state that the stock
Booter is launched from. The lemmas behind them are in `Lemmas/`.
-/

namespace Cmp50Unlock.Stockflow

open Lib

/-! ## A history that can be computed -/

/-- Stock code that admits every mode to the FWSEC block. -/
def sampleStock : StockCode := ⟨fun _ => true, rfl, rfl, fun g _ => g.pWprMetaDescriptor.getD 0, fun _ => rfl⟩

/-- A CMP50 at `0000:01:00.0`. -/
def sampleGpu : ObjGpu := ⟨0x1E0910DE, 0x155410DE, 0, 1, 0, 0⟩

/-- A `KernelGsp` with a signature buffer, a copy of a stock signature of one byte and the other boot
arguments. -/
def sampleGsp : KernelGsp :=
  ⟨some ⟨canarySignatureSize, ⟨0x200000, fun _ => 1⟩⟩, some [0xAA], 1, some ⟨0, 0, 0, 0⟩, some 0x300000, true, none⟩

/-- A board on which every step succeeds. -/
def sampleBoard : Board := ⟨(wpr2AddrLoDown, 0), (0x1000, 0x1E00), fun _ => .ok, .ok, none⟩

/-- The arrays after one attempt on the board. -/
def slotsAfter (b : Board) (bootMode : BootMode) (s : Slots) (g : KernelGsp) : Slots :=
  ((b.boot sampleStock sampleGpu bootMode s g).map fun x => x.2.slots).getD s

/-- The attempt that the board runs. -/
theorem sample_attempt (b : Board) (bootMode : BootMode) (s : Slots) (g : KernelGsp)
    (hb : (b.boot sampleStock sampleGpu bootMode s g).isSome) :
    ∃ r w, Returns sampleStock sampleGpu bootMode s g r w ∧ w.slots = slotsAfter b bootMode s g := by
  obtain ⟨⟨r, w⟩, hrun⟩ := Option.isSome_iff_exists.mp hb
  exact ⟨r, w, b.boot_call hrun, by simp only [slotsAfter, hrun, Option.map_some, Option.getD_some]⟩

theorem history_boot {A : Attempt → Prop} (b : Board) (bootMode : BootMode) {s : Slots} (g : KernelGsp)
    (h : History sampleStock A s) (hb : (b.boot sampleStock sampleGpu bootMode s g).isSome)
    (hA : ∀ r w, A ⟨sampleGpu, bootMode, s, g, r, w⟩) : History sampleStock A (slotsAfter b bootMode s g) := by
  obtain ⟨r, w, hr, hw⟩ := sample_attempt b bootMode s g hb
  exact hw ▸ Later.boot (a := ⟨sampleGpu, bootMode, s, g, r, w⟩) h (hA r w) hr

/-- The arrays after the first boot of the board. -/
def bootedSlots : Slots := slotsAfter sampleBoard .normal .zero sampleGsp

theorem history_booted {A : Attempt → Prop} (hA : ∀ r w, A ⟨sampleGpu, .normal, .zero, sampleGsp, r, w⟩) :
    History sampleStock A bootedSlots :=
  history_boot sampleBoard .normal sampleGsp .refl (by decide) hA

/-! ## The captured range -/

theorem ExploitRun.not_pass {pGpu : ObjGpu} {bootMode : BootMode} {w : World} {m : Msg}
    (h : ExploitRun pGpu bootMode w (.act (.print m))) : ¬ m.IsWprPass := by
  rcases h.window with ⟨_, hi⟩ | ho
  · exact ((freshMeta_uses pGpu).issued hi).1
  · cases ho

/-- In every history of boot attempts of any GPUs, each slot holds no range or one of the stock span, and never
the WPR-down sentinel. An attempt that passes a comparison of the live WPR2 range does so with the captured,
non-empty range of its slot, and launches Booter in exploit mode only when there is one. -/
theorem wpr_capture_fails_closed {stock : StockCode} {s : Slots} (h : History stock (fun _ => True) s) :
    (∀ i, s.Captured i) ∧ (∀ i, ¬(s.wpr .lo i = wpr2AddrLoDown ∧ s.wpr .hi i = 0)) ∧
    ∀ pGpu bootMode g,
      (∀ l w, ComesTo stock pGpu bootMode s g l w → ∀ i, w.slots.Captured i) ∧
      ∀ o w, Issued stock pGpu bootMode s g o w →
        (∀ m, o = .act (.print m) → m.IsWprPass → HoldsRange (cmp50StockflowGpuIndex pGpu) w) ∧
        (∀ u addr, o = .launch u addr → w.slots.flag .exploitMode (cmp50ExploitModeIndex pGpu) = true →
          w.slots.HasRange (cmp50StockflowGpuIndex pGpu)) := by
  have hb := history_between h
  refine ⟨hb.captured, fun i ⟨hlo, hhi⟩ => ?_, fun pGpu bootMode g => ⟨?_, ?_⟩⟩
  · rcases hb.captured i with ⟨hz, -⟩ | hr
    · exact absurd (hlo.symm.trans hz) (by decide)
    · rw [Slots.HasRange, hlo, hhi] at hr
      exact absurd hr (by decide)
  · exact fun l w hr => (hr.between hb).captured
  · intro o w hi
    have hchk := hi.checked hb
    by_cases hon : w.slots.flag .exploitMode (cmp50ExploitModeIndex pGpu)
    · simp only [Op.Checked, hon, if_true] at hchk
      exact ⟨fun m ho hm => absurd hm (ho ▸ hchk).not_pass, fun _ _ _ _ => hchk.range⟩
    · simp only [Op.Checked, hon] at hchk
      refine ⟨fun m ho hm => ?_, fun _ _ _ hon' => absurd hon' hon⟩
      subst ho
      exact hchk.1 hm

theorem wpr_capture_fails_closed_sample : bootedSlots.Captured 32 ∧ bootedSlots.HasRange 32 :=
  ⟨(wpr_capture_fails_closed (history_booted fun _ _ => trivial)).1 32, by decide⟩

/-! ## The transaction -/

/-- An operation of the branches that `kgspExecuteBooterLoad_TU102` and the halt wait take in exploit mode. -/
def Op.IsExploitBranch : Op → Prop
  | .hal (.kflcnWaitForHalt t) => t = some boundedHaltWait
  | .act (.print m) => m.IsExploitRun
  | _ => False

/-- The operation `o` is issued in `w` by the Booter run of the commit step, or is the store that ends it. -/
def InExploitWindow (pGpu : ObjGpu) (o : Op) (w : World) : Prop :=
  (∃ w₀, (kgspCmp50ExecuteBooterFreshMeta pGpu).Issued Step
    (World.after w₀ (.act (.setFlag .exploitMode (cmp50ExploitModeIndex pGpu) true)) ()) o w) ∨
  o = .act (.setFlag .exploitMode (cmp50ExploitModeIndex pGpu) false)

/-- In every history of one board, `PhaseCommitted` never goes back to false and is set only by a call that came
through all gates; Booter is launched in exploit mode only by a NORMAL call that finds it false; and the
exploit mode is on only during that launch. -/
theorem transaction_runs_once {stock : StockCode} {pGpu : ObjGpu} {s : Slots}
    (h : History stock (fun a => a.pGpu = pGpu) s) :
    (∀ bootMode g r w, Returns stock pGpu bootMode s g r w →
      w.slots.flag .exploitMode (cmp50ExploitModeIndex pGpu) = false ∧
      ∀ i, s.flag .phaseCommitted i = true → w.slots.flag .phaseCommitted i = true) ∧
    ∀ bootMode g o w, Issued stock pGpu bootMode s g o w →
      (∀ i b, o = .act (.setFlag .phaseCommitted i b) →
        i = cmp50StockflowGpuIndex pGpu ∧ b = true ∧ TransactionSteps pGpu w) ∧
      (∀ u addr, o = .launch u addr → w.slots.flag .exploitMode (cmp50ExploitModeIndex pGpu) = true →
        bootMode = .normal ∧ w.slots.flag .phaseCommitted (cmp50StockflowGpuIndex pGpu) = false ∧
          s.flag .phaseCommitted (cmp50StockflowGpuIndex pGpu) = false) ∧
      (w.slots.flag .exploitMode (cmp50ExploitModeIndex pGpu) = true → InExploitWindow pGpu o w) ∧
      (o.IsExploitBranch → w.slots.flag .exploitMode (cmp50ExploitModeIndex pGpu) = true) := by
  have hb := history_between h
  refine ⟨fun bootMode g r w hr => ?_, fun bootMode g o w hi => ?_⟩
  · exact ⟨(Returns.between hr hb).exploitOff _, fun i hc => Returns.committed hr hb hc⟩
  · have hchk := hi.checked hb
    refine ⟨fun i b ho => ?_, fun u addr _ hon => ?_, fun hon => ?_, fun hbr => ?_⟩
    · obtain ⟨hidx, hset, hpass⟩ := (ho ▸ hchk).commit
      exact ⟨hidx, hset, hpass.steps⟩
    · simp only [Op.Checked, hon, if_true] at hchk
      refine ⟨hchk.normal, hchk.uncommitted, ?_⟩
      cases hc : s.flag .phaseCommitted (cmp50StockflowGpuIndex pGpu) with
      | false => rfl
      | true => exact (hi.committed hb hc).symm.trans hchk.uncommitted
    · simp only [Op.Checked, hon, if_true] at hchk
      exact hchk.window
    · cases hon : w.slots.flag .exploitMode (cmp50ExploitModeIndex pGpu) with
      | true => rfl
      | false =>
          simp only [Op.Checked, hon] at hchk
          cases o with
          | hal c => cases c <;> first | exact hbr.elim | exact absurd hbr hchk
          | act c => cases c <;> first | exact hbr.elim | exact absurd hbr hchk.2
          | _ => exact hbr.elim

theorem transaction_runs_once_sample : bootedSlots.flag .phaseCommitted 32 = true ∧
    (slotsAfter sampleBoard .normal bootedSlots sampleGsp).flag .phaseCommitted 32 = true := by
  have hc : bootedSlots.flag .phaseCommitted 32 = true := by decide
  obtain ⟨r, w, hr, hw⟩ := sample_attempt sampleBoard .normal bootedSlots sampleGsp (by decide)
  have h := (transaction_runs_once (history_booted fun _ _ => rfl)).1 _ _ _ _ hr
  exact ⟨hc, hw ▸ h.2 32 hc⟩

/-! ## The launch of the stock Booter -/

/-- The slot was committed by an attempt that did not get to a ready GSP. -/
def Unfinished (pGpu : ObjGpu) (s : Slots) : Prop :=
  s.flag .phaseCommitted (cmp50StockflowGpuIndex pGpu) = true ∧
    s.flag .gspReady (cmp50StockflowGpuIndex pGpu) = false

instance (pGpu : ObjGpu) (s : Slots) : Decidable (Unfinished pGpu s) :=
  inferInstanceAs (Decidable (_ ∧ _))

/-- What RM does with the signature buffer before it makes an attempt. -/
def recreateSignature (pGpu : ObjGpu) (fw : GspFirmware) : Driver NvStatus := do
  kgspFreeBootArgs
  kgspCreateSignatureMemdesc pGpu fw

/-- RM released the boot arguments and created the signature buffer anew for the attempt. -/
def Prepared (pGpu : ObjGpu) (fw : GspFirmware) (s : Slots) (g : KernelGsp) : Prop :=
  ∃ g₀ w, (recreateSignature pGpu fw).Exec Step (startWorld s g₀) .ok w ∧ w.gsp.SameBuffers g

/-- A NORMAL boot attempt of the board, as RM makes it. -/
def NormalAttempt (pGpu : ObjGpu) (a : Attempt) : Prop :=
  a.pGpu = pGpu ∧ a.bootMode = .normal ∧ ∃ fw, Prepared pGpu fw a.slots a.gsp

/-- The state that the stock Booter is to be launched from, with the registers as `seen`. -/
structure StockState (seen : Reading) (pGpu : ObjGpu) (fw : GspFirmware) (w : World) : Prop where
  exploitOff : w.slots.flag .exploitMode (cmp50ExploitModeIndex pGpu) = false
  range : w.slots.HasRange (cmp50StockflowGpuIndex pGpu)
  lo : seen .wpr2AddrLo w.log = some (w.slots.wpr .lo (cmp50StockflowGpuIndex pGpu))
  hi : seen .wpr2AddrHi w.log = some (w.slots.wpr .hi (cmp50StockflowGpuIndex pGpu))
  plm : seen .fecsFeaturePlm w.log = some fecsFeaturePlmPostlock
  speed0 : seen .fecsSmSpeedOverride0 w.log = some fecsSmSpeedFull0
  speed1 : seen .fecsSmSpeedOverride1 w.log = some fecsSmSpeedFull1
  signature : ∃ data, fw.pSignatureData = some data ∧ SignatureRestored data w.gsp

/-- The registers of that state. -/
def stateRegs : List Reg := [.wpr2AddrLo, .wpr2AddrHi, .fecsFeaturePlm, .fecsSmSpeedOverride0, .fecsSmSpeedOverride1]

/-- A log line that read one of these registers after its last check read what the check did. -/
def LogLinesAgree (log : List Event) : Prop := ∀ r ∈ stateRegs, lastSeen r log = lastRead r log

/-- What the checks before the launch establish: in the state as the checks read it nothing is missing, and nothing is
missing in the state as it was last seen if and only if the log lines after the last checks agree with them. -/
structure ReadyToLaunch (pGpu : ObjGpu) (fw : GspFirmware) (w : World) : Prop where
  checked : StockState lastRead pGpu fw w
  seen : StockState lastSeen pGpu fw w ↔ LogLinesAgree w.log

theorem StockState.readyToLaunch {pGpu : ObjGpu} {fw : GspFirmware} {w : World} (h : StockState lastRead pGpu fw w) :
    ReadyToLaunch pGpu fw w := by
  refine ⟨h, fun hs r hr => ?_, fun hagree => ?_⟩
  · simp only [stateRegs, List.mem_cons, List.not_mem_nil, or_false] at hr
    rcases hr with rfl | rfl | rfl | rfl | rfl
    · exact hs.lo.trans h.lo.symm
    · exact hs.hi.trans h.hi.symm
    · exact hs.plm.trans h.plm.symm
    · exact hs.speed0.trans h.speed0.symm
    · exact hs.speed1.trans h.speed1.symm
  · have hseen : ∀ r ∈ stateRegs, ∀ v, lastRead r w.log = some v → lastSeen r w.log = some v :=
      fun r hr v hv => (hagree r hr).trans hv
    exact ⟨h.exploitOff, h.range, hseen _ (by decide) _ h.lo, hseen _ (by decide) _ h.hi, hseen _ (by decide) _ h.plm,
      hseen _ (by decide) _ h.speed0, hseen _ (by decide) _ h.speed1, h.signature⟩

/-- A firmware image with a stock signature of one byte. -/
def sampleFw : GspFirmware := ⟨some [0xAA], 1, fun data h => by cases h; rfl⟩

/-- The world after RM prepared an attempt on the board. -/
def preparedWorld (s : Slots) : World :=
  ((recreateSignature sampleGpu sampleFw).interp sampleBoard.run
    (startWorld s ⟨none, none, 0, none, none, false, none⟩)).2

/-- The `KernelGsp` of that world, with the other boot arguments. -/
def preparedGsp (s : Slots) : KernelGsp :=
  { (preparedWorld s).gsp with
    pWprMeta := some ⟨0, 0, 0, 0⟩, pWprMetaDescriptor := some 0x300000, pPreparedFwsecCmd := true }

theorem preparedGsp_prepared (s : Slots) : Prepared sampleGpu sampleFw s (preparedGsp s) := by
  have he := Prog.exec_interp id sampleBoard.run_step (recreateSignature sampleGpu sampleFw)
    (startWorld s ⟨none, none, 0, none, none, false, none⟩)
  exact ⟨_, preparedWorld s, he, ⟨rfl, rfl, rfl⟩⟩

theorem Prepared.fresh {pGpu : ObjGpu} {fw : GspFirmware} {s : Slots} {g : KernelGsp}
    (hcmp : isCmp50ComputeUnlock pGpu) (h : Prepared pGpu fw s g) :
    ∃ data, fw.pSignatureData = some data ∧ FreshSignature data g := by
  obtain ⟨g₀, w, he, hg⟩ := h
  simp only [recreateSignature, Prog.exec_bind] at he
  obtain ⟨_, w₁, -, hcreate⟩ := he
  obtain ⟨data, hdata, hfresh⟩ := ((create_wp hcmp w₁).exec hcreate).2 rfl
  exact ⟨data, hdata, hfresh.same hg⟩

/-- In a history of one CMP50, an attempt that does not start with an unfinished slot launches the stock Booter only
from the state it is to be launched from, whichever way it comes to the launch: as its checks read it, and as it last
saw it if its log lines agree with the checks. -/
theorem stock_booter_precondition {stock : StockCode} {pGpu : ObjGpu} {fw : GspFirmware} {s : Slots}
    {g : KernelGsp} (hcmp : isCmp50ComputeUnlock pGpu) (h : History stock (NormalAttempt pGpu) s)
    (hg : Prepared pGpu fw s g) (hfin : ¬ Unfinished pGpu s) :
    (∀ rejoin w, ComesTo stock pGpu .normal s g (.cmp50V525StockBooter rejoin) w → ReadyToLaunch pGpu fw w) ∧
    ∀ u addr w, Issued stock pGpu .normal s g (.launch u addr) w →
      w.slots.flag .exploitMode (cmp50ExploitModeIndex pGpu) = false → ReadyToLaunch pGpu fw w := by
  obtain ⟨data, hdata, hfresh⟩ := hg.fresh hcmp
  have hstate : ∀ rejoin w, Reached pGpu .normal s g (.cmp50V525StockBooter rejoin) w → ReadyToLaunch pGpu fw w := by
    rintro rejoin w ⟨hb, hready⟩
    obtain ⟨⟨hrange, hlo, hhi⟩, ⟨hplm, hspeed0, hspeed1⟩, hsig⟩ := hready ⟨rfl, hcmp⟩ hfin
    exact StockState.readyToLaunch
      ⟨hb.exploitOff _, hrange, hlo, hhi, hplm, hspeed0, hspeed1, data, hdata, hsig data hfresh⟩
  refine ⟨fun rejoin w hr => hstate rejoin w (hr.reached (history_between h)), fun u addr w hi hoff => ?_⟩
  have hchk := hi.checked (history_between h)
  simp only [Op.Checked, hoff] at hchk
  exact hstate false w hchk

theorem stock_booter_precondition_sample :
    ∃ w, ComesTo sampleStock sampleGpu .normal .zero (preparedGsp .zero) (.cmp50V525StockBooter false) w ∧
      StockState lastSeen sampleGpu sampleFw w := by
  have hjump : ((sampleBoard.bootJump 3 sampleStock sampleGpu .normal .zero (preparedGsp .zero)).map
      fun x => (x.1, stateRegs.all fun r => lastSeen r x.2.log == lastRead r x.2.log)) =
      some (.cmp50V525StockBooter false, true) := by decide
  obtain ⟨⟨l, w⟩, hrun, hw⟩ := Option.map_eq_some_iff.mp hjump
  simp only [Prod.mk.injEq, List.all_eq_true, beq_iff_eq] at hw
  obtain ⟨rfl, hagree⟩ := hw
  have hr := sampleBoard.bootJump_comesTo hrun
  have h := (stock_booter_precondition (by decide) .refl (preparedGsp_prepared .zero) (by decide)).1 _ w hr
  exact ⟨w, hr, h.seen.2 hagree⟩

/-- A board on which every FWSEC run but the first of an attempt fails. -/
def refwsecFails : Board := { sampleBoard with fwsec := fun n => if n = 0 then .ok else .other 1 }

/-- The arrays after an attempt that committed its slot and could not replay FWSEC. -/
def unfinishedSlots : Slots := slotsAfter refwsecFails .normal .zero (preparedGsp .zero)

/-- A board that is lost after the last checks of the commit block: what the log lines read is no register any more. -/
def lostBoard : Board := { sampleBoard with logged := some 0xFFFFFFFF }

set_option maxRecDepth 4000 in
/-- The retry of such a slot comes to the stock Booter with the dwords of the exploit still in the signature buffer and
WPR2 down. And on the way of the first commit, what a log line reads after the last check is not looked at. -/
theorem stock_booter_unprepared :
    (History sampleStock (NormalAttempt sampleGpu) unfinishedSlots ∧
    Prepared sampleGpu sampleFw unfinishedSlots (preparedGsp unfinishedSlots) ∧
    ∃ w, ComesTo sampleStock sampleGpu .normal unfinishedSlots (preparedGsp unfinishedSlots)
        (.cmp50V525StockBooter true) w ∧
      w.slots.flag .exploitMode (cmp50ExploitModeIndex sampleGpu) = false ∧
      lastRead .wpr2AddrHi w.log = some 0 ∧ lastSeen .wpr2AddrHi w.log = some 0 ∧
      ∀ seen, ¬ StockState seen sampleGpu sampleFw w) ∧
    Prepared sampleGpu sampleFw .zero (preparedGsp .zero) ∧
    ∃ w, ComesTo sampleStock sampleGpu .normal .zero (preparedGsp .zero) (.cmp50V525StockBooter false) w ∧
      lastSeen .wpr2AddrHi w.log = some 0xFFFFFFFF ∧ ¬ StockState lastSeen sampleGpu sampleFw w := by
  refine ⟨⟨history_boot refwsecFails .normal _ .refl (by decide) fun _ _ =>
    ⟨rfl, rfl, sampleFw, preparedGsp_prepared _⟩,
    preparedGsp_prepared _, ?_⟩, preparedGsp_prepared _, ?_⟩
  · have hjump : ((sampleBoard.bootJump 1 sampleStock sampleGpu .normal unfinishedSlots
        (preparedGsp unfinishedSlots)).map fun x => (x.1, lastRead .wpr2AddrHi x.2.log, lastSeen .wpr2AddrHi x.2.log,
          x.2.slots.flag .exploitMode (cmp50ExploitModeIndex sampleGpu),
          x.2.gsp.pSignatureMemdesc.map fun m => m.mem.bytes 0)) =
        some (.cmp50V525StockBooter true, some 0, some 0, false, some 1) := by decide
    obtain ⟨⟨l, w⟩, hrun, hw⟩ := Option.map_eq_some_iff.mp hjump
    simp only [Prod.mk.injEq] at hw
    obtain ⟨rfl, hhi, hhi', hoff, hbyte⟩ := hw
    refine ⟨w, sampleBoard.bootJump_comesTo hrun, hoff, hhi, hhi', fun seen hstate => ?_⟩
    obtain ⟨data, hdata, m, hm, hsize, hbytes, -⟩ := hstate.signature
    cases hdata
    have hzero := hbytes 0 (Nat.lt_of_lt_of_le (by decide) hsize)
    simp only [hm, Option.map_some, Option.some.injEq] at hbyte
    exact absurd (hbyte.symm.trans hzero) (by decide)
  · have hjump : ((lostBoard.bootJump 3 sampleStock sampleGpu .normal .zero (preparedGsp .zero)).map
        fun x => (x.1, lastSeen .wpr2AddrHi x.2.log, lastSeen .fecsFeaturePlm x.2.log)) =
        some (.cmp50V525StockBooter false, some 0xFFFFFFFF, some 0xFFFFFFFF) := by decide
    obtain ⟨⟨l, w⟩, hrun, hw⟩ := Option.map_eq_some_iff.mp hjump
    simp only [Prod.mk.injEq] at hw
    obtain ⟨rfl, hhi, hplm⟩ := hw
    refine ⟨w, lostBoard.bootJump_comesTo hrun, hhi, fun hstate => ?_⟩
    exact absurd (hplm.symm.trans hstate.plm) (by decide)

/-! ## A change of the geometry -/

/-- From any reachable arrays with a captured range, attempts of one CMP50 that do not learn another range keep the
captured pair. The next attempt ends whatever the answers are, if and only if it is a NORMAL one or its mode is not
admitted to the FWSEC block; and it then keeps the pair and refuses every other range that FWSEC yields, unless it
learns one. -/
theorem geometry_change_fails_closed {stock : StockCode} {pGpu : ObjGpu} {s₀ s : Slots}
    (hcmp : isCmp50ComputeUnlock pGpu) (h₀ : History stock (fun a => a.pGpu = pGpu) s₀)
    (hr : s₀.HasRange (cmp50StockflowGpuIndex pGpu))
    (h : Later stock (fun a => a.pGpu = pGpu ∧ ¬ Relearns pGpu a.bootMode a.slots a.after.log) s₀ s) :
    (∀ b, s.wpr b (cmp50StockflowGpuIndex pGpu) = s₀.wpr b (cmp50StockflowGpuIndex pGpu)) ∧
    s.HasRange (cmp50StockflowGpuIndex pGpu) ∧
    ∀ bootMode g,
      (Goto.Halts Step (kgspBootstrap stock pGpu bootMode) .entry (startWorld s g) ↔
        bootMode = .normal ∨ stock.admitsFwsec bootMode = false) ∧
      ∀ r w, Returns stock pGpu bootMode s g r w →
        (FailsClosed s (cmp50StockflowGpuIndex pGpu) r w ↔ ¬ Relearns pGpu bootMode s w.log) := by
  have hinv : s.Between ∧ ∀ b, s.wpr b (cmp50StockflowGpuIndex pGpu) = s₀.wpr b (cmp50StockflowGpuIndex pGpu) := by
    refine h.inv (I := fun s => s.Between ∧ ∀ b, s.wpr b (cmp50StockflowGpuIndex pGpu) =
      s₀.wpr b (cmp50StockflowGpuIndex pGpu)) ⟨history_between h₀, fun _ => rfl⟩ ?_
    rintro a ⟨rfl, hnot⟩ hruns ⟨hb, hwpr⟩
    have hfails := (Returns.outcome hcmp hb hruns).failsClosed_iff.mpr hnot
    refine ⟨Returns.between hruns hb, fun b => ?_⟩
    cases b with
    | lo => exact hfails.lo.trans (hwpr .lo)
    | hi => exact hfails.hi.trans (hwpr .hi)
  refine ⟨hinv.2, ?_, fun bootMode g => ⟨halts_iff hcmp, fun r w hret => ?_⟩⟩
  · rwa [Slots.HasRange, hinv.2, hinv.2]
  · exact (Returns.outcome hcmp hinv.1 hret).failsClosed_iff

/-- A board on which the exploit-mode run of Booter fails. -/
def exploitFails : Board := { sampleBoard with falcon := .other 1 }

/-- The arrays after an attempt that captured the range and could not run the exploit. -/
def abortedSlots : Slots := slotsAfter exploitFails .normal .zero sampleGsp

/-- The same board with another range: WPR2 is up when an attempt starts. -/
def movedBoard : Board := { sampleBoard with wprStart := (0x3000, 0x3E00), wprStock := (0x3000, 0x3E00) }

theorem abortedSlots_history : History sampleStock (fun a => a.pGpu = sampleGpu) abortedSlots :=
  history_boot exploitFails .normal sampleGsp .refl (by decide) fun _ _ => rfl

theorem geometry_change_fails_closed_sample :
    ∃ r w, Returns sampleStock sampleGpu .normal bootedSlots sampleGsp r w ∧ FailsClosed bootedSlots 32 r w := by
  obtain ⟨r, w, hr, -⟩ := sample_attempt movedBoard .normal bootedSlots sampleGsp (by decide)
  have h := ((geometry_change_fails_closed (by decide) (history_booted fun _ _ => rfl) (by decide) .refl).2.2 .normal
    sampleGsp).2 _ _ hr
  refine ⟨r, w, hr, h.mpr fun hlearn => ?_⟩
  exact absurd hlearn.2.1 (by decide)

/-- After an aborted attempt, a board whose range moved boots with the new range in place of the captured one. -/
theorem geometry_relearned :
    History sampleStock (fun a => a.pGpu = sampleGpu) abortedSlots ∧ abortedSlots.HasRange 32 ∧
    ∃ w, Returns sampleStock sampleGpu .normal abortedSlots sampleGsp .ok w ∧
      w.slots.wpr .lo 32 ≠ abortedSlots.wpr .lo 32 ∧ ¬ FailsClosed abortedSlots 32 .ok w := by
  refine ⟨abortedSlots_history, by decide, ?_⟩
  have hrun : (movedBoard.boot sampleStock sampleGpu .normal abortedSlots sampleGsp).map
      (fun x => (x.1, x.2.slots.wpr .lo 32)) = some (.ok, 0x3000) := by decide
  obtain ⟨⟨r, w⟩, hrun, hw⟩ := Option.map_eq_some_iff.mp hrun
  simp only [Prod.mk.injEq] at hw
  obtain ⟨rfl, hlo⟩ := hw
  have hmoved : w.slots.wpr .lo 32 ≠ abortedSlots.wpr .lo 32 := hlo ▸ by decide
  exact ⟨w, movedBoard.boot_call hrun, hmoved, fun hf => hmoved hf.lo⟩

/-! ## The jump back -/

/-- Every call of the function on the device in the mode ends: it jumps back at most once, and the commit block that
it jumps back to leaves forward or returns. -/
structure CallsEnd (stock : StockCode) (pGpu : ObjGpu) (bootMode : BootMode) : Prop where
  halts : ∀ s g, Goto.Halts Step (kgspBootstrap stock pGpu bootMode) .entry (startWorld s g)
  once : ∀ s g n l w, Goto.Jumps Step (kgspBootstrap stock pGpu bootMode) isBackward .entry (startWorld s g) n l w →
    n ≤ 1
  forward : ∀ s g w l w',
    Goto.Jumps Step (kgspBootstrap stock pGpu bootMode) isBackward .entry (startWorld s g) 1 .cmp50V274Commit w →
    (commitPart stock pGpu bootMode).Exec Step w (.goto l) w' → ∃ rejoin, l = .cmp50V525StockBooter rejoin

/-- In a mode that is admitted to the FWSEC block, the calls on a device end exactly when it is no CMP50 or the mode
is NORMAL. -/
theorem calls_end_iff {stock : StockCode} {pGpu : ObjGpu} {bootMode : BootMode}
    (ha : stock.admitsFwsec bootMode = true) :
    CallsEnd stock pGpu bootMode ↔ ¬ (isCmp50ComputeUnlock pGpu ∧ bootMode ≠ .normal) := by
  constructor
  · rintro h ⟨hcmp, hm⟩
    exact not_halts hcmp hm ha (h.halts .zero ⟨none, none, 0, none, none, false, none⟩)
  · intro h
    have hloop : isCmp50ComputeUnlock pGpu → bootMode = .normal :=
    fun hcmp => Decidable.not_not.mp fun hm => h ⟨hcmp, hm⟩
    refine ⟨fun s g => halts_entry hloop, fun s g n l w hj => ?_, fun s g w l w' hj he => ?_⟩
    · have hn := jumped hloop hj
      cases l with
      | entry => exact hn ▸ Nat.zero_le 1
      | cmp50V274Commit => rcases hn with rfl | ⟨rfl, -⟩ <;> omega
      | cmp50V525StockBooter rejoin => exact hn
    · rcases jumped hloop hj with h₀ | ⟨-, hcmp, hr⟩
      · cases h₀
      · exact commitPart_ready ⟨hloop hcmp, hcmp⟩ hr he

theorem calls_end_sample : CallsEnd sampleStock sampleGpu .normal :=
  (calls_end_iff rfl).mpr fun h => h.2 rfl

/-- A resume of a CMP50 jumps back again and again. -/
theorem resume_loops : sampleStock.admitsFwsec .srResume = true ∧
    ¬ Goto.Halts Step (kgspBootstrap sampleStock sampleGpu .srResume) .entry (startWorld .zero sampleGsp) ∧
    ∀ n, ∃ w, Goto.Jumps Step (kgspBootstrap sampleStock sampleGpu .srResume) isBackward .entry
      (startWorld .zero sampleGsp) n .cmp50V274Commit w :=
  ⟨rfl, not_halts (by decide) (by decide) rfl, jumps_unbounded (by decide) (by decide) rfl⟩

/-! ## Several cards -/

theorem not_isolated {stock : StockCode} {ι : Type} [DecidableEq ι] {gpus : ι → ObjGpu} (hslot : ∀ i, HasSlot (gpus i))
    {i j : ι} (hij : i ≠ j) (hcmp : isCmp50ComputeUnlock (gpus i)) (hsame : SameBusDevice (gpus i) (gpus j)) :
    ¬ Isolated stock gpus := by
  intro hiso
  obtain ⟨k, hk⟩ := entry_reads stock hcmp
  have hrun : HostRuns stock gpus (idle .zero) _ :=
    .single (.thread i (.start .normal ⟨none, none, 0, none, none, false, none⟩))
  refine hiso.untouched .zero _ hrun i j hij .normal _ k _ []
    ((Function.update_self i _ _).trans (by rw [hk])) ?_
  simpa only [slotOf_eq (hslot j), stockflowGpuIndex_eq (hslot i), Op.Touches] using
    (slots_eq_iff (hslot i) (hslot j)).mpr hsame

/-- The cards of a host are isolated from each other exactly when no CMP50 shares bus and device with another card;
and two cards use the same slots exactly when they share bus and device, whatever their domains are. -/
theorem cards_isolated_iff {stock : StockCode} {ι : Type} [DecidableEq ι] {gpus : ι → ObjGpu}
    (hslot : ∀ i, HasSlot (gpus i)) :
    (Isolated stock gpus ↔
      ∀ i j, i ≠ j → isCmp50ComputeUnlock (gpus i) → ¬ SameBusDevice (gpus i) (gpus j)) ∧
    ∀ i j f f', slotOf (gpus i) f = slotOf (gpus j) f' ↔ SameBusDevice (gpus i) (gpus j) := by
  refine ⟨⟨fun hiso i j hij hcmp hsame => not_isolated hslot hij hcmp hsame hiso, fun hne => ⟨?_, ?_⟩⟩, ?_⟩
  · intro s pool hrun i j hij bootMode o k g log hown
    have hok := Pool.Runs.all_ok (cards_separated hslot hne).keeps hrun (idle_keepsToSlot s) i
    exact (hok _ hown).1.not_touches (hslot i) (hslot j) (hne i j hij)
  · intro s pool hrun i bootMode r g log hown t hst
    obtain ⟨t', halone, -⟩ := (cards_separated hslot hne).alone hrun (idle_keepsToSlot s) (i := i) (k := t) fun _ => hst
    obtain ⟨t₁, g₁, hlater, hsmall⟩ := hown ▸ underway halone
    exact ⟨t₁, g₁, t', hlater, Goto.call_of_small hsmall⟩
  · intro i j f f'
    rw [slotOf_eq (hslot i), slotOf_eq (hslot j), slots_eq_iff (hslot i) (hslot j)]

/-- The card `sampleGpu` and another one. -/
def twoCards (pGpu : ObjGpu) : Bool → ObjGpu
  | false => sampleGpu
  | true => pGpu

/-- A second CMP50, on the next bus. -/
def nextBusGpu : ObjGpu := { sampleGpu with bus := 2, gpuInstance := 1 }

/-- A second CMP50, at the same bus and device of another domain. -/
def nextDomainGpu : ObjGpu := { sampleGpu with domain := 1, gpuInstance := 1 }

theorem cards_isolated_sample : Isolated sampleStock (twoCards nextBusGpu) :=
  (cards_isolated_iff (by decide)).1.mpr (by decide)

/-- The second card of such a host boots alone, and is refused once the first one has booted. -/
theorem domains_alias : nextDomainGpu.domain ≠ sampleGpu.domain ∧ (∀ i, HasSlot (twoCards nextDomainGpu i)) ∧
    ¬ Isolated sampleStock (twoCards nextDomainGpu) ∧
    (movedBoard.boot sampleStock nextDomainGpu .normal .zero sampleGsp).map Prod.fst = some .ok ∧
    (movedBoard.boot sampleStock nextDomainGpu .normal bootedSlots sampleGsp).map Prod.fst = some .errInvalidState := by
  refine ⟨by decide, by decide, ?_, by decide, by decide⟩
  have hij : false ≠ true := by decide
  exact not_isolated (by decide) hij (by decide) (by decide)

/-! ## Other GPUs -/

/-- On a GPU that is no CMP50, the patched functions are the functions from before the patch: the same operations
in the same order, the same statuses, no store to the per-slot arrays. Its signature buffer gets the stock size and
content. -/
theorem other_gpus_stock {stock : StockCode} {pGpu : ObjGpu} (hcmp : isCmp50ComputeUnlock pGpu = false) :
    (∀ pFlcnUcode addr, kgspExecuteHsFalcon pGpu pFlcnUcode addr = Stock.kgspExecuteHsFalcon pFlcnUcode addr) ∧
    (∀ addr, kgspExecuteBooterLoad pGpu addr = Stock.kgspExecuteBooterLoad addr ∧
      (kgspExecuteBooterLoad pGpu addr).Uses Op.KeepsSlots) ∧
    (∀ bootMode s g,
      Goto.Halts Step (kgspBootstrap stock pGpu bootMode) .entry (startWorld s g) ∧
      (∀ r w, Returns stock pGpu bootMode s g r w ↔
        (Stock.kgspBootstrap stock bootMode).Exec Step (startWorld s g) r w) ∧
      (∀ o w, Issued stock pGpu bootMode s g o w ↔
        (Stock.kgspBootstrap stock bootMode).Issued Step (startWorld s g) o w) ∧
      (∀ o w, Issued stock pGpu bootMode s g o w → o.KeepsSlots) ∧
      ∀ r w, Returns stock pGpu bootMode s g r w → w.slots = s) ∧
    ∀ fw w r w', (kgspCreateSignatureMemdesc pGpu fw).Exec Step w r w' → w'.slots = w.slots ∧
      (∃ w'', (Stock.kgspCreateSignatureMemdesc fw).Exec Step w r w'' ∧ w''.gsp = w'.gsp) ∧
      (r = .ok → StockSignature fw w'.gsp) := by
  refine ⟨kgspExecuteHsFalcon_stock hcmp, fun addr => ⟨kgspExecuteBooterLoad_stock hcmp addr, ?_⟩,
    fun bootMode s g => ⟨?_, ?_, ?_, ?_, ?_⟩, fun fw w r w' he => (create_stock fw w hcmp).exec he⟩
  · exact (own_of_routine (booterLoad_routine addr)).mono (fun _ ho => ho.keepsSlots hcmp) fun _ h => h
  · exact halts_entry fun h => absurd h (by simp [hcmp])
  · exact (inlines_stock hcmp).call (startWorld s g)
  · exact (inlines_stock hcmp).issues (startWorld s g)
  · exact fun o w hi => issued_keepsSlots hcmp hi
  · exact fun r w hr => returns_keepsSlots hcmp hr

/-- The same chip on another board. -/
def otherGpu : ObjGpu := { sampleGpu with pciSubDeviceId := 0x000010DE }

theorem other_gpus_stock_sample :
    kgspExecuteBooterLoad otherGpu 0x300000 = Stock.kgspExecuteBooterLoad 0x300000 :=
  ((@other_gpus_stock sampleStock otherGpu (by decide)).2.1 0x300000).1

end Cmp50Unlock.Stockflow
