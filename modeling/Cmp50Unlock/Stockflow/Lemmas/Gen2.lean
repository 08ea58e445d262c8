import Cmp50Unlock.Stockflow.Gen2

/-!
# The Gen2 policy, step by step

The read-back only reads and decides the conditions, and the two lists of writes act on the registers as writes to
a bank.
-/

namespace Cmp50Unlock.Stockflow

open Lib

/-- The ten registers that the policy writes, in the order in which they are put back. -/
def policyRegs : List Reg :=
  [.pcieXp3gOverride0, .pcieXp3gValue0, .pcieXp3gOverride3, .pcieXp3gValue3, .pciePrivMisc1, .pcieVsecHierarchy,
    .pcieCya0, .pcieLinkConfig0, .pciePlLinkRate, .pcieLtssm]

/-- The policy's values for registers that hold `regs`, in the order of the writes. -/
def policyWrites (regs : Bank Reg 32) : List (Reg × BitVec 32) :=
  [(.pciePrivMisc1, (regs .pciePrivMisc1 ||| privMisc1Gen2En) &&& ~~~privMisc1Gen2Val),
    (.pcieXp3gValue0, 0), (.pcieXp3gOverride0, 1), (.pcieXp3gValue3, 0x00200000), (.pcieXp3gOverride3, 4),
    (.pcieVsecHierarchy, (regs .pcieVsecHierarchy &&& ~~~(1#32 <<< 12)) ||| 1),
    (.pcieCya0, regs .pcieCya0 &&& ~~~(1#32 <<< 2)),
    (.pcieLinkConfig0, (regs .pcieLinkConfig0 &&& ~~~0x000C0000#32) ||| (2 <<< 18)),
    (.pciePlLinkRate, (regs .pciePlLinkRate &&& ~~~plLinkRateSpeedMask) ||| plLinkRateGen2),
    (.pcieLtssm, 6)]

section
variable {mask regs : Bank Reg 32} {G : Chip → Op → Prop} {c : Chip}

@[simp] theorem regs_after {o : Op} : (c.after mask o).regs = regsAfter mask c.regs o := rfl

theorem regs_after_print {m : Msg} : (c.after mask (.act (.print m))).regs = c.regs := rfl

@[simp] theorem passed_after {o : Op} : (c.after mask o).Passed ↔ .act (.print .policyPass) = o ∨
    c.Passed := List.mem_cons

@[simp] theorem wp_rd_chip {r} {Q : BitVec 32 → Chip → Prop} : (rd r).wp (ChipStep mask) G c Q ↔
    G c (.rd r) ∧ Q (c.regs r) (c.after mask (.rd r)) :=
  ⟨fun h => ⟨h.1, h.2 _ _ ⟨rfl, rfl⟩⟩, fun h => ⟨h.1, fun _ _ hs => hs.1 ▸ hs.2 ▸ h.2⟩⟩

theorem read_then {α : Type} {r : Reg} {f : BitVec 32 → Driver α} {Q : α → Chip → Prop} (hG : G c (.rd r))
    (h : (f (c.regs r)).wp (ChipStep mask) G (c.after mask (.rd r)) Q) : (rd r >>= f).wp (ChipStep mask) G c Q := by
  rw [Prog.wp_bind, wp_rd_chip]
  exact ⟨hG, h⟩

@[simp] theorem wp_act_chip {a} {Q : Unit → Chip → Prop} : (act a).wp (ChipStep mask) G c Q ↔
    G c (.act a) ∧ Q () (c.after mask (.act a)) :=
  ⟨fun h => ⟨h.1, h.2 () _ ⟨trivial, rfl⟩⟩, fun h => ⟨h.1, fun _ _ hs => hs.2 ▸ h.2⟩⟩

@[simp] theorem wp_print_chip {m} {Q : Unit → Chip → Prop} : (print m).wp (ChipStep mask) G c Q ↔
    G c (.act (.print m)) ∧ Q () (c.after mask (.act (.print m))) := wp_act_chip

end

/-! ## The read-back -/

/-- `p` only reads, and decides `P`. -/
def Decides (mask : Bank Reg 32) (p : Driver Bool) (P : Bank Reg 32 → Prop) : Prop :=
  ∀ c, p.wp (ChipStep mask) (fun c' o => c'.regs = c.regs ∧ ¬ o.WritesReg) c fun b c' =>
    (b = true ↔ P c.regs) ∧ c'.regs = c.regs ∧ (c'.Passed ↔ c.Passed)

section
variable {mask : Bank Reg 32}

theorem decides_rd {r : Reg} (t : BitVec 32 → Bool) :
    Decides mask (do return t (← rd r)) fun regs => t (regs r) = true := by
  intro c
  simp [Op.WritesReg, Chip.Passed, Chip.after, regsAfter]

theorem Decides.andAlso {p q : Driver Bool} {P Q : Bank Reg 32 → Prop} (hp : Decides mask p P) (hq : Decides mask q Q) :
    Decides mask (andAlso p q) fun regs => P regs ∧ Q regs := by
  intro c
  rw [Stockflow.andAlso, Prog.wp_bind]
  refine (hp c).mono fun b c₁ hpost => ?_
  obtain ⟨hb, hregs, hpassed⟩ := hpost
  cases b with
  | false =>
      have hnot : ¬ P c.regs := fun h => by cases hb.2 h
      exact ⟨iff_of_false (by simp) fun h => hnot h.1, hregs, hpassed⟩
  | true =>
      have hP : P c.regs := hb.1 rfl
      have h := hq c₁
      rw [hregs] at h
      refine h.mono fun b c₂ hpost => ?_
      obtain ⟨hb₂, hregs₂, hpassed₂⟩ := hpost
      refine ⟨?_, hregs₂, hpassed₂.trans hpassed⟩
      exact hb₂.trans ⟨fun hQ => ⟨hP, hQ⟩, fun hPQ => hPQ.2⟩

theorem policyOk_decides : Decides mask policyOk PolicyHolds := by
  intro c
  have h := (@decides_rd mask .pcieXp3gValue0 (· == 0)).andAlso <|
    (decides_rd (r := .pcieXp3gOverride0) (· == 1)).andAlso <|
    (decides_rd (r := .pcieXp3gValue3) (· == 0x00200000)).andAlso <|
    (decides_rd (r := .pcieXp3gOverride3) (· == 4)).andAlso <|
    (decides_rd (r := .pciePrivMisc1) (· &&& privMisc1Gen2En == privMisc1Gen2En)).andAlso <|
    (decides_rd (r := .pciePrivMisc1) (· &&& privMisc1Gen2Val == 0)).andAlso <|
    (decides_rd (r := .pcieVsecHierarchy) (· &&& ((1 <<< 12) ||| 1) == 1)).andAlso <|
    (decides_rd (r := .pcieCya0) (· &&& (1 <<< 2) == 0)).andAlso <|
    (decides_rd (r := .pcieLinkConfig0) (fun v => (v >>> 18) &&& 3 == 2)).andAlso <|
    (decides_rd (r := .pciePlLinkRate) (· &&& plLinkRateSpeedMask == plLinkRateGen2)).andAlso <|
    decides_rd (r := .pcieLtssm) (· == 6)
  refine (h c).mono fun b c' ⟨hb, hc⟩ => ⟨hb.trans ?_, hc⟩
  simp only [policyHolds_iff, beq_iff_eq]

theorem policyOk_then {c : Chip} {G : Chip → Op → Prop} {Q : Bool → Chip → Prop}
    (hG : ∀ c' o, c'.regs = c.regs → ¬ o.WritesReg → G c' o)
    (hQ : ∀ b c', (b = true ↔ PolicyHolds c.regs) → c'.regs = c.regs → (c'.Passed ↔ c.Passed) → Q b c') :
    policyOk.wp (ChipStep mask) G c Q :=
  (policyOk_decides c).imp (fun c' o h => hG c' o h.1 h.2) fun b c' h => hQ b c' h.1 h.2.1 h.2.2

end

/-! ## The writes -/

def writeRegs (ws : List (Reg × BitVec 32)) : Driver Unit := ws.forM fun w => act (.regWr32 w.1 w.2)

section
variable {mask : Bank Reg 32}

theorem writeRegs_wp {ws : List (Reg × BitVec 32)} {c : Chip} {I : Bank Reg 32 → Prop}
    (hI : ∀ regs, ∀ w ∈ ws, I regs → I (regs.write mask w.1 w.2)) (hc : I c.regs) :
    (writeRegs ws).wp (ChipStep mask) (fun c' _ => I c'.regs) c fun _ c' =>
      c'.regs = c.regs.writes mask ws ∧ (c'.Passed ↔ c.Passed) := by
  induction ws generalizing c with
  | nil => exact ⟨rfl, Iff.rfl⟩
  | cons w ws ih =>
      rw [writeRegs, List.forM, Prog.wp_bind, wp_act_chip]
      obtain ⟨hw, hrest⟩ := List.forall_mem_cons.1 (fun w hw regs => hI regs w hw)
      refine ⟨hc, (ih (fun regs w' hw' => hrest w' hw' regs) (hw _ hc)).mono ?_⟩
      rintro _ c' ⟨hregs, hpassed⟩
      exact ⟨hregs, hpassed.trans (by simp [Chip.Passed, Chip.after])⟩

/-- The source of the policy with its two lists of writes. -/
theorem applyGen2Policy_eq : cmp50ApplyGen2Policy = (do
    let xp3gPlm ← rd .pcieXp3gPlm0
    let _ ← rd .pcieVsecDevice
    let privMisc ← rd .pciePrivMisc1
    if xp3gPlm ≠ 0xFFFFFFFF then
      print .protectedGateFail
    else
      let ovr0 ← rd .pcieXp3gOverride0
      let val0 ← rd .pcieXp3gValue0
      let ovr3 ← rd .pcieXp3gOverride3
      let val3 ← rd .pcieXp3gValue3
      let hierarchy ← rd .pcieVsecHierarchy
      let cya0 ← rd .pcieCya0
      let config ← rd .pcieLinkConfig0
      let rate ← rd .pciePlLinkRate
      let ltssm ← rd .pcieLtssm
      writeRegs [(.pciePrivMisc1, (privMisc ||| privMisc1Gen2En) &&& ~~~privMisc1Gen2Val),
        (.pcieXp3gValue0, 0), (.pcieXp3gOverride0, 1), (.pcieXp3gValue3, 0x00200000), (.pcieXp3gOverride3, 4),
        (.pcieVsecHierarchy, (hierarchy &&& ~~~(1#32 <<< 12)) ||| 1), (.pcieCya0, cya0 &&& ~~~(1#32 <<< 2)),
        (.pcieLinkConfig0, (config &&& ~~~0x000C0000#32) ||| (2 <<< 18)),
        (.pciePlLinkRate, (rate &&& ~~~plLinkRateSpeedMask) ||| plLinkRateGen2), (.pcieLtssm, 6)]
      if ← policyOk then
        print .policyPass
      else
        print .policyMismatch
        writeRegs [(.pcieXp3gOverride0, ovr0), (.pcieXp3gValue0, val0), (.pcieXp3gOverride3, ovr3),
          (.pcieXp3gValue3, val3), (.pciePrivMisc1, privMisc), (.pcieVsecHierarchy, hierarchy), (.pcieCya0, cya0),
          (.pcieLinkConfig0, config), (.pciePlLinkRate, rate), (.pcieLtssm, ltssm)]
        print .policyRollback) := rfl

/-! ## The values of the policy -/

theorem policyWrites_outside (regs : Bank Reg 32) : OnlyPolicyBits regs (regs.writes mask (policyWrites regs)) := by
  refine Bank.writes_and fun w hw => ?_
  simp only [policyWrites, List.mem_cons, List.not_mem_nil, or_false] at hw
  rcases hw with rfl | rfl | rfl | rfl | rfl | rfl | rfl | rfl | rfl | rfl
  · exact or_and_not_outside (k := policyField .pciePrivMisc1) (by decide) (by decide)
  · simp [policyField]
  · simp [policyField]
  · simp [policyField]
  · simp [policyField]
  · exact and_not_or_outside (k := policyField .pcieVsecHierarchy) (by decide) (by decide)
  · have h := and_not_or_outside (x := regs .pcieCya0) (a := 1#32 <<< 2) (b := 0) (k := policyField .pcieCya0)
      (by decide) (by decide)
    simpa using h
  · exact and_not_or_outside (k := policyField .pcieLinkConfig0) (by decide) (by decide)
  · exact and_not_or_outside (k := policyField .pciePlLinkRate) (by decide) (by decide)
  · simp [policyField]

/-- The bits of a register in a part of a field. -/
theorem and_of_and {x a b k : BitVec 32} (h : x &&& k = b) (ha : k &&& a = a) : x &&& a = b &&& a := by
  rw [← h, BitVec.and_assoc, ha]

theorem linkConfig0_field {x : BitVec 32} (h : (x >>> 18) &&& 3#32 = 2#32) : x &&& 0x000C0000#32 = 2#32 <<< 18 := by
  have hshift : ((x >>> 18) &&& 3#32) <<< 18 = x &&& (3#32 <<< 18) := by
    apply BitVec.eq_of_getLsbD_eq
    intro i hi
    simp only [BitVec.getLsbD_and, BitVec.getLsbD_shiftLeft, BitVec.getLsbD_ushiftRight]
    by_cases hlow : i < 18
    · simp [hlow]
    · have hpos : 18 + (i - 18) = i := by omega
      simp [hi, hlow, hpos]
  have hmask : 0x000C0000#32 = 3#32 <<< 18 := by decide
  rw [hmask, ← hshift, h]

/-- Where the conditions hold, the policy writes what is there. -/
theorem PolicyHolds.policyWrites {regs : Bank Reg 32} (h : PolicyHolds regs) :
    ∀ w ∈ policyWrites regs, w.2 = regs w.1 := by
  intro w hw
  simp only [Stockflow.policyWrites, List.mem_cons, List.not_mem_nil, or_false] at hw
  rcases hw with rfl | rfl | rfl | rfl | rfl | rfl | rfl | rfl | rfl | rfl
  · exact or_and_not_eq_self h.privMiscEn h.privMiscVal
  · exact h.value0.symm
  · exact h.override0.symm
  · exact h.value3.symm
  · exact h.override3.symm
  · exact and_not_or_eq_self (and_of_and h.hierarchy (by decide)) (and_of_and h.hierarchy (by decide))
  · have hcya := and_not_or_eq_self (b := 0) (h.cya0.trans (by decide)) (by simp)
    simpa using hcya
  · have hfield := linkConfig0_field h.linkConfig0
    exact and_not_or_eq_self (hfield.trans (by decide)) (and_of_and hfield (by decide))
  · exact and_not_or_eq_self (h.plLinkRate.trans (by decide)) (and_of_and h.plLinkRate (by decide))
  · exact h.ltssm.symm

theorem policyWrites_regs {regs : Bank Reg 32} : ∀ r ∈ (policyWrites regs).map Prod.fst, r ∈ policyRegs := by
  simp [policyWrites, policyRegs]

/-- What a chip with the registers `regs` keeps during the policy, if the conditions hold already. -/
def KeptIfHolds (regs regs' : Bank Reg 32) : Prop := PolicyHolds regs → regs' = regs

theorem keptIfHolds_policyWrites {regs regs' : Bank Reg 32} : ∀ w ∈ policyWrites regs, KeptIfHolds regs regs' →
    KeptIfHolds regs (regs'.write mask w.1 w.2) := by
  intro w hw hkept h
  rw [hkept h, h.policyWrites w hw, Bank.write_eq_self]

theorem keptIfHolds_writes (regs : Bank Reg 32) : KeptIfHolds regs (regs.writes mask (policyWrites regs)) := by
  suffices h : ∀ ws regs', (∀ w ∈ ws, w ∈ policyWrites regs) → KeptIfHolds regs regs' →
      KeptIfHolds regs (regs'.writes mask ws) from h _ _ (fun _ => id) fun _ => rfl
  intro ws
  induction ws with
  | nil => exact fun _ _ h => h
  | cons w ws ih =>
      intro regs' hws hkept
      obtain ⟨hw, hrest⟩ := List.forall_mem_cons.1 hws
      exact ih _ hrest (keptIfHolds_policyWrites w hw hkept)

/-- The end of the policy, after its writes. -/
theorem policyEnd_wp {regs : Bank Reg 32} {c : Chip} (hplm : regs .pcieXp3gPlm0 = 0xFFFFFFFF) (hlog : ¬ c.Passed)
    (hc : c.regs = regs.writes mask (policyWrites regs)) :
    (do
      if ← policyOk then
        print .policyPass
      else
        print .policyMismatch
        writeRegs (policyRegs.map fun r => (r, regs r))
        print .policyRollback).wp (ChipStep mask)
      (fun c' o => (o.WritesReg → regs .pcieXp3gPlm0 = 0xFFFFFFFF) ∧ KeptIfHolds regs c'.regs) c
      fun _ c' => PolicyOutcome regs c' ∧ KeptIfHolds regs c'.regs := by
  have hkept : KeptIfHolds regs c.regs := hc ▸ keptIfHolds_writes regs
  rw [Prog.wp_bind]
  refine policyOk_then (fun c' o hr _ => ⟨fun _ => hplm, hr ▸ hkept⟩) fun b c' hb hr hp => ?_
  cases b with
  | true =>
      have hpass : (c'.after mask (.act (.print .policyPass))).Passed := List.mem_cons_self
      simp only [if_true, wp_print_chip, regs_after_print, hr]
      refine ⟨⟨fun _ => hplm, hkept⟩, .inr (.inl ⟨hpass, ?_, ?_⟩), hkept⟩
      · rw [regs_after_print, hr]
        exact hb.1 rfl
      · rw [regs_after_print, hr, hc]
        exact policyWrites_outside regs
  | false =>
      have hnot : ¬ PolicyHolds c.regs := fun h => nomatch hb.2 h
      have hfails : ¬ PolicyHolds regs := fun h => hnot (hkept h ▸ h)
      have hrestored : c.regs.writes mask (policyRegs.map fun r => (r, regs r)) = regs := by
        rw [hc]
        exact Bank.writes_restore policyWrites_regs
      simp only [Bool.false_eq_true, if_false, Prog.wp_bind, wp_print_chip]
      refine ⟨⟨fun _ => hplm, hr.symm ▸ hkept⟩, (writeRegs_wp (I := fun _ => True) (fun _ _ _ _ => trivial) trivial).imp
        (fun _ _ _ => ⟨fun _ => hplm, fun h => absurd h hfails⟩) ?_⟩
      rintro _ c'' ⟨hr'', hp''⟩
      have hback : c''.regs = regs := by
        rw [hr'', regs_after_print, hr, hrestored]
      have hlog' : ¬ c''.Passed := by
        rw [hp'', passed_after, hp]
        simpa using hlog
      refine ⟨⟨fun _ => hplm, fun _ => hback⟩, .inr (.inr ⟨?_, hback⟩), fun _ => hback⟩
      rw [passed_after]
      simpa using hlog'

theorem applyGen2Policy_wp {c : Chip} (hlog : ¬ c.Passed) : cmp50ApplyGen2Policy.wp (ChipStep mask)
    (fun c' o => (o.WritesReg → c.regs .pcieXp3gPlm0 = 0xFFFFFFFF) ∧ KeptIfHolds c.regs c'.regs) c
    fun _ c' => PolicyOutcome c.regs c' ∧ KeptIfHolds c.regs c'.regs := by
  have hkept : KeptIfHolds c.regs c.regs := fun _ => rfl
  rw [applyGen2Policy_eq]
  iterate 3 refine read_then ⟨nofun, hkept⟩ ?_
  rw [Prog.wp_ite]
  refine ⟨fun hplm => ?_, fun hplm => ?_⟩
  · rw [wp_print_chip]
    exact ⟨⟨nofun, hkept⟩, .inl ⟨hplm, by simpa using hlog, rfl⟩, hkept⟩
  · have hplm : c.regs .pcieXp3gPlm0 = 0xFFFFFFFF := not_not.1 hplm
    iterate 9 refine read_then ⟨nofun, hkept⟩ ?_
    simp only [regs_after, regsAfter]
    rw [Prog.wp_bind]
    refine (@writeRegs_wp mask (policyWrites c.regs) _ (KeptIfHolds c.regs) ?_ ?_).imp ?_ ?_
    · exact fun _ w hw => keptIfHolds_policyWrites w hw
    · exact hkept
    · exact fun c' o h => ⟨fun _ => hplm, h⟩
    · rintro _ c' ⟨hr, hp⟩
      refine policyEnd_wp hplm ?_ hr
      rw [hp]
      simpa using hlog

theorem PolicyHolds.gateAccepts {regs : Bank Reg 32} (h : PolicyHolds regs) : GateAccepts regs :=
  ⟨.pcieCya0, .pcieLinkConfig0, .pciePlLinkRate, rfl, rfl, rfl, h.cya0, h.linkConfig0, h.plLinkRate⟩

theorem PolicyOutcome.holds {regs : Bank Reg 32} {c : Chip} (h : PolicyOutcome regs c) (hp : c.Passed) :
    PolicyHolds c.regs := by
  rcases h with ⟨-, hnot, -⟩ | ⟨-, hholds, -⟩ | ⟨hnot, -⟩
  · exact absurd hp hnot
  · exact hholds
  · exact absurd hp hnot

end

end Cmp50Unlock.Stockflow
