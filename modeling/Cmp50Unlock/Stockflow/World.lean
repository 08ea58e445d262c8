import Cmp50Unlock.Lib.Wp
import Cmp50Unlock.Stockflow.Basic

/-!
# What an operation does

The state of one boot attempt: the module-lifetime arrays, the `KernelGsp` object and the log of the
operations issued so far with their answers, the newest first. Registers are not part of the state: each
read may return anything. What the driver knows of a register is the last value it read.
-/

namespace Cmp50Unlock.Stockflow

open Lib

/-- An operation with its answer. -/
abbrev Event := (o : Op) × o.Ans

structure World where
  slots : Slots
  gsp : KernelGsp
  log : List Event

/-! ## Memory -/

namespace KernelGsp

variable (g : KernelGsp)

/-- A successful `memdescCreate`; the memory behind the descriptor is not there yet. -/
def create : Memdesc → Nat → KernelGsp
  | .signature, size => { g with pSignatureMemdesc := some ⟨size, 0, fun _ => 0⟩ }
  | .freshMeta, _ => { g with pFreshMeta := some ⟨0, 0, 0, 0, 0⟩ }
  | .wprMeta, _ => g

/-- A successful `memdescTagAlloc`. -/
def alloc (b : Backing) : Memdesc → KernelGsp
  | .signature => { g with pSignatureMemdesc := g.pSignatureMemdesc.map fun m => { m with mem := b } }
  | .freshMeta => { g with pFreshMeta := g.pFreshMeta.map fun m => { m with phys := b.phys } }
  | .wprMeta => g

def destroy : Memdesc → KernelGsp
  | .signature => { g with pSignatureMemdesc := none }
  | .freshMeta => { g with pFreshMeta := none }
  | .wprMeta => g

/-- The microcode leaves `m` in the page at `addr`, be it the fresh page or the canonical one. -/
def launched (addr : BitVec 64) (m : WprMeta) : KernelGsp :=
  { g with
    pFreshMeta := g.pFreshMeta.map fun p => if p.phys = addr then { p with content := m } else p
    pWprMeta := if g.pWprMetaDescriptor = some addr then g.pWprMeta.map fun _ => m else g.pWprMeta }

/-- The effect of an operation without an answer. -/
def act : Act → KernelGsp
  | .setWprMeta m => { g with pWprMeta := some m }
  | .memdescDestroy m => g.destroy m
  | .putSignature f => { g with
      pSignatureMemdesc := g.pSignatureMemdesc.map fun m => { m with mem := ⟨m.mem.phys, f m.mem.bytes⟩ } }
  | .putFreshMeta m => { g with pFreshMeta := g.pFreshMeta.map fun p => { p with content := m } }
  | .putStockSignature data size => { g with pStockSignatureData := some data, stockSignatureSize := size }
  | .portMemFreeStock => { g with pStockSignatureData := none, stockSignatureSize := 0 }
  | .portMemFreeFwsecCmd => { g with pPreparedFwsecCmd := false }
  | _ => g

/-- The effect of any operation with its answer. -/
def step : (o : Op) → o.Ans → KernelGsp
  | .hal (.memdescCreate m size), .ok => g.create m size
  | .tagAlloc m, (.ok, b) => g.alloc b m
  | .act a, _ => g.act a
  | .launch _ addr, m => g.launched addr m
  | _, _ => g

end KernelGsp

/-- The effect of an operation on the module-lifetime arrays. -/
def Slots.step (s : Slots) : Op → Slots
  | .act (.setFlag f i b) => s.setFlag f i b
  | .act (.setWpr b i v) => s.setWpr b i v
  | _ => s

/-- Reads of memory return what is there; every other answer is possible. -/
def World.Admits (w : World) : (o : Op) → o.Ans → Prop
  | .getFlag f i, a => a = w.slots.flag f i
  | .getWpr b i, a => a = w.slots.wpr b i
  | .getGsp, a => a = w.gsp
  | _, _ => True

def World.after (w : World) (o : Op) (a : o.Ans) : World :=
  ⟨w.slots.step o, w.gsp.step o a, ⟨o, a⟩ :: w.log⟩

/-- One operation of the driver. -/
def Step (o : Op) (w : World) (a : o.Ans) (w' : World) : Prop :=
  w.Admits o a ∧ w' = w.after o a

/-- The log tells the answers. -/
theorem recorded : Prog.Recorded Step fun w w' => w.log <:+ w'.log where
  refl w := List.suffix_refl w.log
  trans _ _ _ h h' := h.trans h'
  later o w a _ hs := hs.2 ▸ List.suffix_cons _ _
  unique o w a₁ w₁ a₂ w₂ w' h₁ h₂ hl₁ hl₂ := by
    obtain ⟨-, rfl⟩ := h₁
    obtain ⟨-, rfl⟩ := h₂
    have hlog : (⟨o, a₁⟩ :: w.log : List Event) = ⟨o, a₂⟩ :: w.log :=
      (List.suffix_of_suffix_length_le hl₁ hl₂ (Nat.le_refl _)).eq_of_length rfl
    cases hlog
    exact ⟨rfl, rfl⟩

/-! ## What the driver knows of a register -/

/-- The last value of `r` that the code itself read, log lines apart. -/
def lastRead (r : Reg) : List Event → Option (BitVec 32)
  | [] => none
  | ⟨.rd r', v⟩ :: log => if r' = r then some v else lastRead r log
  | _ :: log => lastRead r log

/-- The last value read from `r`, be it only to print it. -/
def lastSeen (r : Reg) : List Event → Option (BitVec 32)
  | [] => none
  | ⟨.rd r', v⟩ :: log => if r' = r then some v else lastSeen r log
  | ⟨.logRd rs, v⟩ :: log => if r ∈ rs then some (v r) else lastSeen r log
  | _ :: log => lastSeen r log

/-- What a reader of the log takes for the value of a register. -/
abbrev Reading := Reg → List Event → Option (BitVec 32)

/-! ## The operations as programs -/

def rd (r : Reg) : Driver (BitVec 32) := Prog.lift (Op.rd r)

def hal (c : Hal) : Driver NvStatus := Prog.lift (Op.hal c)

def test (t : Test) : Driver Bool := Prog.lift (Op.test t)

def act (a : Act) : Driver Unit := Prog.lift (Op.act a)

def getFlag (f : SlotFlag) (i : Nat) : Driver Bool := Prog.lift (Op.getFlag f i)

def getWpr (b : WprBound) (i : Nat) : Driver (BitVec 32) := Prog.lift (Op.getWpr b i)

def getGsp : Driver KernelGsp := Prog.lift Op.getGsp

def tagAlloc (m : Memdesc) : Driver (NvStatus × Backing) := Prog.lift (Op.tagAlloc m)

def launch (u : FlcnUcode) (addr : BitVec 64) : Driver WprMeta := Prog.lift (Op.launch u addr)

/-- `NV_PRINTF` -/
def print (m : Msg) : Driver Unit := act (.print m)

/-- `NV_PRINTF` with registers among its arguments. -/
def printRegs (m : Msg) (rs : List Reg) : Driver Unit := do
  let _ ← Prog.lift (Op.logRd rs)
  print m

/-- The `||` of C: the right side runs only when the left side is false. -/
def orElse (p q : Driver Bool) : Driver Bool := do
  if ← p then return true else q

/-- The `&&` of C. -/
def andAlso (p q : Driver Bool) : Driver Bool := do
  if ← p then q else return false

/-- `GPU_REG_RD32(pGpu, r) != v` -/
def rdNe (r : Reg) (v : BitVec 32) : Driver Bool := do
  return (← rd r) != v

/-- `GPU_REG_RD32(pGpu, r) == v` -/
def rdEq (r : Reg) (v : BitVec 32) : Driver Bool := do
  return (← rd r) == v

/-! ## Footprints and preconditions of the operations -/

section
variable {w : World} {S : Op → Prop} {G : World → Op → Prop}

@[simp] theorem within_rd {r} {Q : BitVec 32 → Prop} :
    (rd r).Within S Q ↔ S (.rd r) ∧ ∀ a, Q a := Prog.within_lift

@[simp] theorem within_hal {c} {Q : NvStatus → Prop} :
    (hal c).Within S Q ↔ S (.hal c) ∧ ∀ a, Q a := Prog.within_lift

@[simp] theorem within_test {t} {Q : Bool → Prop} :
    (test t).Within S Q ↔ S (.test t) ∧ ∀ a, Q a := Prog.within_lift

@[simp] theorem within_act {a} {Q : Unit → Prop} :
    (act a).Within S Q ↔ S (.act a) ∧ Q () := ⟨fun h => ⟨h.1, h.2 ()⟩, fun h => ⟨h.1, fun _ => h.2⟩⟩

@[simp] theorem within_print {m} {Q : Unit → Prop} :
    (print m).Within S Q ↔ S (.act (.print m)) ∧ Q () := ⟨fun h => ⟨h.1, h.2 ()⟩, fun h => ⟨h.1, fun _ => h.2⟩⟩

@[simp] theorem within_printRegs {m rs} {Q : Unit → Prop} :
    (printRegs m rs).Within S Q ↔ S (.logRd rs) ∧ S (.act (.print m)) ∧ Q () :=
  ⟨fun h => ⟨h.1, (h.2 fun _ => 0).1, (h.2 fun _ => 0).2 ()⟩, fun h => ⟨h.1, fun _ => ⟨h.2.1, fun _ => h.2.2⟩⟩⟩

@[simp] theorem within_getFlag {f i} {Q : Bool → Prop} :
    (getFlag f i).Within S Q ↔ S (.getFlag f i) ∧ ∀ a, Q a := Prog.within_lift

@[simp] theorem within_getWpr {b i} {Q : BitVec 32 → Prop} :
    (getWpr b i).Within S Q ↔ S (.getWpr b i) ∧ ∀ a, Q a := Prog.within_lift

@[simp] theorem within_getGsp {Q : KernelGsp → Prop} :
    getGsp.Within S Q ↔ S .getGsp ∧ ∀ a, Q a := Prog.within_lift

@[simp] theorem within_tagAlloc {m} {Q : NvStatus × Backing → Prop} :
    (tagAlloc m).Within S Q ↔ S (.tagAlloc m) ∧ ∀ a, Q a := Prog.within_lift

@[simp] theorem within_launch {u addr} {Q : WprMeta → Prop} :
    (launch u addr).Within S Q ↔ S (.launch u addr) ∧ ∀ a, Q a := Prog.within_lift

@[simp] theorem wp_rd {r} {Q : BitVec 32 → World → Prop} :
    (rd r).wp Step G w Q ↔ G w (.rd r) ∧ ∀ a, Q a (w.after (.rd r) a) :=
  ⟨fun h => ⟨h.1, fun a => h.2 a _ ⟨trivial, rfl⟩⟩, fun h => ⟨h.1, fun a _ hs => hs.2 ▸ h.2 a⟩⟩

@[simp] theorem wp_hal {c} {Q : NvStatus → World → Prop} :
    (hal c).wp Step G w Q ↔ G w (.hal c) ∧ ∀ a, Q a (w.after (.hal c) a) :=
  ⟨fun h => ⟨h.1, fun a => h.2 a _ ⟨trivial, rfl⟩⟩, fun h => ⟨h.1, fun a _ hs => hs.2 ▸ h.2 a⟩⟩

@[simp] theorem wp_test {t} {Q : Bool → World → Prop} :
    (test t).wp Step G w Q ↔ G w (.test t) ∧ ∀ a, Q a (w.after (.test t) a) :=
  ⟨fun h => ⟨h.1, fun a => h.2 a _ ⟨trivial, rfl⟩⟩, fun h => ⟨h.1, fun a _ hs => hs.2 ▸ h.2 a⟩⟩

@[simp] theorem wp_act {a} {Q : Unit → World → Prop} :
    (act a).wp Step G w Q ↔ G w (.act a) ∧ Q () (w.after (.act a) ()) :=
  ⟨fun h => ⟨h.1, h.2 () _ ⟨trivial, rfl⟩⟩, fun h => ⟨h.1, fun _ _ hs => hs.2 ▸ h.2⟩⟩

@[simp] theorem wp_print {m} {Q : Unit → World → Prop} :
    (print m).wp Step G w Q ↔ G w (.act (.print m)) ∧ Q () (w.after (.act (.print m)) ()) :=
  ⟨fun h => ⟨h.1, h.2 () _ ⟨trivial, rfl⟩⟩, fun h => ⟨h.1, fun _ _ hs => hs.2 ▸ h.2⟩⟩

@[simp] theorem wp_printRegs {m rs} {Q : Unit → World → Prop} : (printRegs m rs).wp Step G w Q ↔
    G w (.logRd rs) ∧ ∀ v, (print m).wp Step G (w.after (.logRd rs) v) Q :=
  ⟨fun h => ⟨h.1, fun v => h.2 v _ ⟨trivial, rfl⟩⟩, fun h => ⟨h.1, fun v _ hs => hs.2 ▸ h.2 v⟩⟩

@[simp] theorem wp_getFlag {f i} {Q : Bool → World → Prop} :
    (getFlag f i).wp Step G w Q ↔ G w (.getFlag f i) ∧
    Q (w.slots.flag f i) (w.after (.getFlag f i) (w.slots.flag f i)) :=
  ⟨fun h => ⟨h.1, h.2 _ _ ⟨rfl, rfl⟩⟩, fun h => ⟨h.1, fun _ _ hs => hs.1 ▸ hs.2 ▸ hs.1 ▸ h.2⟩⟩

@[simp] theorem wp_getWpr {b i} {Q : BitVec 32 → World → Prop} :
    (getWpr b i).wp Step G w Q ↔ G w (.getWpr b i) ∧ Q (w.slots.wpr b i) (w.after (.getWpr b i) (w.slots.wpr b i)) :=
  ⟨fun h => ⟨h.1, h.2 _ _ ⟨rfl, rfl⟩⟩, fun h => ⟨h.1, fun _ _ hs => hs.1 ▸ hs.2 ▸ hs.1 ▸ h.2⟩⟩

@[simp] theorem wp_getGsp {Q : KernelGsp → World → Prop} :
    getGsp.wp Step G w Q ↔ G w .getGsp ∧ Q w.gsp (w.after .getGsp w.gsp) :=
  ⟨fun h => ⟨h.1, h.2 _ _ ⟨rfl, rfl⟩⟩, fun h => ⟨h.1, fun _ _ hs => hs.1 ▸ hs.2 ▸ hs.1 ▸ h.2⟩⟩

@[simp] theorem wp_tagAlloc {m} {Q : NvStatus × Backing → World → Prop} :
    (tagAlloc m).wp Step G w Q ↔ G w (.tagAlloc m) ∧ ∀ a, Q a (w.after (.tagAlloc m) a) :=
  ⟨fun h => ⟨h.1, fun a => h.2 a _ ⟨trivial, rfl⟩⟩, fun h => ⟨h.1, fun a _ hs => hs.2 ▸ h.2 a⟩⟩

@[simp] theorem wp_launch {u addr} {Q : WprMeta → World → Prop} :
    (launch u addr).wp Step G w Q ↔ G w (.launch u addr) ∧ ∀ a, Q a (w.after (.launch u addr) a) :=
  ⟨fun h => ⟨h.1, fun a => h.2 a _ ⟨trivial, rfl⟩⟩, fun h => ⟨h.1, fun a _ hs => hs.2 ▸ h.2 a⟩⟩

theorem exec_hal {c r w'} : (hal c).Exec Step w r w' ↔ w' = w.after (.hal c) r :=
  Prog.exec_lift.trans ⟨fun h => h.2, fun h => ⟨trivial, h⟩⟩

theorem exec_test {t r w'} : (test t).Exec Step w r w' ↔ w' = w.after (.test t) r :=
  Prog.exec_lift.trans ⟨fun h => h.2, fun h => ⟨trivial, h⟩⟩

theorem exec_tagAlloc {m r w'} : (tagAlloc m).Exec Step w r w' ↔ w' = w.after (.tagAlloc m) r :=
  Prog.exec_lift.trans ⟨fun h => h.2, fun h => ⟨trivial, h⟩⟩

theorem exec_act {a w'} : (act a).Exec Step w () w' ↔ w' = w.after (.act a) () :=
  Prog.exec_lift.trans ⟨fun h => h.2, fun h => ⟨trivial, h⟩⟩

@[simp] theorem within_orElse {p q : Driver Bool} {Q : Bool → Prop} : (orElse p q).Within S Q ↔
    p.Within S fun b => (b = true → Q true) ∧ (b = false → q.Within S Q) := by
  simp [orElse]

@[simp] theorem within_andAlso {p q : Driver Bool} {Q : Bool → Prop} : (andAlso p q).Within S Q ↔
    p.Within S fun b => (b = true → q.Within S Q) ∧ (b = false → Q false) := by
  simp [andAlso]

@[simp] theorem within_rdNe {r v} {Q : Bool → Prop} :
    (rdNe r v).Within S Q ↔ S (.rd r) ∧ ∀ a, Q (a != v) := by
  simp [rdNe]

@[simp] theorem within_rdEq {r v} {Q : Bool → Prop} :
    (rdEq r v).Within S Q ↔ S (.rd r) ∧ ∀ a, Q (a == v) := by
  simp [rdEq]

@[simp] theorem wp_orElse {p q : Driver Bool} {Q : Bool → World → Prop} : (orElse p q).wp Step G w Q ↔
    p.wp Step G w fun b w => (b = true → Q true w) ∧ (b = false → q.wp Step G w Q) := by
  simp [orElse]

@[simp] theorem wp_andAlso {p q : Driver Bool} {Q : Bool → World → Prop} : (andAlso p q).wp Step G w Q ↔
    p.wp Step G w fun b w => (b = true → q.wp Step G w Q) ∧ (b = false → Q false w) := by
  simp [andAlso]

@[simp] theorem wp_rdNe {r v} {Q : Bool → World → Prop} :
    (rdNe r v).wp Step G w Q ↔ G w (.rd r) ∧ ∀ a, Q (a != v) (w.after (.rd r) a) := by
  simp [rdNe]

@[simp] theorem wp_rdEq {r v} {Q : Bool → World → Prop} :
    (rdEq r v).wp Step G w Q ↔ G w (.rd r) ∧ ∀ a, Q (a == v) (w.after (.rd r) a) := by
  simp [rdEq]

end

/-! ## Restricted answers -/

/-- One operation of the driver, with an answer that `A` admits. -/
def StepWith (A : World → (o : Op) → o.Ans → Prop) (o : Op) (w : World) (a : o.Ans) (w' : World) : Prop :=
  Step o w a w' ∧ A w o a

section
variable {A : World → (o : Op) → o.Ans → Prop} {G : World → Op → Prop} {w : World}

theorem wp_stepWith {o : Op} {Q : o.Ans → World → Prop} : (Prog.lift o : Driver o.Ans).wp (StepWith A) G w Q ↔
    G w o ∧ ∀ a, w.Admits o a → A w o a → Q a (w.after o a) :=
  ⟨fun h => ⟨h.1, fun a ha hA => h.2 a _ ⟨⟨ha, rfl⟩, hA⟩⟩, fun h => ⟨h.1, fun a _ hs => hs.1.2 ▸ h.2 a hs.1.1 hs.2⟩⟩

/-- An operation that may be answered with anything. -/
theorem wp_any {o : Op} {Q : o.Ans → World → Prop} (ho : ∀ a, w.Admits o a) :
    (Prog.lift o : Driver o.Ans).wp (StepWith A) G w Q ↔ G w o ∧ ∀ a, A w o a → Q a (w.after o a) :=
  wp_stepWith.trans ⟨fun h => ⟨h.1, fun a => h.2 a (ho a)⟩, fun h => ⟨h.1, fun a _ => h.2 a⟩⟩

/-- An operation that reads the memory. -/
theorem wp_read {o : Op} {v : o.Ans} {Q : o.Ans → World → Prop} (ho : ∀ a, w.Admits o a ↔ a = v) :
    (Prog.lift o : Driver o.Ans).wp (StepWith A) G w Q ↔ G w o ∧ (A w o v → Q v (w.after o v)) := by
  refine wp_stepWith.trans ⟨fun h => ⟨h.1, h.2 v ((ho v).mpr rfl)⟩, fun h => ⟨h.1, fun a ha hA => ?_⟩⟩
  obtain rfl := (ho a).mp ha
  exact h.2 hA

@[simp] theorem wp_rd_with {r} {Q : BitVec 32 → World → Prop} : (rd r).wp (StepWith A) G w Q ↔
    G w (.rd r) ∧ ∀ a, A w (.rd r) a → Q a (w.after (.rd r) a) :=
  wp_any fun _ => trivial

@[simp] theorem wp_hal_with {c} {Q : NvStatus → World → Prop} : (hal c).wp (StepWith A) G w Q ↔
    G w (.hal c) ∧ ∀ a, A w (.hal c) a → Q a (w.after (.hal c) a) :=
  wp_any fun _ => trivial

@[simp] theorem wp_test_with {t} {Q : Bool → World → Prop} : (test t).wp (StepWith A) G w Q ↔
    G w (.test t) ∧ ∀ a, A w (.test t) a → Q a (w.after (.test t) a) :=
  wp_any fun _ => trivial

@[simp] theorem wp_act_with {a} {Q : Unit → World → Prop} : (act a).wp (StepWith A) G w Q ↔
    G w (.act a) ∧ (A w (.act a) () → Q () (w.after (.act a) ())) :=
  wp_stepWith.trans ⟨fun h => ⟨h.1, h.2 () trivial⟩, fun h => ⟨h.1, fun _ _ hA => h.2 hA⟩⟩

@[simp] theorem wp_print_with {m} {Q : Unit → World → Prop} : (print m).wp (StepWith A) G w Q ↔
    G w (.act (.print m)) ∧ (A w (.act (.print m)) () → Q () (w.after (.act (.print m)) ())) :=
  wp_act_with

@[simp] theorem wp_printRegs_with {m rs} {Q : Unit → World → Prop} : (printRegs m rs).wp (StepWith A) G w Q ↔
    G w (.logRd rs) ∧ ∀ v, A w (.logRd rs) v → (print m).wp (StepWith A) G (w.after (.logRd rs) v) Q :=
  ⟨fun h => ⟨h.1, fun v hA => h.2 v _ ⟨⟨trivial, rfl⟩, hA⟩⟩, fun h => ⟨h.1, fun v _ hs => hs.1.2 ▸ h.2 v hs.2⟩⟩

@[simp] theorem wp_getFlag_with {f i} {Q : Bool → World → Prop} : (getFlag f i).wp (StepWith A) G w Q ↔
    G w (.getFlag f i) ∧ (A w (.getFlag f i) (w.slots.flag f i) →
      Q (w.slots.flag f i) (w.after (.getFlag f i) (w.slots.flag f i))) :=
  wp_read fun _ => Iff.rfl

@[simp] theorem wp_getWpr_with {b i} {Q : BitVec 32 → World → Prop} : (getWpr b i).wp (StepWith A) G w Q ↔
    G w (.getWpr b i) ∧ (A w (.getWpr b i) (w.slots.wpr b i) →
      Q (w.slots.wpr b i) (w.after (.getWpr b i) (w.slots.wpr b i))) :=
  wp_read fun _ => Iff.rfl

@[simp] theorem wp_getGsp_with {Q : KernelGsp → World → Prop} : getGsp.wp (StepWith A) G w Q ↔
    G w .getGsp ∧ (A w .getGsp w.gsp → Q w.gsp (w.after .getGsp w.gsp)) :=
  wp_read fun _ => Iff.rfl

@[simp] theorem wp_tagAlloc_with {m} {Q : NvStatus × Backing → World → Prop} : (tagAlloc m).wp (StepWith A) G w Q ↔
    G w (.tagAlloc m) ∧ ∀ a, A w (.tagAlloc m) a → Q a (w.after (.tagAlloc m) a) :=
  wp_any fun _ => trivial

@[simp] theorem wp_launch_with {u addr} {Q : WprMeta → World → Prop} : (launch u addr).wp (StepWith A) G w Q ↔
    G w (.launch u addr) ∧ ∀ a, A w (.launch u addr) a → Q a (w.after (.launch u addr) a) :=
  wp_any fun _ => trivial

end

end Cmp50Unlock.Stockflow
