import Cmp50Unlock.CudaSmoke.Main

/-!
# The host of a smoke test

The CUDA driver as it is documented. Any call may fail; a call that does not fail does what it is for. A launch runs the
kernel to its end, with the adder of the card.
-/

namespace Cmp50Unlock.CudaSmoke

open Lib Ptx

/-- The address of one of `count` words from `base` on. -/
def Within (base : BitVec 64) (count : Nat) (x : BitVec 64) : Prop :=
  (x - base).toNat % 4 = 0 ∧ (x - base).toNat / 4 < count

instance (base : BitVec 64) (count : Nat) (x : BitVec 64) : Decidable (Within base count x) :=
  inferInstanceAs (Decidable (_ ∧ _))

/-- The memory with an array from `base` on. -/
def copied (m : Memory Word) (base : BitVec 64) (count : Nat) (data : Array) : Memory Word := fun x =>
  if Within base count x then some (data ((x - base).toNat / 4)) else m x

/-- The cards by their ordinals, with the files of their devices, what `add.f32` computes on them, and where the driver
puts the allocations of a context: the three that a test makes are apart. -/
structure Host where
  count : Nat
  bus : Nat → String
  ids : String → Field → Int
  add : Nat → Word → Word → Word
  address : Nat → Nat → BitVec 64
  apart : ∀ ordinal j k, j < 3 ∧ k < 3 ∧ j ≠ k → ∀ x, Within (address ordinal j) size x →
    ¬Within (address ordinal k) size x

/-- What a test holds of the driver. -/
inductive Resource where
  | context (handle : Nat)
  | module (handle : Nat)
  | memory (address : BitVec 64)
deriving DecidableEq

/-- The card of the current context with its memory, what is held (the latest first) and printed, and whether a call has
failed, or even one that gives something back. -/
structure World where
  card : Nat
  allocated : Nat
  mem : Memory Word
  held : List Resource
  printed : List String
  failed : Bool
  leaked : Bool

def World.start : World := ⟨0, 0, fun _ => none, [], [], false, false⟩

/-- A call returns 0 and has worked, or it has failed. -/
def Returns (result : Int) (works : Prop) (w w' : World) : Prop :=
  result = 0 ∧ works ∨ result ≠ 0 ∧ ∃ mem, w' = { w with mem, failed := true }

/-- A call that gives something back. -/
def GivesBack (result : Int) (resource : Resource) (w w' : World) : Prop :=
  (∃ mem, result = 0 ∧ w' = { w with mem, held := w.held.erase resource }) ∨
    result ≠ 0 ∧ w' = { w with failed := true, leaked := true }

/-- The launch of the kernel on the current card. -/
def Host.launch (H : Host) (w : World) (grid block : Nat) (a b out : BitVec 64) (count : BitVec 32) : Launch Word :=
  ⟨grid, block, a, b, out, count, H.add w.card⟩

def Host.Step (H : Host) : (o : Op) → World → o.Ans → World → Prop
  | .init, w, result, w' => Returns result (w' = w) w w'
  | .deviceCount, w, answer, w' => Returns answer.1 (answer.2 = H.count ∧ w' = w) w w'
  | .pciBusId ordinal, w, answer, w' => Returns answer.1 (answer.2 = H.bus ordinal ∧ w' = w) w w'
  | .readId bdf field, w, answer, w' =>
      answer = some (H.ids bdf field) ∧ w' = w ∨ answer = none ∧ w' = { w with failed := true }
  | .ctxCreate ordinal, w, answer, w' => (answer.1 ≠ 0 → answer.2 = 0) ∧
      Returns answer.1 (answer.2 ≠ 0 ∧ ∃ mem, w' =
        { w with card := ordinal, allocated := 0, mem, held := .context answer.2 :: w.held }) w w'
  | .moduleLoadData, w, answer, w' => (answer.1 ≠ 0 → answer.2 = 0) ∧
      Returns answer.1 (answer.2 ≠ 0 ∧ w' = { w with held := .module answer.2 :: w.held }) w w'
  | .moduleGetFunction _, w, answer, w' => Returns answer.1 (w' = w) w w'
  | .memAlloc bytes, w, answer, w' =>
      Returns answer.1 (answer.2 = H.address w.card w.allocated ∧ ∃ rubbish, w' = { w with
        allocated := w.allocated + 1
        mem := copied w.mem answer.2 (bytes / 4) rubbish
        held := .memory answer.2 :: w.held }) w w'
  | .copyHtoD target count data, w, result, w' =>
      Returns result (w' = { w with mem := copied w.mem target count data }) w w'
  | .launchKernel _ grid block a b out count, w, result, w' =>
      Returns result (∃ r₀ s, Runs (H.launch w grid block a b out count) (start r₀ w.mem) s ∧
        Ended (H.launch w grid block a b out count) s ∧ w' = { w with mem := s.shared }) w w'
  | .synchronize, w, result, w' => Returns result (w' = w) w w'
  | .loadTurns _, w, _, w' => w' = w
  | .copyDtoH source count, w, answer, w' =>
      Returns answer.1 ((∀ i < count, ∀ y, w.mem (element source (BitVec.ofNat 32 i)) = some y →
        answer.2 i = y) ∧ w' = w) w w'
  | .memFree address, w, result, w' => GivesBack result (.memory address) w w'
  | .moduleUnload module, w, result, w' => GivesBack result (.module module) w w'
  | .ctxDestroy context, w, result, w' => GivesBack result (.context context) w w'
  | .getErrorName _, w, _, w' => w' = w
  | .print line, w, _, w' => w' = { w with printed := w.printed ++ [line] }

/-! ## Asked of a test -/

variable (H : Host)

/-- The files of a card. -/
def Host.id (ordinal : Nat) (field : Field) : Int := H.ids (H.bus ordinal).toLower field

/-- A card is a CMP 50HX. -/
def Host.Cmp (ordinal : Nat) : Prop := (H.id ordinal .vendor, H.id ordinal .device) = (0x10de, 0x1e09)

def Host.Supported (ordinal : Nat) : Prop :=
  (H.id ordinal .subsystemVendor, H.id ordinal .subsystemDevice) ∈ supportedSubsystems

instance (ordinal : Nat) : Decidable (H.Cmp ordinal) := inferInstanceAs (Decidable (_ = _))

/-- The card adds every pair of small numbers that the test has. -/
def Host.Adds (ordinal : Nat) : Prop :=
  ∀ i < 127, ∀ j < 61, differ (float i) (float j) (H.add ordinal (float i) (float j)) = false

/-- There is a CMP 50HX, and all of them are supported and add. -/
structure Host.Sound : Prop where
  some : ∃ ordinal < H.count, H.Cmp ordinal
  all : ∀ ordinal < H.count, H.Cmp ordinal → H.Supported ordinal ∧ H.Adds ordinal

/-- The cards to be tested among the first `n`. -/
def Host.cmps (n : Nat) : List Nat := (List.range n).filter fun ordinal => H.Cmp ordinal

def loadLines (seconds : Int) (ordinal : Nat) : List String :=
  if seconds = 0 then [] else [s!"GOVERNOR_LOAD_START: ordinal={ordinal} seconds={seconds}"]

/-- The lines for one card. -/
def Host.cardLines (seconds : Int) (ordinal : Nat) : List String :=
  loadLines seconds ordinal ++ [s!"PASS_CMP50_CUDA: ordinal={ordinal} pci={(H.bus ordinal).toLower} elements={size}"]

/-- What a test prints that succeeds. -/
def Host.lines (seconds : Int) : List String :=
  (H.cmps H.count).flatMap (H.cardLines seconds) ++ [s!"PASS_CMP50_CUDA_ALL: {(H.cmps H.count).length} card(s)"]

/-- What an operation works on is held, and only the latest is given back. -/
def Uses (w : World) : Op → Prop
  | .memFree address => w.held.head? = some (.memory address)
  | .moduleUnload module => w.held.head? = some (.module module)
  | .ctxDestroy context => w.held.head? = some (.context context)
  | .moduleGetFunction module => .module module ∈ w.held
  | .copyHtoD address _ _ | .copyDtoH address _ => .memory address ∈ w.held
  | .launchKernel _ _ _ a b out _ => .memory a ∈ w.held ∧ .memory b ∈ w.held ∧ .memory out ∈ w.held
  | _ => True

end Cmp50Unlock.CudaSmoke
