import Cmp50Unlock.CudaSmoke.Kernel
import Cmp50Unlock.Lib.Code

/-!
# `cuda-smoke.py`

The main function over the calls of the CUDA driver. The turns of the load loop are an answer, since the clock decides
on them.
-/

namespace Cmp50Unlock.CudaSmoke

open Lib

/-! ## Numbers -/

/-- A single-precision number. -/
abbrev Word := BitVec 32

/-- The value in units of 2^-149, unless it is infinite or not a number. -/
def units (w : Word) : Option Int :=
  let fraction := w.toNat % 2 ^ 23
  let exponent := w.toNat / 2 ^ 23 % 2 ^ 8
  let magnitude : Nat := if exponent = 0 then fraction else (2 ^ 23 + fraction) * 2 ^ (exponent - 1)
  if exponent = 255 then none else some (if w.toNat < 2 ^ 31 then (magnitude : Int) else -(magnitude : Int))

/-- `float(n)` in an array of type `f`, for a number that has at most 24 bits. -/
def float (n : Nat) : Word :=
  if n = 0 then 0 else BitVec.ofNat 32 ((Nat.log2 n + 126) * 2 ^ 23 + n * 2 ^ (23 - Nat.log2 n))

/-- `x + y != z`, for finite numbers `x` and `y` with an exact sum. -/
def differ (x y z : Word) : Bool :=
  match units x, units y, units z with
  | some x, some y, some z => decide (x + y ≠ z)
  | _, _, _ => true

/-! ## Operations -/

/-- The files that identify a card. -/
inductive Field where
  | vendor
  | device
  | subsystemVendor
  | subsystemDevice

/-- An array of numbers, by their places. -/
abbrev Array := Nat → Word

inductive Op where
  | init
  | deviceCount
  | pciBusId (ordinal : Nat)
  | readId (bdf : String) (field : Field)
  | ctxCreate (ordinal : Nat)
  | moduleLoadData
  | moduleGetFunction (module : Nat)
  | memAlloc (bytes : Nat)
  | copyHtoD (target : BitVec 64) (count : Nat) (data : Array)
  | launchKernel (function grid block : Nat) (a b out : BitVec 64) (count : BitVec 32)
  | synchronize
  | loadTurns (seconds : Int)
  | copyDtoH (source : BitVec 64) (count : Nat)
  | memFree (address : BitVec 64)
  | moduleUnload (module : Nat)
  | ctxDestroy (context : Nat)
  | getErrorName (result : Int)
  | print (line : String)

/-- A call answers with its result; no number comes from a file that cannot be read. -/
abbrev Op.Ans : Op → Type
  | .init | .copyHtoD .. | .launchKernel .. | .synchronize | .memFree _ | .moduleUnload _ | .ctxDestroy _ => Int
  | .deviceCount => Int × Int
  | .pciBusId _ => Int × String
  | .readId .. => Option Int
  | .ctxCreate _ | .moduleLoadData | .moduleGetFunction _ => Int × Nat
  | .memAlloc _ => Int × BitVec 64
  | .loadTurns _ => Nat
  | .copyDtoH .. => Int × Array
  | .getErrorName _ => String
  | .print _ => Unit

/-- The variables of `main`. A pointer that is null is 0. -/
structure Vars where
  tested : Nat := 0
  context : Nat := 0
  module : Nat := 0
  function : Nat := 0
  allocations : List (BitVec 64) := []

inductive Raised where
  | usage (message : String)
  | runtimeError (message : String)
  | unreadable (bdf : String)
  | systemExit (message : String)

abbrev Smoke := Code Op Op.Ans Vars Raised

abbrev call (o : Op) : Smoke o.Ans := Code.call o

/-! ## One card -/

def check (result : Int) (operation : String) : Smoke Unit :=
  if result = 0 then pure () else do
    let name ← call (.getErrorName result)
    throw (.runtimeError s!"{operation}: CUDA {result} {name}")

/-- `int((sysfs / field).read_text().strip(), 16)` -/
def readId (bdf : String) (field : Field) : Smoke Int := do
  let value ← call (.readId bdf field)
  match value with
  | some value => return value
  | none => throw (.unreadable bdf)

def size : Nat := 262144

def a : Array := fun i => float (i % 127)

def b : Array := fun i => float (i % 61)

def allocate : Smoke (BitVec 64) := do
  let (result, address) ← call (.memAlloc (size * 4))
  check result "cuMemAlloc"
  modify fun vars => { vars with allocations := vars.allocations ++ [address] }
  return address

/-- `launch(...)` with the arguments for `vector_add`. -/
def launch (d₀ d₁ d₂ : BitVec 64) (operation : String) : Smoke Unit := do
  let vars ← get
  let result ← call (.launchKernel vars.function ((size + 255) / 256) 256 d₀ d₁ d₂ (BitVec.ofNat 32 size))
  check result operation

def synchronize (operation : String) : Smoke Unit := do
  let result ← call .synchronize
  check result operation

def copyIn (target : BitVec 64) (data : Array) (operation : String) : Smoke Unit := do
  check (← call (.copyHtoD target size data)) operation

def copyBack (source : BitVec 64) (count : Nat) : Smoke Array := do
  let (result, out) ← call (.copyDtoH source count)
  check result "copy result"
  return out

/-- The light load on the card. -/
def load (seconds : Int) (ordinal : Nat) (d₀ d₁ d₂ : BitVec 64) : Smoke Unit :=
  if seconds = 0 then pure () else do
    call (.print s!"GOVERNOR_LOAD_START: ordinal={ordinal} seconds={seconds}")
    let turns ← call (.loadTurns seconds)
    (List.range turns).forM fun _ => do
      (List.range 32).forM fun _ => launch d₀ d₁ d₂ "load cuLaunchKernel"
      synchronize "load cuCtxSynchronize"

/-- The body of `try`. -/
def testCard (seconds : Int) (ordinal : Nat) (bdf : String) : Smoke Unit := do
  let (result, context) ← call (.ctxCreate ordinal)
  modify fun vars => { vars with context }
  check result "cuCtxCreate"
  let (result, module) ← call .moduleLoadData
  modify fun vars => { vars with module }
  check result "cuModuleLoadData"
  let (result, function) ← call (.moduleGetFunction module)
  modify fun vars => { vars with function }
  check result "cuModuleGetFunction"
  let d₀ ← allocate
  let d₁ ← allocate
  let d₂ ← allocate
  copyIn d₀ a "copy a"
  copyIn d₁ b "copy b"
  launch d₀ d₁ d₂ "cuLaunchKernel"
  synchronize "cuCtxSynchronize"
  load seconds ordinal d₀ d₁ d₂
  let out ← copyBack d₂ size
  if (List.range size).any fun i => differ (a i) (b i) (out i) then
    throw (.runtimeError s!"Vector-add correctness failed on {bdf}")
  else do
    call (.print s!"PASS_CMP50_CUDA: ordinal={ordinal} pci={bdf} elements={size}")
    modify fun vars => { vars with tested := vars.tested + 1 }

def unload (module : Nat) : Smoke Unit :=
  if module = 0 then pure () else do check (← call (.moduleUnload module)) "cuModuleUnload"

def destroy (context : Nat) : Smoke Unit :=
  if context = 0 then pure () else do check (← call (.ctxDestroy context)) "cuCtxDestroy"

/-- The body of `finally`. -/
def release : Smoke Unit := do
  let vars ← get
  vars.allocations.reverse.forM fun address => do check (← call (.memFree address)) "cuMemFree"
  unload vars.module
  destroy vars.context

/-! ## All cards -/

/-- The subsystems of the supported boards. -/
def supportedSubsystems : List (Int × Int) := [(0x10de, 0x1554), (0x1462, 0x371f)]

/-- One turn of the loop over the cards. -/
def card (seconds : Int) (ordinal : Nat) : Smoke Unit := do
  let (result, bus) ← call (.pciBusId ordinal)
  check result "cuDeviceGetPCIBusId"
  let bdf := bus.toLower
  let vendor ← readId bdf .vendor
  let device ← readId bdf .device
  let subvendor ← readId bdf .subsystemVendor
  let subdevice ← readId bdf .subsystemDevice
  if (vendor, device) ≠ (0x10de, 0x1e09) then
    return
  else if (subvendor, subdevice) ∉ supportedSubsystems then
    throw (.runtimeError s!"Unsupported CMP50 subsystem: {bdf} ({subvendor}, {subdevice})")
  else do
    modify fun vars => { vars with context := 0, module := 0, function := 0, allocations := [] }
    Code.tryFinally (testCard seconds ordinal bdf) release

def passAll : Smoke Unit := do
  let vars ← get
  if vars.tested = 0 then
    throw (.systemExit "No supported CMP50 GPUs visible to CUDA")
  else
    call (.print s!"PASS_CMP50_CUDA_ALL: {vars.tested} card(s)")

/-- `main`, after the option has been read. -/
def main (seconds : Int) : Smoke Unit :=
  if 0 ≤ seconds ∧ seconds ≤ 30 then do
    check (← call .init) "cuInit"
    let (result, count) ← call .deviceCount
    check result "cuDeviceGetCount"
    (List.range count.toNat).forM (card seconds)
    passAll
  else throw (.usage "--load-seconds must be 0..30")

/-- The status of the interpreter. -/
def status : Except Raised Unit → Nat
  | .ok _ => 0
  | .error (.usage _) => 2
  | .error _ => 1

/-- `python3 cuda-smoke.py --load-seconds seconds` -/
def smoke (seconds : Int) : Prog Op Op.Ans Nat := do
  let (r, _) ← (main seconds).run.run {}
  return status r

end Cmp50Unlock.CudaSmoke
