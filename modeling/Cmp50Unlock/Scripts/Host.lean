import Cmp50Unlock.Scripts.VerifyLive
import Cmp50Unlock.Verify.Gpus
import Cmp50Unlock.Verify.Spec

/-!
# What the live verification is to say of a host

The GPUs of a host have three numberings: the indices of `nvidia-smi`, the minors of `/dev/nvidiaN`, and the instances
of RM.
-/

namespace Cmp50Unlock.Scripts

open Lib
open Verify (HostRm Answers IsReport)

/-! ## Hosts -/

/-- A GPU, with the digits of its `pci.device_id` and its address in `lspci`. -/
structure Gpu where
  index : Nat
  minor : Nat
  deviceId : List Char
  bdf : List Char
  eight : deviceId.length = 8
  hexadecimal : ∀ c ∈ deviceId, (Json.hexValue c).isSome
  address : bdf ≠ [] ∧ ∀ c ∈ bdf, isIfs c = false
  deriving DecidableEq

/-- A CMP 50HX -/
def Gpu.isCmp (g : Gpu) : Bool := g.deviceId.map Char.toUpper == "1E0910DE".toList

def digits (n : Nat) : List Char := (toString n).toList

/-- The line of `nvidia-smi --query-gpu=index,pci.device_id --format=csv,noheader,nounits` for a GPU. -/
def Gpu.line (g : Gpu) : List Char := digits g.index ++ ',' :: (" 0x".toList ++ g.deviceId)

/-- The GPUs in the order of `nvidia-smi`. The table of cards has room for 128 minors. -/
structure Host where
  gpus : List Gpu
  indices : (gpus.map Gpu.index).Nodup
  minors : (gpus.map Gpu.minor).Nodup
  minors_lt : ∀ g ∈ gpus, g.minor < 128

/-- The CMP 50HX cards that are listed. -/
def Host.cmps (host : Host) : List Gpu := host.gpus.filter Gpu.isCmp

/-! ## What the commands say -/

/-- What is true of the GPUs while the script runs: what RM says of them and what they answer to it, the memory in MiB,
and the speed of the link in each round. -/
structure Readings where
  rm : HostRm
  answers : Gpu → Answers
  memory : Gpu → Nat
  bar1 : Gpu → Nat
  speed : Nat → Gpu → List Char

/-- The commands tell of the GPUs of the host. A minor that RM resolves is the minor of a GPU, and the instances are
those of this GPU; they are not related in any other way. -/
structure Readings.On (readings : Readings) (host : Host) (m : Machine) : Prop where
  lines : m.gpuLines = host.gpus.map Gpu.line
  gpus : ∀ minor : Nat, minor < 128 → ∀ instances, readings.rm.Resolves minor instances →
    ∃ g ∈ host.gpus, g.minor = minor ∧ readings.rm.gpu instances = readings.answers g
  indices : ∀ g ∈ host.gpus, (readings.answers g).KeepsIndices
  probe : ∀ argument, ∃ log, (Verify.main [String.ofList argument]).Exec readings.rm.Step [] (m.probe argument) log
  memory : ((m.memoryTotals m.selectedGpus).map Word.number).Perm (host.cmps.map fun g => some (readings.memory g))
  bar1 : ((m.bar1Totals m.selectedGpus).map Word.number).Perm (host.cmps.map fun g => some (readings.bar1 g))
  bdfs : m.cmpBdfs.Perm (host.cmps.map Gpu.bdf)
  speed : ∀ round, ∀ g ∈ host.cmps, (m.linkSpeed round g.bdf).bind readLine = some (readings.speed round g)

/-- The commands that tell nothing of a GPU succeed. -/
structure Machine.Ready (m : Machine) : Prop where
  table : ∃ table, m.gpuTable = .ok table
  artifact : ∃ release probe, m.uname = .ok release ∧ m.artifactProbe release = .ok probe ∧ m.isExecutable probe
  temporary : ∃ path, m.mktemp = .ok path
  sleep : m.sleep = .ok ⟨⟩

/-! ## What the script is to say -/

/-- The probe of its own minor succeeds, and the card answers as an unlocked one. -/
def PassesRm (readings : Readings) (m : Machine) (g : Gpu) : Prop :=
  (∃ report, m.probe (digits g.minor) = some (0, report)) ∧ (readings.answers g).Passes

/-- All CMP 50HX cards pass, and there is one. -/
structure Passes (host : Host) (readings : Readings) (m : Machine) : Prop where
  listed : host.cmps ≠ []
  rm : ∀ g ∈ host.cmps, PassesRm readings m g
  memory : ∀ g ∈ host.cmps, 9500 ≤ readings.memory g
  active : m.isEnabled → m.isActive
  bar1 : m.isEnabled → ∀ g ∈ host.cmps, 16000 ≤ readings.bar1 g
  gen2 : m.isEnabled → ∃ round < 15, ∀ g ∈ host.cmps, readings.speed round g = gen2Speed.toList

/-- The script checks the cards that it names, and says that they pass if and only if they do. -/
structure Covers (host : Host) (readings : Readings) (m : Machine) : Prop where
  checked : ∀ index report, .check index report ∈ (verifyLive m).events →
    ∃ g ∈ host.cmps, index = digits g.index ∧ IsReport (readings.answers g) report
  passedRm : ∀ index, .line (passRmLine index) ∈ (verifyLive m).events →
    ∃ g ∈ host.cmps, index = digits g.index ∧ PassesRm readings m g
  passedLive : ∀ count, .line (passLiveLine count) ∈ (verifyLive m).events → Passes host readings m
  passes : m.Ready → Passes host readings m → .line (passLiveLine host.cmps.length) ∈ (verifyLive m).events
  succeeds : (verifyLive m).result = .ok ⟨⟩ → Passes host readings m

end Cmp50Unlock.Scripts
