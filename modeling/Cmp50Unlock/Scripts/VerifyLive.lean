import Cmp50Unlock.Lib.Transcript
import Cmp50Unlock.Scripts.GovernorProfile
import Cmp50Unlock.Scripts.SecondPass
import Cmp50Unlock.Verify.Main
import Cmp50Unlock.Verify.Verdict

/-!
# The live verification

`verify-live.sh`, as a function of what its commands answer. A command inside `< <(...)` is represented by the lines
that it prints, because its status is not looked at.
-/

namespace Cmp50Unlock.Scripts

open Lib
open Verify (Outcome verify)

/-! ## Commands -/

/-- What the commands answer; an error is the status of one that fails. -/
structure Machine where
  /-- `uname -r` -/
  uname : Except Nat String
  /-- `nvidia-smi --query-gpu=index,pci.device_id --format=csv,noheader,nounits` -/
  gpuLines : List (List Char)
  /-- `nvidia-smi --query-gpu=index,name,memory.total,...` -/
  gpuTable : Except Nat String
  /-- `find ... -name rm-issue-rate | sort | tail -n1`, with the release in the path if there is one -/
  findProbe : Option String → Except Nat String
  /-- `[[ -x ... ]]` -/
  isExecutable : String → Bool
  mktemp : Except Nat String
  /-- the probe, with its argument -/
  probe : List Char → Outcome
  /-- `nvidia-smi --id=... --query-gpu=memory.total` -/
  memoryTotals : List Char → List Word
  /-- `systemctl is-enabled cmp50-gen2-second-pass.service` -/
  isEnabled : Bool
  /-- `systemctl is-active --quiet cmp50-gen2-second-pass.service` -/
  isActive : Bool
  /-- `lspci -Dn` -/
  pciLines : List (List Char)
  /-- `nvidia-smi --id=... -q -d MEMORY`, with the totals of BAR1 -/
  bar1Totals : List Char → List Word
  /-- `current_link_speed` of a device, in a round of the loop -/
  linkSpeed : Nat → List Char → Option String
  sleep : Except Nat Unit

/-- What the script leaves. -/
inductive LiveEvent where
  /-- the output of a command -/
  | output (text : String)
  /-- `python3 verify.py` on the report of the probe for an index -/
  | check (index : List Char) (report : String)
  /-- `printf` and `echo` -/
  | line (text : String)
  /-- the same on stderr -/
  | error (text : String)

abbrev Live := Transcript LiveEvent

/-- A message on stderr and `exit 1`. -/
def fail {α : Type} (message : String) : Live α := do
  Transcript.emit (.error message)
  Transcript.exit 1

/-! ## The cards -/

/-- `awk -F, 'toupper($2) ~ /1E0910DE/ {gsub(/ /,"",$1); print $1}'` on a line -/
def awkIndex (line : List Char) : Option (List Char) :=
  match line.splitOn ',' with
  | index :: deviceId :: _ =>
      if "1E0910DE".toList <:+: deviceId.map Char.toUpper then some (index.filter (· != ' ')) else none
  | _ => none

/-- `gpu_indices` -/
def Machine.gpuIndices (m : Machine) : List (List Char) := m.gpuLines.filterMap awkIndex

/-- `selected_gpus` -/
def Machine.selectedGpus (m : Machine) : List Char := [','].intercalate m.gpuIndices

/-- `lspci -Dn | awk '$3 == "10de:1e09" {print $1}'` -/
def Machine.cmpBdfs (m : Machine) : List (List Char) :=
  ((m.pciLines.map readFunction).filter fun f => f.device = "10de:1e09".toList).map PciFunction.bdf

/-- `artifact_probe`: the probe of the running kernel, or else the last one. -/
def Machine.artifactProbe (m : Machine) (kernelRelease : String) : Except Nat String := do
  let found ← m.findProbe (some kernelRelease)
  if found = "" then m.findProbe none else return found

def findArtifact (m : Machine) (kernelRelease : String) : Live PUnit := do
  let artifactProbe ← Transcript.silent (m.artifactProbe kernelRelease)
  if m.isExecutable artifactProbe then pure ⟨⟩ else fail "rm-issue-rate artifact not found"

def passRmLine (index : List Char) : String := "PASS_CMP50_RM: GPU " ++ String.ofList index

/-- The body of the loop over the cards. A probe that reads out of its bounds has no status of its own. -/
def checkCard (m : Machine) (index : List Char) : Live PUnit :=
  match m.probe index with
  | none => Transcript.exit 139
  | some (status, report) =>
      if status ≠ 0 then Transcript.exit status
      else do
        Transcript.emit (.check index report)
        match verify report with
        | .error _ => Transcript.exit 1
        | .ok verdict => do
            Transcript.emit (.output verdict)
            Transcript.emit (.line (passRmLine index))

/-- `[[ ${total} -ge n ]]` -/
def Word.atLeast (n : Nat) (total : Word) : Bool := total.number.elim false fun m => decide (n ≤ m)

def checkMemory (m : Machine) : Live PUnit :=
  if (m.memoryTotals m.selectedGpus).length ≠ m.gpuIndices.length then fail "could not read VRAM totals for every GPU"
  else ((m.memoryTotals m.selectedGpus).zip m.gpuIndices).forM fun (memory, index) =>
    if memory.atLeast 9500 then pure ⟨⟩
    else fail s!"GPU {String.ofList index}: unexpected VRAM {memory.text} MiB"

/-! ## Gen2 -/

/-- `read -r speed < .../current_link_speed` -/
def readSpeed (m : Machine) (round : Nat) (bdf : List Char) : Live (List Char) :=
  match (m.linkSpeed round bdf).bind readLine with
  | none => Transcript.exit 1
  | some speed => pure speed

/-- One round: whether all links are at Gen2. -/
def allAtGen2 (m : Machine) (round : Nat) : List (List Char) → Live Bool
  | [] => pure true
  | bdf :: bdfs => do
      let speed ← readSpeed m round bdf
      let others ← allAtGen2 m round bdfs
      return speed == gen2Speed.toList && others

/-- The rounds that are left, beginning with `round`. -/
def waitForGen2 (m : Machine) (round : Nat) : Nat → Live Bool
  | 0 => pure false
  | n + 1 => do
      if ← allAtGen2 m round m.cmpBdfs then pure true
      else do
        Transcript.silent m.sleep
        waitForGen2 m (round + 1) n

def reportSpeed (m : Machine) (bdf : List Char) : Live PUnit := do
  let speed ← readSpeed m 15 bdf
  Transcript.emit (.error s!"{String.ofList bdf}: expected Gen2, got {String.ofList speed}")

def checkGen2 (m : Machine) : Live PUnit :=
  if ¬m.isActive then fail "Gen2 second-pass service is not active"
  else if (m.bar1Totals m.selectedGpus).length ≠ m.gpuIndices.length then
    fail "could not read BAR1 totals for every GPU"
  else do
    (m.bar1Totals m.selectedGpus).forM fun total =>
      if total.atLeast 16000 then pure ⟨⟩ else fail s!"unexpected BAR1 total: {total.text} MiB"
    if ← waitForGen2 m 0 15 then pure ⟨⟩
    else do
      m.cmpBdfs.forM (reportSpeed m)
      Transcript.exit 1

/-! ## The script -/

/-- The lines before the loop over the cards. -/
def prepareLive (m : Machine) : Live PUnit := do
  let kernelRelease ← Transcript.silent m.uname
  if m.gpuIndices = [] then fail "no live CMP 50HX GPU found"
  else do
    let table ← Transcript.silent m.gpuTable
    Transcript.emit (.output table)
    findArtifact m kernelRelease
    let _ ← Transcript.silent m.mktemp
    pure ⟨⟩

/-- The lines after the memory, which are for the service. -/
def checkService (m : Machine) : Live PUnit := if m.isEnabled then checkGen2 m else pure ⟨⟩

def passLiveLine (count : Nat) : String := "PASS_CMP50_LIVE: " ++ toString count ++ " card(s) visible"

/-- `verify-live.sh` -/
def verifyLive (m : Machine) : Live PUnit := do
  prepareLive m
  m.gpuIndices.forM (checkCard m)
  checkMemory m
  checkService m
  Transcript.emit (.line (passLiveLine m.gpuIndices.length))

end Cmp50Unlock.Scripts
