import Cmp50Unlock.Install.All.Answer
import Cmp50Unlock.Install.All.Lemmas.Runs
import Cmp50Unlock.Install.Governor.Theorems
import Cmp50Unlock.Install.Theorems

/-!
# Theorems on the installer of everything

The runs of `install-all.sh` are those of `Stages`. Any command of the script or of the two installers may fail or be
interrupted, and the panel may write requests at any time.
-/

namespace Cmp50Unlock.Install.All

open Lib

variable {h : Host} {args : List String} {disk : Disk} {artifacts : Module → Option (List UInt8)}
  {governor : Governor.World}
  {r : Except Nat Options} {o : Options} {w' : World}

/-! ## The example -/

/-- A server with the libraries of the driver. -/
def exampleHost : Host where
  install := Install.exampleHost true
  governor := Governor.exampleHost
  listing := "\tlibnvidia-ml.so.1 (libc6,x86-64) => /lib/libnvidia-ml.so.1\n" ++
    "\tlibcuda.so.1 (libc6,x86-64) => /lib/libcuda.so.1\n"
  regular := fun _ => true
  resolved := fun candidate => some (candidate.dropLast ++ driverVersion.toList)

def exampleArgs : List String := ["--allow-experimental-gen2"]

def exampleOptions : Options := { defaultOptions with allowGen2 := true }

def exampleRun : Except Nat Options × World :=
  (installAll exampleArgs).run.interp exampleHost.answer ⟨.start exampleDisk exampleArtifacts,
    Governor.exampleWorld.begin⟩

theorem exampleRun_stages : Stages exampleHost exampleArgs exampleDisk exampleArtifacts Governor.exampleWorld
    exampleRun.1 exampleRun.2 :=
  stages_answer exampleHost exampleArgs exampleDisk exampleArtifacts Governor.exampleWorld

theorem exampleRun_ok : Stages exampleHost exampleArgs exampleDisk exampleArtifacts Governor.exampleWorld
    (.ok exampleOptions) exampleRun.2 := by
  have hresult : exampleRun.1.toOption = some exampleOptions := by decide +kernel
  have hrun := exampleRun_stages
  cases hend : exampleRun.1 with
  | error n =>
      rw [hend] at hresult
      cases hresult
  | ok o =>
      rw [hend] at hresult hrun
      cases hresult
      exact hrun

/-! ## Any run -/

/-- Before the installers only the packages change the disk. A run that changes anything else has passed the checks,
with options that were given. Both installers keep what they keep by themselves, and the governor is touched only once
the driver is installed. -/
theorem all_safe (hrun : Stages h args disk artifacts governor r w') :
    ∃ disk', Prepared ("--install-deps" ∈ args) disk disk' ∧
      (Untouched disk' artifacts governor w' ∨ ∃ o, Asked args o ∧ Ready h o ∧ Safe h o disk' governor w') := by
  have hmeets := installAll_meets args r w' hrun
  cases r with
  | ok o =>
      obtain ⟨hasked, hready, disk', hdisk', -, hsafe⟩ := hmeets
      exact ⟨disk', hdisk'.asked hasked, .inr ⟨o, hasked, hready, hsafe⟩⟩
  | error n => exact hmeets

theorem all_safe_example : ∃ disk', Prepared ("--install-deps" ∈ exampleArgs) exampleDisk disk' ∧
    (Untouched disk' exampleArtifacts Governor.exampleWorld exampleRun.2 ∨ ∃ o, Asked exampleArgs o ∧
      Ready exampleHost o ∧ Safe exampleHost o disk' Governor.exampleWorld exampleRun.2) :=
  all_safe exampleRun_stages

/-! ## A run that succeeds -/

/-- The driver with Gen2 and the governor are installed, the userspace too if it was not there. -/
theorem all_staged (hrun : Stages h args disk artifacts governor (.ok o) w') :
    Asked args o ∧ Ready h o ∧ ∃ disk', Prepared o.installDeps disk disk' ∧ Staged h o disk' governor w' := by
  obtain ⟨hasked, hready, disk', hdisk', hstaged, -⟩ := installAll_meets args _ w' hrun
  exact ⟨hasked, hready, disk', hdisk', hstaged⟩

theorem all_staged_example : Asked exampleArgs exampleOptions ∧ Ready exampleHost exampleOptions ∧
    ∃ disk', Prepared exampleOptions.installDeps exampleDisk disk' ∧
      Staged exampleHost exampleOptions disk' Governor.exampleWorld exampleRun.2 :=
  all_staged exampleRun_ok

end Cmp50Unlock.Install.All
