import Cmp50Unlock.Lib.Strconv

/-!
# The profile that is installed

`scripts/governor-profile.sh`, which takes an inventory of `lspci -Dn` and the files of sysfs, and the request that
`install-governor.sh` writes. Words of the shell are lists of characters; what bash itself prints about a file that it
cannot read is left out.
-/

namespace Cmp50Unlock.Scripts

open Lib

/-! ## Words -/

/-- The characters of `IFS`. -/
def isIfs (c : Char) : Bool := c == ' ' || c == '\t' || c == '\n'

/-- The next word of a line, and what follows it. -/
def word (line : List Char) : List Char × List Char := (line.dropWhile isIfs).span fun c => !isIfs c

/-- The characters that bash takes over; it drops NUL. -/
def received (text : String) : List Char := text.toList.filter (· != '\x00')

/-- `$(...)`, which drops the newlines at the end. -/
def substitution (output : String) : List Char := (received output).rdropWhile (· == '\n')

/-- `read -r` of one name from a file: it fails when no newline ends the first line. -/
def readLine (content : String) : Option (List Char) :=
  if '\n' ∈ received content then some (trim isIfs ((received content).takeWhile (· != '\n'))) else none

/-! ## PCI functions -/

/-- The words of a line of the inventory. Nothing looks at the rest of the line. -/
structure PciFunction where
  bdf : List Char
  pciClass : List Char
  device : List Char
  deriving DecidableEq

/-- `read -r bdf class device rest` -/
def readFunction (line : List Char) : PciFunction :=
  let bdf := word line
  let pciClass := word bdf.2
  let device := word pciClass.2
  ⟨bdf.1, pciClass.1, device.1⟩

/-- `[[ ${class} == 03* && ${device} == 10de:* ]]` -/
def PciFunction.isNvidiaDisplay (f : PciFunction) : Bool :=
  "03".toList.isPrefixOf f.pciClass && "10de:".toList.isPrefixOf f.device

/-- The files of the PCI functions, by the address and the name of the file. -/
abbrev Sysfs := List Char → String → Option String

/-- The word that a file of a function begins with. -/
def PciFunction.read (f : PciFunction) (sysfs : Sysfs) (name : String) : Option (List Char) :=
  (sysfs f.bdf name).bind readLine

/-! ## The profile -/

/-- The end of a function of the shell. -/
structure Ended where
  status : Nat
  stdout : String
  stderr : String
  deriving DecidableEq

/-- `return 1`, after a message -/
def refuse (message : String) : Ended := ⟨1, "", message⟩

/-- `0x10de:0x1554|0x1462:0x371f` -/
def supportedSubsystems : List (List Char) := ["0x10de:0x1554".toList, "0x1462:0x371f".toList]

/-- The checks of a display function of the vendor, and how the shell function ends at one that fails. -/
def checkFunction (sysfs : Sysfs) (f : PciFunction) : Option Ended :=
  if f.device ≠ "10de:1e09".toList then some (refuse "Governor refuses a mixed NVIDIA GPU configuration\n")
  else
    match f.read sysfs "subsystem_vendor" with
    | none => some (refuse "")
    | some vendor =>
        match f.read sysfs "subsystem_device" with
        | none => some (refuse "")
        | some subsystem =>
            if vendor ++ ':' :: subsystem ∈ supportedSubsystems then none
            else some (refuse s!"Unsupported CMP50 subsystem at {String.ofList f.bdf}\n")

/-- The loop over the lines of the inventory, with the cards that were counted so far. -/
def countCards (sysfs : Sysfs) : List (List Char) → Nat → Except Ended Nat
  | [], count => .ok count
  | line :: lines, count =>
      if ¬(readFunction line).isNvidiaDisplay then countCards sysfs lines count
      else
        match checkFunction sysfs (readFunction line) with
        | some ended => .error ended
        | none => countCards sysfs lines (count + 1)

/-- The lines of `<<< "${inventory}"` -/
def inventoryLines (inventory : String) : List (List Char) := (substitution inventory).splitOn '\n'

/-- `cmp50_governor_profile`, with the output of `lspci -Dn` if that succeeds -/
def governorProfile (lspci : Option String) (sysfs : Sysfs) : Ended :=
  match lspci with
  | none => refuse ""
  | some inventory =>
      match countCards sysfs (inventoryLines inventory) 0 with
      | .error ended => ended
      | .ok count =>
          if count ∈ [1, 2, 4, 6, 8] then ⟨0, s!"cmp50-{count}x20gb\n", ""⟩
          else refuse s!"Governor requires 1, 2, 4, 6 or 8 supported CMP50 GPUs; found {count}\n"

example :
    (governorProfile (some "0000:00:02.0 0300: 8086:9bc5\n0000:01:00.0 0302: 10de:1e09 (rev a1)\n") fun _ name =>
      if name = "subsystem_vendor" then some "0x10de\n" else some "0x1554\n").stdout = "cmp50-1x20gb\n" := by
  decide

/-! ## The request -/

/-- What `install-governor.sh` writes to `control.json`. -/
def controlDocument (profile : List Char) : String :=
  "\x7b\"enabled\":true,\"profile\":\"" ++ String.ofList profile ++ "\",\"idle_fan_percent\":0\x7d\n"

/-- The document of an installation; without a profile the installer dies. -/
def installedDocument (profile : Ended) : Option String :=
  if profile.status = 0 then some (controlDocument (substitution profile.stdout)) else none

/-! ## What qualifies -/

/-- The display functions of the vendor that an inventory lists. -/
def displays (inventory : String) : List PciFunction :=
  ((inventoryLines inventory).map readFunction).filter PciFunction.isNvidiaDisplay

/-- The subsystems of a CMP 50HX, with their vendors. -/
def subsystems : List (List Char × List Char) :=
  [("0x10de".toList, "0x1554".toList), ("0x1462".toList, "0x371f".toList)]

/-- A CMP 50HX with a subsystem that can be read and is supported. -/
structure PciFunction.Supported (sysfs : Sysfs) (f : PciFunction) : Prop where
  device : f.device = "10de:1e09".toList
  subsystem : ∃ vendor subsystem, f.read sysfs "subsystem_vendor" = some vendor ∧
    f.read sysfs "subsystem_device" = some subsystem ∧ (vendor, subsystem) ∈ subsystems

/-- Nothing but supported cards, as many as a profile has. -/
structure Qualifies (sysfs : Sysfs) (inventory : String) : Prop where
  supported : ∀ f ∈ displays inventory, f.Supported sysfs
  count : (displays inventory).length ∈ [1, 2, 4, 6, 8]

end Cmp50Unlock.Scripts
