import Cmp50Unlock.Scripts.Lemmas.PassTrace

/-!
# What is asked of a second pass

What the log of a run must say before a card is reset, and when the script ends with success.
-/

namespace Cmp50Unlock.Scripts

open Lib

/-! ## Before -/

/-- The card can be reset, and has one of the supported subsystems. -/
def SupportedCard (log : List PassEvent) (bdf : String) : Prop :=
  Answered log (.testReset bdf) (fun d => d.status = 0) ∧
    ∃ subvendor subdevice, Answered log (.readSubvendor bdf) (fun d => d.status = 0 ∧ d.out = subvendor) ∧
      Answered log (.readSubdevice bdf) (fun d => d.status = 0 ∧ d.out = subdevice) ∧
      dropHex subvendor.toList ++ ':' :: dropHex subdevice.toList ∈ secondPassSubsystems

/-- The link of the card is at Gen2. -/
def AtGen2 (log : List PassEvent) (bdf : String) : Prop :=
  Answered log (.readSpeed bdf) fun d => d.status = 0 ∧ d.out = gen2Speed

/-- A device of the driver is a CMP 50HX. -/
def OwnDevice (log : List PassEvent) (path : String) : Prop :=
  Answered log (.testDriverDevice path) (fun d => d.status ≠ 0) ∨
    ∃ vendor device, Answered log (.readVendor path) (fun d => d.status = 0 ∧ d.out = vendor) ∧
      Answered log (.readDevice path) (fun d => d.status = 0 ∧ d.out = device) ∧
      vendor ++ ":" ++ device = "0x10de:0x1e09"

/-- The first pass has initialized all cards of the host, and only supported ones. -/
structure FirstPass (devices : List String) (log : List PassEvent) : Prop where
  root : Answered log .testRoot fun d => d.status = 0
  kernel : Answered log .uname fun d => d.out ∈ secondPassKernels
  lock : Answered log .flock fun d => d.status = 0
  listed : Answered log .listDevices fun d => d.status = 0 ∧ d.out = devices
  some : devices ≠ []
  supported : ∀ bdf ∈ devices, SupportedCard log bdf
  initialized : Answered log .countGpus fun d => d.out = devices.length

/-- A second pass is needed, and disturbs nobody. -/
structure Needed (devices : List String) (log : List PassEvent) : Prop where
  behind : ∃ bdf ∈ devices, Answered log (.readSpeed bdf) fun d => d.status = 0 ∧ d.out ≠ gen2Speed
  exclusive : ∃ paths, Answered log .listDriverDevices (fun d => d.out = paths) ∧ ∀ path ∈ paths, OwnDevice log path
  idle : Answered log .fuser fun d => d.status ≠ 0
  unmasked : ∀ unit, Answered log (.isEnabled unit) fun d => d.out ≠ "masked" ∧ d.out ≠ "masked-runtime"

/-- udev is masked and stopped. -/
structure UdevStopped (log : List PassEvent) : Prop where
  masked : Answered log .mask fun d => d.status = 0
  stopped : Answered log .stop fun d => d.status = 0

/-- No driver is bound to the card. -/
def Unbound (log : List PassEvent) (bdf : String) : Prop :=
  Answered log (.testDriver bdf) (fun d => d.status ≠ 0) ∨ Answered log (.unbind bdf) fun d => d.status = 0

/-- All commands are resets of these cards. -/
def ResetsOf (devices : List String) (log : List PassEvent) : Prop :=
  ∀ event ∈ log, ∃ bdf ∈ devices, event.1 = .reset bdf

/-- The module is not loaded, and nothing but resets has followed. -/
def Unloaded (devices : List String) (log : List PassEvent) : Prop :=
  ∃ resets d before, log = resets ++ ⟨.grepModules, d⟩ :: before ∧ d.signal = none ∧
    d.status ≠ 0 ∧ ResetsOf devices resets

/-- A card may be reset. -/
structure ResetReady (devices : List String) (log : List PassEvent) : Prop where
  first : FirstPass devices log
  needed : Needed devices log
  udev : UdevStopped log
  unbound : ∀ bdf ∈ devices, Unbound log bdf
  unloaded : Unloaded devices log

/-! ## After -/

/-- A command of the second pass itself: it changes what others may be using. -/
def PassOp.reinitializes : PassOp → Bool
  | .markStopped | .mask | .stop | .unbind _ | .modprobeRemove | .reset _ => true
  | _ => false

/-- The first pass was enough. -/
structure FirstPassEnough (devices : List String) (log : List PassEvent) : Prop where
  first : FirstPass devices log
  speeds : ∀ bdf ∈ devices, AtGen2 log bdf
  bar1 : Answered log .readBar1Totals fun d => d.status = 0 ∧ d.out.length = devices.length ∧
    ∀ total ∈ d.out, largeEnough total = true
  harmless : Only (fun o => !o.reinitializes) log

/-- The card has come back with Gen2 and a BAR1 of 16 GiB. -/
def CameBack (log : List PassEvent) (bdf : String) : Prop :=
  AtGen2 log bdf ∧ Answered log (.setpci bdf) fun d =>
    d.status = 0 ∧ ∃ rebarCtrl, d.out.number = some rebarCtrl ∧ (rebarCtrl >>> 8) &&& 0x1F = 14

/-- Every card has been reset, and has come back since. -/
def SecondPassDone (devices : List String) (log : List PassEvent) : Prop :=
  ∃ after resets before, log = after ++ (resets ++ before) ∧ ResetReady devices before ∧ ResetsOf devices resets ∧
    (∀ bdf ∈ devices, Answered resets (.reset bdf) fun d => d.status = 0) ∧
    Answered after .countGpus (fun d => d.out = devices.length) ∧ ∀ bdf ∈ devices, CameBack after bdf

end Cmp50Unlock.Scripts
