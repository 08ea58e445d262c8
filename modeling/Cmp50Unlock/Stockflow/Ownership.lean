import Cmp50Unlock.Stockflow.Lemmas.Command
import Cmp50Unlock.Stockflow.Lemmas.Pages
import Cmp50Unlock.Stockflow.Lemmas.Undo
import Cmp50Unlock.Stockflow.Theorems

/-!
# Theorems about what a boot owns

The signature buffer with the copy of the stock signature, the prepared FWSEC command and the pages that hold
the WPR metadata: who takes them, what is in them, who gives them back.
-/

namespace Cmp50Unlock.Stockflow

open Lib

/-! ## The creation of the signature buffer -/

/-- On a supported board, a call of `_kgspCreateSignatureMemdesc` that returns an error is undone exactly when it was
refused the buffer, or when there was no copy before it and it was refused the mapping; otherwise it must not fail. -/
theorem create_undone_iff {pGpu : ObjGpu} (hcmp : isCmp50ComputeUnlock pGpu) (fw : GspFirmware) (al : Allocator)
    (s : Slots) (g : KernelGsp) :
    (∀ r w, (kgspCreateSignatureMemdesc pGpu fw).Exec al.Step (startWorld s g) r w → r ≠ .ok → SignatureUndone g w) ↔
      al.memdescCreate ≠ .ok ∨ al.memdescTagAlloc.1 ≠ .ok ∨
        (g.pStockSignatureData = none ∧ (al.memdescMapInternal = false ∨ Copyable fw al)) := by
  rw [← Prog.wp_exec_iff]
  by_cases hc : al.memdescCreate = .ok
  · by_cases ha : al.memdescTagAlloc.1 = .ok
    · cases hm : al.memdescMapInternal with
      | true => simp [create_mapped hcmp hc ha hm, hc, ha]
      | false => simp [create_unmapped hcmp hc ha hm, hc, ha]
    · simp [create_refused hcmp (.inr ha), ha]
  · simp [create_refused hcmp (.inl hc), hc]

/-- An allocator that gives nothing. -/
def exhausted : Allocator := ⟨.errInsufficientResources, (.errInsufficientResources, ⟨0, fun _ => 0⟩), false, false⟩

/-- The answers of a board with this allocator. -/
def Allocator.answer (al : Allocator) (w : World) : (o : Op) → o.Ans
  | .hal (.memdescCreate _ _) => al.memdescCreate
  | .tagAlloc _ => al.memdescTagAlloc
  | .test (.memdescMapInternal _) => al.memdescMapInternal
  | .test (.portMemAllocStock _) => al.portMemAllocNonPaged
  | o => sampleBoard.answer w o

def Allocator.run (al : Allocator) (o : Op) (w : World) : o.Ans × World := (al.answer w o, w.after o (al.answer w o))

theorem Allocator.run_step (al : Allocator) (o : Op) (w : World) : al.Step o w (al.run o w).1 (al.run o w).2 := by
  cases o with
  | hal c => cases c <;> exact ⟨⟨trivial, rfl⟩, by first | rfl | trivial⟩
  | test t => cases t <;> exact ⟨⟨trivial, rfl⟩, by first | rfl | trivial⟩
  | _ => exact ⟨⟨by first | rfl | trivial, rfl⟩, by first | rfl | trivial⟩

theorem create_undone_sample : ∃ w, (kgspCreateSignatureMemdesc sampleGpu sampleFw).Exec exhausted.Step
    (startWorld .zero sampleGsp) .errInsufficientResources w ∧ SignatureUndone sampleGsp w := by
  have he := Prog.exec_interp id exhausted.run_step (kgspCreateSignatureMemdesc sampleGpu sampleFw)
    (startWorld .zero sampleGsp)
  have hundone := (@create_undone_iff sampleGpu (by decide) sampleFw exhausted .zero sampleGsp).2 (.inl (by decide))
  exact ⟨_, he, hundone _ _ he nofun⟩

/-- A call that finds a copy of the stock signature destroys it, although every request is granted. -/
theorem create_destroys_copy : sampleGsp.pStockSignatureData = some [0xAA] ∧
    ∃ w, (kgspCreateSignatureMemdesc sampleGpu sampleFw).Exec Step (startWorld .zero sampleGsp) .errInvalidState w ∧
      w.gsp.pStockSignatureData = none ∧ ¬ SignatureUndone sampleGsp w := by
  have he := Prog.exec_interp id sampleBoard.run_step (kgspCreateSignatureMemdesc sampleGpu sampleFw)
    (startWorld .zero sampleGsp)
  exact ⟨rfl, _, he, rfl, fun h => by cases h.copy⟩

/-! ## The stock signature -/

/-- On a supported board, a successful creation and a later successful rebuild bring back the signature of the firmware,
whatever was written into the buffer in between. A rebuild that fails changes nothing; it fails if anything it needs is
missing, and so if the signature does not fit; and a second one changes nothing more. -/
theorem signature_round_trip {pGpu : ObjGpu} {fw : GspFirmware} (hcmp : isCmp50ComputeUnlock pGpu)
    (hfit : fw.signatureSize + 255 < 2 ^ 64) :
    (∀ w w₁ w₂ r w₃, (kgspCreateSignatureMemdesc pGpu fw).Exec Step w .ok w₁ → OnlyBytes w₁.gsp w₂.gsp →
      kgspCmp50RebuildStockSignature.Exec Step w₂ r w₃ →
      (r = .ok → ∃ data m, fw.pSignatureData = some data ∧ m.size = canarySignatureSize ∧ HoldsStock data w₃.gsp m) ∧
      (canarySignatureSize < alignUp256 fw.signatureSize → r ≠ .ok)) ∧
    ∀ w r w', kgspCmp50RebuildStockSignature.Exec Step w r w' →
      (¬ Rebuildable w.gsp → r ≠ .ok) ∧ (r ≠ .ok → w'.gsp = w.gsp) ∧
      (r = .ok → ∀ r' w'', kgspCmp50RebuildStockSignature.Exec Step w' r' w'' → w''.gsp = w'.gsp) := by
  refine ⟨fun w w₁ w₂ r w₃ hcreate hbytes hrebuild => ?_, fun w r w' he => ?_⟩
  · obtain ⟨data, hdata, hfresh⟩ := ((create_wp hcmp w).exec hcreate).2 rfl
    obtain ⟨m₁, hm₁, hsize₁⟩ := (create_memdesc hcmp w).exec hcreate rfl
    obtain ⟨bytes, hm₂⟩ := hbytes.memdesc m₁ hm₁
    have hfresh₂ := hfresh.onlyBytes hbytes
    rw [← fw.size_eq data hdata] at hfit ⊢
    obtain ⟨hr, -⟩ | ⟨-, ⟨m, hm, -, -, hroom⟩, m', data', hm', hdata', hg⟩ := (rebuild_cases w₂).exec hrebuild
    · exact ⟨fun h => absurd h hr, fun _ => hr⟩
    obtain rfl : m = m' := Option.some.inj (hm.symm.trans hm')
    obtain rfl : data = data' := Option.some.inj (hfresh₂.copy.symm.trans hdata')
    have hsize : m.size = canarySignatureSize := by rw [← hsize₁, Option.some.inj (hm.symm.trans hm₂)]
    rw [hfresh₂.size] at hroom
    obtain ⟨m₃, hsize₃, hholds⟩ := holdsStock_rebuilt hfresh₂.size hroom hfit
    refine ⟨fun _ => ⟨data, m₃, hdata, hsize₃.trans hsize, hg ▸ hholds⟩, fun hbig => ?_⟩
    omega
  · have hcases := (rebuild_cases w).exec he
    refine ⟨fun hnot hr => ?_, fun hr => ?_, fun hr r' w'' he' => ?_⟩
    · rcases hcases with ⟨hne, -⟩ | ⟨-, hready, -⟩
      · exact hne hr
      · exact hnot hready
    · rcases hcases with ⟨-, hg⟩ | ⟨hok, -⟩
      · exact hg
      · exact absurd hok hr
    · subst hr
      exact hcases.again ((rebuild_cases w').exec he')

/-- The world after the creation of a signature buffer. -/
def createdWorld : World :=
  ((kgspCreateSignatureMemdesc sampleGpu sampleFw).interp sampleBoard.run
    (startWorld .zero ⟨none, none, 0, none, none, false, none⟩)).2

/-- The same with the other boot arguments, after a device wrote into the buffer. -/
def scribbledWorld : World :=
  { createdWorld with gsp := { createdWorld.gsp with
      pWprMeta := some ⟨0, 0, 0, 0⟩
      pSignatureMemdesc := createdWorld.gsp.pSignatureMemdesc.map fun m =>
        { m with mem := { m.mem with bytes := fun _ => 0x55 } } } }

theorem scribbledWorld_bytes : OnlyBytes createdWorld.gsp scribbledWorld.gsp :=
  ⟨fun m hm => ⟨fun _ => 0x55, by simp [scribbledWorld, hm]⟩, rfl, rfl⟩

theorem signature_round_trip_sample : ∃ w m, kgspCmp50RebuildStockSignature.Exec Step scribbledWorld .ok w ∧
    HoldsStock [0xAA] w.gsp m := by
  have hcreate := Prog.exec_interp id sampleBoard.run_step (kgspCreateSignatureMemdesc sampleGpu sampleFw)
    (startWorld .zero ⟨none, none, 0, none, none, false, none⟩)
  have hrebuild := Prog.exec_interp id sampleBoard.run_step kgspCmp50RebuildStockSignature scribbledWorld
  obtain ⟨data, m, hdata, -, hm⟩ := ((@signature_round_trip sampleGpu sampleFw (by decide) (by decide)).1
    _ _ _ _ _ hcreate scribbledWorld_bytes hrebuild).1 rfl
  cases hdata
  exact ⟨_, m, hrebuild, hm⟩

/-! ## The prepared FWSEC command -/

/-- In a run of attempts on a CMP50 with such answers, no launch is given the page of the launch before. In the attempt
that follows, too, a launch is given another page, a fresh page goes back only after its contents were copied to the
canonical metadata, and a launch on the canonical page leaves them there. A fresh page is given back whatever
happens. -/
theorem launch_pages_differ {stock : StockCode} {pGpu : ObjGpu} (hcmp : isCmp50ComputeUnlock pGpu) {s : Slots}
    {earlier : List (BitVec 64)} (hrun : BoardRun stock pGpu s earlier) : earlier.IsChain (· ≠ ·) ∧
      ∀ g, StartsAfter stock pGpu earlier s g →
        (∀ o w, Goto.Issues (StepWith (PageAnswers earlier)) (kgspBootstrap stock pGpu .normal) .entry
          (startWorld s g) o w →
          o.KeepsPages stock earlier w ∧ o.LaunchesCanonical w) ∧
        ∀ r w, Returns stock pGpu .normal s g r w → PageGivenBack w.log := by
  refine ⟨hrun.chain hcmp, fun g hg => ⟨fun o w hi => ?_, fun r w hr => hr.givesBack hcmp⟩⟩
  have hkept := hg.keepsPages hcmp hi
  exact ⟨hkept, hkept.launchesCanonical⟩

/-- The answers of a board whose fresh page depends on the launches before. -/
def pagedAnswer (page : Nat → BitVec 64) (w : World) : (o : Op) → o.Ans
  | .tagAlloc _ => (.ok, ⟨page (Board.launches w.log), fun _ => 0⟩)
  | o => sampleBoard.answer w o

def pagedRun (page : Nat → BitVec 64) (o : Op) (w : World) : o.Ans × World :=
  (pagedAnswer page w o, w.after o (pagedAnswer page w o))

theorem pagedRun_step (page : Nat → BitVec 64) (o : Op) (w : World) :
    Step o w (pagedRun page o w).1 (pagedRun page o w).2 := by
  cases o <;> exact ⟨by first | rfl | trivial, rfl⟩

/-- A fresh page of the board has the property. -/
def pageCheck (page : Nat → BitVec 64) (ok : World → BitVec 64 → Bool) (o : Op) (w : World) : Bool :=
  match o with
  | .tagAlloc .freshMeta => ok w (page (Board.launches w.log))
  | _ => true

/-- A call on the board, and whether all its fresh pages have the property. -/
def pagedBoot (page : Nat → BitVec 64) (ok : World → BitVec 64 → Bool) : Option (NvStatus × World × Bool) :=
  Goto.interp (Prog.checked (pagedRun page) (pageCheck page ok)) (kgspBootstrap sampleStock sampleGpu .normal) 4 .entry
    (startWorld .zero sampleGsp, true)

theorem pagedBoot_call {page : Nat → BitVec 64} {ok : World → BitVec 64 → Bool} {A : World → (o : Op) → o.Ans → Prop}
    {r : NvStatus} {w : World} (h : pagedBoot page ok = some (r, w, true))
    (hA : ∀ o w, pageCheck page ok o w = true → A w o (pagedAnswer page w o)) :
    Goto.Call (StepWith A) (kgspBootstrap sampleStock sampleGpu .normal) .entry (startWorld .zero sampleGsp) r w :=
  (Goto.call_checked id (fun o w hc => ⟨pagedRun_step page o w, hA o w hc⟩) h rfl).2

/-- The first fresh page, and the others. -/
def samplePage (n : Nat) : BitVec 64 := if n = 0 then 0x100000 else 0x101000

set_option maxRecDepth 4000 in
theorem launch_pages_sample : ∃ s, BoardRun sampleStock sampleGpu s [0x101000, 0x100000] ∧
    [(0x101000 : BitVec 64), 0x100000].IsChain (· ≠ ·) := by
  have hrun : (pagedBoot samplePage fun w phys => w.lastPage [] ≠ some phys).map
      (fun x => (launchAddrs x.2.1.log, x.2.2)) = some ([0x101000, 0x100000], true) := by rfl
  obtain ⟨⟨r, w, ok⟩, hboot, hx⟩ := Option.map_eq_some_iff.1 hrun
  simp only [Prod.mk.injEq] at hx
  obtain ⟨haddrs, rfl⟩ := hx
  have hstart : StartsAfter sampleStock sampleGpu [] .zero sampleGsp := ⟨rfl, nofun⟩
  have hcall := pagedBoot_call (A := PageAnswers []) hboot ?_
  · have hboard : BoardRun sampleStock sampleGpu w.slots [0x101000, 0x100000] := by
      have h := BoardRun.loaded.boot hstart hcall
      rwa [haddrs] at h
    exact ⟨w.slots, hboard, (launch_pages_differ (by decide) hboard).1⟩
  · intro o w hc
    cases o with
    | tagAlloc m =>
        cases m with
        | freshMeta =>
            have hdiffers := of_decide_eq_true hc
            exact hdiffers
        | _ => trivial
    | test t =>
        cases t with
        | memdescMapInternal m => cases m <;> first | trivial | exact fun _ => rfl
        | _ => trivial
    | _ => trivial

set_option maxRecDepth 4000 in
/-- Both launches of a boot may be given the same page, although it is free when it is handed out. -/
theorem launch_page_repeats : ∃ w, Goto.Call (StepWith PagesUnused) (kgspBootstrap sampleStock sampleGpu .normal) .entry
    (startWorld .zero sampleGsp) .ok w ∧ launchAddrs w.log = [0x100000, 0x100000] := by
  have hrun : (pagedBoot (fun _ => 0x100000) fun w phys => w.gsp.pWprMetaDescriptor ≠ some phys ∧
      w.gsp.pSignatureMemdesc.map (fun m => m.mem.phys) ≠ some phys).map
        (fun x => (x.1, launchAddrs x.2.1.log, x.2.2)) = some (.ok, [0x100000, 0x100000], true) := by rfl
  obtain ⟨⟨r, w, ok⟩, hboot, hx⟩ := Option.map_eq_some_iff.1 hrun
  simp only [Prod.mk.injEq] at hx
  obtain ⟨rfl, haddrs, rfl⟩ := hx
  refine ⟨w, pagedBoot_call hboot fun o w hc => ?_, haddrs⟩
  cases o with
  | tagAlloc m =>
      cases m with
      | freshMeta =>
          have hunused := of_decide_eq_true hc
          exact hunused
      | _ => trivial
  | _ => trivial

end Cmp50Unlock.Stockflow
