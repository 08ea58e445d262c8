import Cmp50Unlock.Stockflow.Board
import Cmp50Unlock.Stockflow.Resources
import Mathlib.Data.List.Chain

/-!
# Metadata pages over the launches of a board

Each launch of Booter is given the physical address of a page with the WPR metadata: the canonical page, or a
fresh one that is released afterwards. The launches of a board go on over its boot attempts.
-/

namespace Cmp50Unlock.Stockflow

open Lib

/-- The addresses that were passed to launches, the newest first. -/
def launchAddrs : List Event → List (BitVec 64)
  | [] => []
  | ⟨.launch _ addr, _⟩ :: log => addr :: launchAddrs log
  | _ :: log => launchAddrs log

/-- What the last launch left in its page, unless a page was allocated since. -/
def leftInPage : List Event → Option WprMeta
  | [] => none
  | ⟨.launch _ _, m⟩ :: _ => some m
  | ⟨.tagAlloc .freshMeta, _⟩ :: _ => none
  | _ :: log => leftInPage log

/-- The last address, with `earlier` the addresses of the attempts before this one. -/
def World.lastPage (w : World) (earlier : List (BitVec 64)) : Option (BitVec 64) := (launchAddrs w.log ++ earlier).head?

/-- A fresh page is another one than that of the launch before, and a page that was launched on can be mapped again. -/
def PageAnswers (earlier : List (BitVec 64)) (w : World) : (o : Op) → o.Ans → Prop
  | .tagAlloc .freshMeta, (.ok, b) => w.lastPage earlier ≠ some b.phys
  | .test (.memdescMapInternal .freshMeta), mapped => (leftInPage w.log).isSome → mapped = true
  | _, _ => True

/-- An attempt that will rejoin a committed slot starts with another canonical page than that of the launch before. -/
structure StartsAfter (stock : StockCode) (pGpu : ObjGpu) (earlier : List (BitVec 64)) (s : Slots) (g : KernelGsp) :
    Prop where
  noFresh : g.pFreshMeta = none
  rejoin : s.flag .phaseCommitted (cmp50StockflowGpuIndex pGpu) = true →
    earlier.head? ≠ some (stock.kgspGetBooterLoadArgs g .normal)

/-- NORMAL attempts of a board, one after another, with such answers: the arrays they leave and the addresses of their
launches. -/
inductive BoardRun (stock : StockCode) (pGpu : ObjGpu) : Slots → List (BitVec 64) → Prop where
  | loaded : BoardRun stock pGpu .zero []
  | boot {s earlier g r w} : BoardRun stock pGpu s earlier → StartsAfter stock pGpu earlier s g →
      Goto.Call (StepWith (PageAnswers earlier)) (kgspBootstrap stock pGpu .normal) .entry (startWorld s g) r w →
      BoardRun stock pGpu w.slots (launchAddrs w.log ++ earlier)

/-- The launch is given a page that the one before was not given: the fresh page, or the canonical one. When a fresh
page is released after a launch, the canonical metadata is what the launch left in it. -/
def Op.KeepsPages (stock : StockCode) (earlier : List (BitVec 64)) (w : World) : Op → Prop
  | .launch _ addr => w.lastPage earlier ≠ some addr ∧ (w.gsp.pFreshMeta.map MetaPage.phys = some addr ∨
      w.gsp.pFreshMeta = none ∧ addr = stock.kgspGetBooterLoadArgs w.gsp .normal)
  | .act (.memdescFree .freshMeta) => ∀ m, leftInPage w.log = some m → w.gsp.pWprMeta = some m
  | _ => True

/-- Booter leaves its metadata in the canonical page, if that is the one it is given. -/
def Op.LaunchesCanonical (w : World) : Op → Prop
  | .launch u addr => w.gsp.pFreshMeta = none → w.gsp.pWprMetaDescriptor.isSome →
      ∀ m, (w.after (.launch u addr) m).gsp.pWprMeta = w.gsp.pWprMeta.map fun _ => m
  | _ => True

/-- Nothing of a fresh page is held. -/
def PageGivenBack (log : List Event) : Prop := ∀ r : Resource, r.owner = some .freshMeta → held r log = 0

/-- No page is handed out that the driver still uses. -/
def PagesUnused (w : World) : (o : Op) → o.Ans → Prop
  | .tagAlloc .freshMeta, (_, b) =>
      w.gsp.pWprMetaDescriptor ≠ some b.phys ∧ w.gsp.pSignatureMemdesc.map (fun m => m.mem.phys) ≠ some b.phys
  | _, _ => True

end Cmp50Unlock.Stockflow
