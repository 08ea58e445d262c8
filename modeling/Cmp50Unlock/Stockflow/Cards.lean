import Cmp50Unlock.Lib.Interleave
import Cmp50Unlock.Stockflow.History

/-!
# Several cards in one host

The boot attempts of the cards of a host interleave in any way. They share the per-slot arrays; everything else of
an attempt belongs to its card.
-/

namespace Cmp50Unlock.Stockflow

open Lib

/-! ## The entries of a card -/

/-- The slot that a GPU uses in the array of `f`. -/
def slotOf (pGpu : ObjGpu) : SlotFlag → Nat
  | .exploitMode => cmp50ExploitModeIndex pGpu
  | _ => cmp50StockflowGpuIndex pGpu

/-- The operation reads or writes an entry of the arrays that belongs to `pGpu`. -/
def Op.Touches (pGpu : ObjGpu) : Op → Prop
  | .getFlag f i | .act (.setFlag f i _) => i = slotOf pGpu f
  | .getWpr _ i | .act (.setWpr _ i _) => i = cmp50StockflowGpuIndex pGpu
  | _ => False

/-- The entries of `pGpu` are the same in both arrays. -/
structure SameSlots (pGpu : ObjGpu) (s t : Slots) : Prop where
  flag : ∀ f, s.flag f (slotOf pGpu f) = t.flag f (slotOf pGpu f)
  wpr : ∀ b, s.wpr b (cmp50StockflowGpuIndex pGpu) = t.wpr b (cmp50StockflowGpuIndex pGpu)

/-! ## Interleavings -/

/-- A boot attempt in progress: what is left of it, and the state that belongs to it. -/
structure Progress where
  bootMode : BootMode
  prog : Driver (Exit Label NvStatus)
  gsp : KernelGsp
  log : List Event

/-- The steps of one card: it starts an attempt of any mode, takes the steps of the attempt, and ends it. -/
inductive CardStep (stock : StockCode) (pGpu : ObjGpu) :
    Slots × Option Progress → Slots × Option Progress → Prop where
  | start {s} (bootMode : BootMode) (g : KernelGsp) :
      CardStep stock pGpu (s, none) (s, some ⟨bootMode, kgspBootstrap stock pGpu bootMode .entry, g, []⟩)
  | op {s bootMode o k g log a w'} : Step o ⟨s, g, log⟩ a w' →
      CardStep stock pGpu (s, some ⟨bootMode, .op o k, g, log⟩) (w'.slots, some ⟨bootMode, k a, w'.gsp, w'.log⟩)
  | goto {s bootMode l g log} : CardStep stock pGpu (s, some ⟨bootMode, .ret (.goto l), g, log⟩)
      (s, some ⟨bootMode, kgspBootstrap stock pGpu bootMode l, g, log⟩)
  | finish {s bootMode r g log} : CardStep stock pGpu (s, some ⟨bootMode, .ret (.ret r), g, log⟩) (s, none)

/-- A host with the cards `gpus`, none of which makes an attempt. -/
def idle {ι : Type} (s : Slots) : Pool ι Slots (Option Progress) := ⟨s, fun _ => none⟩

/-- An interleaving of attempts of the cards takes the host from one state to the other. -/
abbrev HostRuns (stock : StockCode) {ι : Type} [DecidableEq ι] (gpus : ι → ObjGpu) :
    Pool ι Slots (Option Progress) → Pool ι Slots (Option Progress) → Prop :=
  Pool.Runs fun i => CardStep stock (gpus i)

/-- In every interleaving, no step of a card reads or writes an entry of another card, and every attempt that
returns does so like an attempt of a history of its card alone, from arrays that are the same for it. -/
structure Isolated (stock : StockCode) {ι : Type} [DecidableEq ι] (gpus : ι → ObjGpu) : Prop where
  untouched : ∀ s pool, HostRuns stock gpus (idle s) pool → ∀ i j, i ≠ j → ∀ bootMode o k g log,
    pool.own i = some ⟨bootMode, .op o k, g, log⟩ → ¬ o.Touches (gpus j)
  outcome : ∀ s pool, HostRuns stock gpus (idle s) pool → ∀ i bootMode r g log,
    pool.own i = some ⟨bootMode, .ret (.ret r), g, log⟩ → ∀ t, SameSlots (gpus i) s t →
    ∃ t₁ g₁ t', Later stock (fun a => a.pGpu = gpus i) t t₁ ∧
      Returns stock (gpus i) bootMode t₁ g₁ r ⟨t', g, log⟩

/-! ## Steps of a card and attempts -/

section
variable {stock : StockCode} {pGpu : ObjGpu} {t s s' : Slots} {p p' : Option Progress}

/-- Where a card that started idle with the arrays `t` is: some attempts returned, and the next one, if any, is in
progress. -/
def Underway (stock : StockCode) (pGpu : ObjGpu) (t s : Slots) : Option Progress → Prop
  | none => Later stock (fun a => a.pGpu = pGpu) t s
  | some x => ∃ t₁ g₁, Later stock (fun a => a.pGpu = pGpu) t t₁ ∧
      Relation.ReflTransGen (Goto.Small Step (kgspBootstrap stock pGpu x.bootMode))
        (kgspBootstrap stock pGpu x.bootMode .entry, startWorld t₁ g₁) (x.prog, ⟨s, x.gsp, x.log⟩)

theorem underway_step (h : CardStep stock pGpu (s, p) (s', p')) (hu : Underway stock pGpu t s p) :
    Underway stock pGpu t s' p' := by
  cases h with
  | start bootMode g => exact ⟨s, g, hu, .refl⟩
  | op hst =>
      obtain ⟨t₁, g₁, hlater, hsmall⟩ := hu
      exact ⟨t₁, g₁, hlater, hsmall.tail (.op hst)⟩
  | goto =>
      obtain ⟨t₁, g₁, hlater, hsmall⟩ := hu
      exact ⟨t₁, g₁, hlater, hsmall.tail .goto⟩
  | finish =>
      obtain ⟨t₁, g₁, hlater, hsmall⟩ := hu
      exact Later.boot (a := ⟨pGpu, _, t₁, g₁, _, _⟩) hlater rfl (Goto.call_of_small hsmall)

theorem underway {x : Slots × Option Progress} (h : Relation.ReflTransGen (CardStep stock pGpu) (t, none) x) :
    Underway stock pGpu t x.1 x.2 := by
  induction h with
  | refl => exact Later.refl
  | tail _ hs ih => exact underway_step hs ih

end

end Cmp50Unlock.Stockflow
