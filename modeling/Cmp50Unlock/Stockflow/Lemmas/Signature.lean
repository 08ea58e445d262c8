import Cmp50Unlock.Stockflow.Lemmas.Footprint
import Mathlib.Tactic.MkIffOfInductiveProp

/-!
# The signature buffer across an attempt

What a successful creation leaves, and what a successful rebuild turns it into.
-/

namespace Cmp50Unlock.Stockflow

open Lib

/-- The `KernelGsp` of a CMP50 as a successful `_kgspCreateSignatureMemdesc` leaves it: the buffer exists and
a copy of the stock signature `data` is kept. -/
@[mk_iff]
structure FreshSignature (data : List (BitVec 8)) (g : KernelGsp) : Prop where
  memdesc : g.pSignatureMemdesc.isSome
  copy : g.pStockSignatureData = some data
  size : g.stockSignatureSize = data.length

/-- The buffer holds the stock signature, padded with zeros, and the metadata describes the buffer. -/
def SignatureRestored (data : List (BitVec 8)) (g : KernelGsp) : Prop :=
  ∃ m, g.pSignatureMemdesc = some m ∧ alignUp256 data.length ≤ m.size ∧
    (∀ k < m.size, m.mem.bytes k = data.getD k 0) ∧
    ∀ wprMeta, g.pWprMeta = some wprMeta →
      wprMeta.sysmemAddrOfSignature = m.mem.phys ∧ wprMeta.sizeOfSignature = alignUp256 data.length

theorem FreshSignature.same {data} {g g' : KernelGsp} (h : FreshSignature data g) (hs : g.SameBuffers g') :
    FreshSignature data g' :=
  ⟨hs.memdesc ▸ h.memdesc, hs.copy.trans h.copy, hs.size.trans h.size⟩

theorem SignatureRestored.same {data} {g g' : KernelGsp} (h : SignatureRestored data g)
    (hm : g'.pSignatureMemdesc = g.pSignatureMemdesc) (hw : g'.pWprMeta = g.pWprMeta) :
    SignatureRestored data g' := by
  obtain ⟨m, h₁, h₂, h₃, h₄⟩ := h
  exact ⟨m, hm.trans h₁, h₂, h₃, hw ▸ h₄⟩

theorem signature_frame {α : Type} {p : Driver α} {S : Op → Prop} {R : α → Prop} {w w' : World} {r : α} {data}
    (h : p.Within S R) (hS : ∀ o, S o → o.KeepsBuffers ∧ o.KeepsMeta) (he : p.Exec Step w r w')
    (hd : SignatureRestored data w.gsp) : SignatureRestored data w'.gsp :=
  hd.same (buffers_frame h (fun o ho => (hS o ho).1) he).memdesc (wprMeta_frame h (fun o ho => (hS o ho).2) he)

/-! ## Creation -/

theorem create_wp {pGpu : ObjGpu} {fw : GspFirmware} (hcmp : isCmp50ComputeUnlock pGpu) (w : World) :
    (kgspCreateSignatureMemdesc pGpu fw).wp Step (fun _ _ => True) w fun r w' =>
      w'.slots = w.slots ∧ (r = .ok → ∃ data, fw.pSignatureData = some data ∧ FreshSignature data w'.gsp) := by
  cases hd : fw.pSignatureData with
  | none =>
      simp +contextual [kgspCreateSignatureMemdesc, createCanarySignature, hcmp, hd, failCreate, failAlloc,
        Slots.step]
  | some data =>
      simp +contextual [kgspCreateSignatureMemdesc, createCanarySignature, kgspCreateSignatureMemdesc.finish,
        hcmp, hd, failCreate, failAlloc, Slots.step, KernelGsp.step, KernelGsp.act, KernelGsp.create,
        KernelGsp.alloc, KernelGsp.destroy, freshSignature_iff, fw.size_eq data hd]

/-! ## Restoring the stock signature -/

theorem portMem_restored {mem : Nat → BitVec 8} {size k : Nat} (data : List (BitVec 8)) (hk : k < size) :
    portMemCopy data (portMemZero size mem) k = data.getD k 0 := by
  simp only [portMemCopy, portMemZero, if_pos hk]

/-- What `kgspCmp50RebuildStockSignature` needs: the buffer, the copy, and room for the padded signature. -/
def Rebuildable (g : KernelGsp) : Prop :=
  ∃ m, g.pSignatureMemdesc = some m ∧ g.pStockSignatureData.isSome ∧ g.stockSignatureSize ≠ 0 ∧
    alignUp256 g.stockSignatureSize ≤ m.size

/-- The `KernelGsp` with its stock signature `data` back in the buffer `m` and in the metadata. -/
def KernelGsp.rebuilt (g : KernelGsp) (m : SignatureMemdesc) (data : List (BitVec 8)) : KernelGsp :=
  { g with
    pSignatureMemdesc := some { m with mem := ⟨m.mem.phys,
      portMemCopy (data.take g.stockSignatureSize) (portMemZero m.size m.mem.bytes)⟩ }
    pWprMeta := g.pWprMeta.map fun wprMeta => { wprMeta with
      sysmemAddrOfSignature := m.mem.phys, sizeOfSignature := alignUp256 g.stockSignatureSize } }

/-- What a rebuild does: nothing, or all of it. -/
def RebuildCases (g : KernelGsp) (r : NvStatus) (g' : KernelGsp) : Prop :=
  (r ≠ .ok ∧ g' = g) ∨ (r = .ok ∧ Rebuildable g ∧ ∃ m data,
    g.pSignatureMemdesc = some m ∧ g.pStockSignatureData = some data ∧ g' = g.rebuilt m data)

theorem rebuild_cases (w : World) : kgspCmp50RebuildStockSignature.wp Step (fun _ _ => True) w fun r w' =>
    RebuildCases w.gsp r w'.gsp := by
  obtain ⟨s, ⟨m, d, n, wprMeta, descriptor, c, f⟩, log⟩ := w
  cases m with
  | none => simp [kgspCmp50RebuildStockSignature, RebuildCases, KernelGsp.step]
  | some m =>
      cases d with
      | none => simp [kgspCmp50RebuildStockSignature, RebuildCases, KernelGsp.step]
      | some d =>
          cases wprMeta <;>
            simp +contextual [kgspCmp50RebuildStockSignature, RebuildCases, Rebuildable, KernelGsp.step, KernelGsp.act,
              KernelGsp.rebuilt]

theorem rebuild_restores (w : World) : kgspCmp50RebuildStockSignature.wp Step (fun _ _ => True) w fun r w' =>
    r = .ok → ∀ data, FreshSignature data w.gsp → SignatureRestored data w'.gsp := by
  refine (rebuild_cases w).mono fun r w' h hr data hfresh => ?_
  obtain ⟨hne, -⟩ | ⟨-, ⟨m, hm, -, -, hsize⟩, m', data', hm', hdata, hg⟩ := h
  · exact absurd hr hne
  obtain rfl : m = m' := Option.some.inj (hm.symm.trans hm')
  obtain rfl : data = data' := Option.some.inj (hfresh.copy.symm.trans hdata)
  rw [hfresh.size] at hsize
  rw [hg]
  refine ⟨_, rfl, hsize, fun k hk => ?_, fun wprMeta hw => ?_⟩
  · simp [hfresh.size, portMem_restored data hk]
  · obtain ⟨wprMeta', -, rfl⟩ := Option.map_eq_some_iff.1 hw
    simp [hfresh.size]

theorem rebuild_wp (w : World) : kgspCmp50RebuildStockSignature.wp Step (Op.Calm w.slots fun _ _ => False) w
    fun r w' => w'.slots = w.slots ∧ (∀ r, lastRead r w'.log = lastRead r w.log) ∧
      (r = .ok → ∀ data, FreshSignature data w.gsp → SignatureRestored data w'.gsp) := by
  have hquiet := quiet_wp (w := w) rebuild_uses fun _ h => h.1
  refine (hquiet.and (rebuild_restores w)).imp (fun _ _ h => h.1) ?_
  rintro r w' ⟨⟨he, hs⟩, hr⟩
  exact ⟨hs, fun reg => lastRead_frame rebuild_uses (fun _ h => h.2) he reg, hr⟩

theorem portMem_again (data : List (BitVec 8)) (size : Nat) (mem : Nat → BitVec 8) :
    portMemCopy data (portMemZero size (portMemCopy data (portMemZero size mem))) =
      portMemCopy data (portMemZero size mem) := by
  funext k
  by_cases hk : k < size
  · simp [portMemCopy, portMemZero, hk]
  · cases hd : data[k]? <;> simp [portMemCopy, portMemZero, hk, hd]

theorem rebuilt_again {g : KernelGsp} {m : SignatureMemdesc} {data : List (BitVec 8)} {m' : SignatureMemdesc}
    (hm : (g.rebuilt m data).pSignatureMemdesc = some m') : (g.rebuilt m data).rebuilt m' data = g.rebuilt m data := by
  cases hm
  simp [KernelGsp.rebuilt, portMem_again, Function.comp_def]

/-- After a rebuild, another one changes nothing. -/
theorem RebuildCases.again {g g' g'' : KernelGsp} {r : NvStatus} (h : RebuildCases g .ok g')
    (h' : RebuildCases g' r g'') :
    g'' = g' := by
  obtain ⟨hne, -⟩ | ⟨-, -, m, data, -, hdata, rfl⟩ := h
  · exact absurd rfl hne
  obtain ⟨-, rfl⟩ | ⟨-, -, m', data', hm', hdata', rfl⟩ := h'
  · rfl
  have hcopy : (g.rebuilt m data).pStockSignatureData = some data := hdata
  obtain rfl : data = data' := Option.some.inj (hcopy.symm.trans hdata')
  exact rebuilt_again hm'

/-! ## From a creation to a rebuild -/

/-- The copy is kept, and of the buffer nothing but bytes differs. -/
structure OnlyBytes (g g' : KernelGsp) : Prop where
  memdesc : ∀ m, g.pSignatureMemdesc = some m →
    ∃ bytes, g'.pSignatureMemdesc = some { m with mem := { m.mem with bytes } }
  copy : g'.pStockSignatureData = g.pStockSignatureData
  size : g'.stockSignatureSize = g.stockSignatureSize

/-- The buffer holds the signature `data` in its first bytes and zeros in the others, and the metadata describes the
buffer as the stock path does. -/
structure HoldsStock (data : List (BitVec 8)) (g : KernelGsp) (m : SignatureMemdesc) : Prop where
  memdesc : g.pSignatureMemdesc = some m
  fits : data.length ≤ m.size
  signature : ∀ k (h : k < data.length), m.mem.bytes k = data.get ⟨k, h⟩
  padding : ∀ k, data.length ≤ k → k < m.size → m.mem.bytes k = 0
  wprMeta : ∀ wprMeta, g.pWprMeta = some wprMeta → wprMeta.sysmemAddrOfSignature = m.mem.phys ∧
    wprMeta.sizeOfSignature = (data.length + 255) / 256 * 256

/-- The buffer that a successful creation leaves. -/
theorem create_memdesc {pGpu : ObjGpu} {fw : GspFirmware} (hcmp : isCmp50ComputeUnlock pGpu) (w : World) :
    (kgspCreateSignatureMemdesc pGpu fw).wp Step (fun _ _ => True) w fun r w' => r = .ok →
      ∃ m, w'.gsp.pSignatureMemdesc = some m ∧ m.size = canarySignatureSize := by
  cases hd : fw.pSignatureData with
  | none => simp +contextual [kgspCreateSignatureMemdesc, createCanarySignature, hcmp, hd, failCreate, failAlloc]
  | some data =>
      simp +contextual [kgspCreateSignatureMemdesc, createCanarySignature, kgspCreateSignatureMemdesc.finish, hcmp, hd,
        failCreate, failAlloc, KernelGsp.step, KernelGsp.act, KernelGsp.create, KernelGsp.alloc]

theorem alignUp256_eq {n : Nat} (h : n + 255 < 2 ^ 64) : alignUp256 n = (n + 255) / 256 * 256 := by
  rw [alignUp256, Nat.mod_eq_of_lt h]

theorem holdsStock_rebuilt {g : KernelGsp} {m : SignatureMemdesc} {data : List (BitVec 8)}
    (hsize : g.stockSignatureSize = data.length) (hroom : alignUp256 data.length ≤ m.size)
    (hfit : data.length + 255 < 2 ^ 64) :
    ∃ m', m'.size = m.size ∧ HoldsStock data (g.rebuilt m data) m' := by
  rw [alignUp256_eq hfit] at hroom
  have hle : data.length ≤ m.size := by omega
  refine ⟨{ m with mem := ⟨m.mem.phys, portMemCopy (data.take g.stockSignatureSize) (portMemZero m.size m.mem.bytes)⟩ },
    rfl, rfl, hle, fun k hk => ?_, fun k hk hk' => ?_, fun wprMeta hw => ?_⟩
  · simp [hsize, portMem_restored data (Nat.lt_of_lt_of_le hk hle), hk]
  · simp [hsize, portMem_restored data hk', hk]
  · obtain ⟨wprMeta', -, rfl⟩ := Option.map_eq_some_iff.1 hw
    simp [hsize, alignUp256_eq hfit]

theorem FreshSignature.onlyBytes {data} {g g' : KernelGsp} (h : FreshSignature data g) (hb : OnlyBytes g g') :
    FreshSignature data g' := by
  obtain ⟨m, hm⟩ := Option.isSome_iff_exists.1 h.memdesc
  obtain ⟨bytes, hm'⟩ := hb.memdesc m hm
  exact ⟨by simp [hm'], hb.copy.trans h.copy, hb.size.trans h.size⟩

end Cmp50Unlock.Stockflow
