import Cmp50Unlock.Stockflow.Lemmas.Jumps
import Cmp50Unlock.Stockflow.Lemmas.Routine
import Cmp50Unlock.Stockflow.Pages

/-!
# The page of each launch

Nothing but the launches and the handling of the fresh page changes what is known of the pages. Around a launch
on a fresh page the metadata goes into the page and comes back from it.
-/

namespace Cmp50Unlock.Stockflow

open Lib

/-- The same launches, the same fresh page and the same canonical page. -/
structure World.SamePages (w w' : World) : Prop where
  launches : launchAddrs w'.log = launchAddrs w.log
  left : leftInPage w'.log = leftInPage w.log
  fresh : w'.gsp.pFreshMeta = w.gsp.pFreshMeta
  canonical : w'.gsp.pWprMetaDescriptor = w.gsp.pWprMetaDescriptor

theorem World.SamePages.trans {w w₁ w₂ : World} (h₁ : w.SamePages w₁) (h₂ : w₁.SamePages w₂) : w.SamePages w₂ :=
  ⟨h₂.launches.trans h₁.launches, h₂.left.trans h₁.left, h₂.fresh.trans h₁.fresh, h₂.canonical.trans h₁.canonical⟩

theorem World.SamePages.refl (w : World) : w.SamePages w := ⟨rfl, rfl, rfl, rfl⟩

section
variable {stock : StockCode} {pGpu : ObjGpu} {earlier : List (BitVec 64)} {w : World}

/-- The steps of an attempt after the launches `earlier`. -/
abbrev PageStep (earlier : List (BitVec 64)) := StepWith (PageAnswers earlier)

theorem Op.OffPage.samePages {o : Op} (h : o.OffPage) (w : World) (a : o.Ans) : w.SamePages (w.after o a) := by
  cases o with
  | hal c =>
      cases c with
      | memdescCreate m size => cases a <;> cases m <;> first | exact h.elim | exact ⟨rfl, rfl, rfl, rfl⟩
      | _ => exact ⟨rfl, rfl, rfl, rfl⟩
  | tagAlloc m =>
      obtain ⟨status, b⟩ := a
      cases status <;> cases m <;> first | exact h.elim | exact ⟨rfl, rfl, rfl, rfl⟩
  | act c =>
      cases c with
      | memdescDestroy m => cases m <;> first | exact h.elim | exact ⟨rfl, rfl, rfl, rfl⟩
      | _ => first | exact h.elim | exact ⟨rfl, rfl, rfl, rfl⟩
  | launch u addr => exact h.elim
  | _ => exact ⟨rfl, rfl, rfl, rfl⟩

theorem Op.OffPage.keepsPages {o : Op} (h : o.OffPage) : o.KeepsPages stock earlier w := by
  unfold Op.KeepsPages
  split <;> first | exact h.elim | trivial

theorem pages_frame {α : Type} {p : Driver α} {R : α → Prop} (h : p.Within Op.OffPage R) :
    p.wp (PageStep earlier) (Op.KeepsPages stock earlier) w fun r w' => R r ∧ w.SamePages w' :=
  h.wp (I := fun w' => w.SamePages w') (fun _ w₁ a _ ho hs hI => hs.1.2 ▸ hI.trans (ho.samePages w₁ a))
    (fun _ _ ho _ => ho.keepsPages) (.refl w)

/-! ## Launches -/

/-- A launch may be given the page at `addr`. -/
def Launchable (stock : StockCode) (earlier : List (BitVec 64)) (addr : BitVec 64) (w : World) : Prop :=
  Op.KeepsPages stock earlier w (.launch .booterLoad addr)

/-- From `w` to `w'` at most one launch was made, and if it was made on the fresh page, this holds what it left. -/
structure LaunchedOn (addr : BitVec 64) (w w' : World) : Prop where
  canonical : w'.gsp.pWprMetaDescriptor = w.gsp.pWprMetaDescriptor
  fresh : ∀ content, w.gsp.pFreshMeta = some ⟨addr, content⟩ → leftInPage w.log = none →
    ∃ content', w'.gsp.pFreshMeta = some ⟨addr, content'⟩ ∧ ∀ m, leftInPage w'.log = some m → content' = m
  noFresh : w.gsp.pFreshMeta = none → w'.gsp.pFreshMeta = none

theorem Launchable.same {addr : BitVec 64} {w w' : World} (h : Launchable stock earlier addr w) (hs : w.SamePages w') :
    Launchable stock earlier addr w' := by
  simp only [Launchable, Op.KeepsPages, World.lastPage, stock.args_normal] at h ⊢
  rwa [hs.launches, hs.fresh, hs.canonical]

theorem LaunchedOn.after {addr : BitVec 64} {w w₁ w₂ : World} (hs : w.SamePages w₁) (h : LaunchedOn addr w₁ w₂) :
    LaunchedOn addr w w₂ :=
  ⟨h.canonical.trans hs.canonical, fun c hc hl => h.fresh c (hs.fresh.trans hc) (hs.left.trans hl),
    fun hn => h.noFresh (hs.fresh.trans hn)⟩

theorem LaunchedOn.before {addr : BitVec 64} {w w₁ w₂ : World} (h : LaunchedOn addr w w₁) (hs : w₁.SamePages w₂) :
    LaunchedOn addr w w₂ := by
  refine ⟨hs.canonical.trans h.canonical, fun c hc hl => ?_, fun hn => hs.fresh.trans (h.noFresh hn)⟩
  obtain ⟨c', hc', hm⟩ := h.fresh c hc hl
  exact ⟨c', hs.fresh.trans hc', fun m hm' => hm m (hs.left.symm.trans hm')⟩

theorem LaunchedOn.none {addr : BitVec 64} {w w' : World} (hs : w.SamePages w') : LaunchedOn addr w w' := by
  refine ⟨hs.canonical, fun c hc hl => ⟨c, hs.fresh.trans hc, fun m hm => ?_⟩, fun hn => hs.fresh.trans hn⟩
  exact absurd ((hs.left.trans hl).symm.trans hm) nofun

theorem launchedOn_launch {u : FlcnUcode} {addr : BitVec 64} {m : WprMeta} :
    LaunchedOn addr w (w.after (.launch u addr) m) := by
  refine ⟨rfl, fun c hc _ => ⟨m, ?_, fun m' hm' => Option.some.inj hm'⟩, fun hn => ?_⟩
  · simp [KernelGsp.step, KernelGsp.launched, hc]
  · simp [KernelGsp.step, KernelGsp.launched, hn]

/-- The program makes at most one launch, on the page at `addr`. -/
def LaunchesOn (stock : StockCode) (earlier : List (BitVec 64)) (addr : BitVec 64) {α : Type} (p : Driver α) : Prop :=
  ∀ w, Launchable stock earlier addr w →
    p.wp (PageStep earlier) (Op.KeepsPages stock earlier) w fun _ w' => LaunchedOn addr w w'

section
variable {addr : BitVec 64} {α β : Type} {p : Driver α}

theorem launchesOn_offPage (hp : p.Uses Op.OffPage) : LaunchesOn stock earlier addr p :=
  fun _ _ => (pages_frame hp).mono fun _ _ ⟨_, hs⟩ => .none hs

theorem launchesOn_before {f : α → Driver β} (hp : p.Uses Op.OffPage) (hf : ∀ a, LaunchesOn stock earlier addr (f a)) :
    LaunchesOn stock earlier addr (p >>= f) := by
  intro w h
  rw [Prog.wp_bind]
  refine (pages_frame hp).mono fun a w₁ ⟨_, hs⟩ => ?_
  exact (hf a w₁ (h.same hs)).mono fun b w₂ hl => hl.after hs

theorem LaunchesOn.finish {f : α → Driver β} (hp : LaunchesOn stock earlier addr p) (hf : ∀ a, (f a).Uses Op.OffPage) :
    LaunchesOn stock earlier addr (p >>= f) := by
  intro w h
  rw [Prog.wp_bind]
  refine (hp w h).mono fun a w₁ hl => ?_
  exact (pages_frame (hf a)).mono fun b w₂ ⟨_, hs⟩ => hl.before hs

theorem LaunchesOn.ite {c : Prop} [Decidable c] {q : Driver α} (hp : LaunchesOn stock earlier addr p)
    (hq : LaunchesOn stock earlier addr q) : LaunchesOn stock earlier addr (if c then p else q) := by
  split
  · exact hp
  · exact hq

theorem launchesOn_launch {u : FlcnUcode} : LaunchesOn stock earlier addr (launch u addr) := by
  intro w h
  rw [wp_launch_with]
  exact ⟨h, fun m _ => launchedOn_launch⟩

theorem hsFalcon_launches : LaunchesOn stock earlier addr (kgspExecuteHsFalcon pGpu .booterLoad addr) := by
  refine launchesOn_before (by simp) fun status => .ite (launchesOn_offPage trivial) ?_
  refine launchesOn_launch.finish fun m => ?_
  simp [isCmp50NativeBooterProbe, kgspCmp50GetExploitMode]

theorem executeBooterUcode_launches : LaunchesOn stock earlier addr (executeBooterUcode pGpu addr) :=
  hsFalcon_launches.finish fun status => by simp

theorem nativeBooterProbe_launches : LaunchesOn stock earlier addr (nativeBooterProbe pGpu addr) := by
  refine launchesOn_before (by simp) fun plm => launchesOn_before (by simp) fun reset => ?_
  refine .ite (launchesOn_offPage (by simp)) (launchesOn_before (by simp) fun status => ?_)
  refine .ite (launchesOn_offPage trivial) (launchesOn_before (by simp) fun _ => ?_)
  exact executeBooterUcode_launches.finish fun status => by simp [signedExactState]

theorem stockBooterLoad_launches : LaunchesOn stock earlier addr (stockBooterLoad pGpu addr) := by
  refine launchesOn_before (by simp) fun status => .ite (launchesOn_offPage trivial) ?_
  dsimp only
  refine .ite (launchesOn_before (by simp) fun _ =>
    launchesOn_before (by simp) fun _ => ?_) ?_
  all_goals
    refine executeBooterUcode_launches.finish fun status => ?_
    by_cases hcmp : isCmp50ComputeUnlock pGpu <;> simp [hcmp]

theorem booterLoad_launches : LaunchesOn stock earlier addr (kgspExecuteBooterLoad pGpu addr) := by
  refine launchesOn_before (by simp) fun status => .ite (launchesOn_offPage trivial) ?_
  refine launchesOn_before (by simp) fun _ => launchesOn_before ?_ fun exploit => ?_
  · simp [isCmp50NativeBooterProbe, kgspCmp50GetExploitMode]
  · exact .ite nativeBooterProbe_launches stockBooterLoad_launches

end

/-! ## The fresh page -/

/-- There is no fresh page, and the canonical page is the one at `d`. -/
def PageReleased (d : Option (BitVec 64)) (w : World) : Prop := w.gsp.pFreshMeta = none ∧ w.gsp.pWprMetaDescriptor = d

section
variable {d : Option (BitVec 64)}

theorem cleanupFreshMeta_pages {status : NvStatus} (hd : w.gsp.pWprMetaDescriptor = d)
    (hleft : ∀ m, leftInPage w.log = some m → w.gsp.pWprMeta = some m) :
    (cleanupFreshMeta status).wp (PageStep earlier) (Op.KeepsPages stock earlier) w fun _ => PageReleased d := by
  simp only [cleanupFreshMeta, Prog.wp_bind, wp_act_with, Prog.wp_pure]
  exact ⟨hleft, fun _ => ⟨trivial, fun _ => ⟨rfl, hd⟩⟩⟩

theorem launchFreshMeta_pages {wprMeta : WprMeta} {page : MetaPage} (hp : w.gsp.pFreshMeta = some page)
    (hlast : w.lastPage earlier ≠ some page.phys) (hleft : leftInPage w.log = none)
    (hd : w.gsp.pWprMetaDescriptor = d) :
    (launchFreshMeta pGpu wprMeta).wp (PageStep earlier) (Op.KeepsPages stock earlier) w fun _ => PageReleased d := by
  simp only [launchFreshMeta, Prog.wp_bind, wp_act_with, wp_print_with, wp_getGsp_with]
  refine ⟨trivial, fun _ => ⟨trivial, fun _ => ⟨trivial, fun _ => ⟨trivial, fun _ => ⟨trivial, fun _ => ?_⟩⟩⟩⟩⟩
  simp only [gsp_after, KernelGsp.step, KernelGsp.act, hp, Option.map_some, Option.getD_some]
  refine (booterLoad_launches _ ?_).mono fun status w₁ h₁ => ?_
  · exact ⟨hlast, .inl (by simp [KernelGsp.step, KernelGsp.act, hp])⟩
  · obtain ⟨content, hfresh, hm⟩ := h₁.fresh wprMeta (by simp [KernelGsp.step, KernelGsp.act, hp]) hleft
    have hd₁ : w₁.gsp.pWprMetaDescriptor = d := h₁.canonical.trans hd
    rw [wp_test_with]
    refine ⟨trivial, fun mapped hmapped => ?_⟩
    cases mapped with
    | false =>
        have hnone : leftInPage w₁.log = none := Option.not_isSome_iff_eq_none.1 fun h => by cases hmapped h
        exact cleanupFreshMeta_pages hd₁ fun m h => absurd (hnone.symm.trans h) (by simp)
    | true =>
        simp only [Bool.not_true, Bool.false_eq_true, if_false, Prog.wp_bind, wp_getGsp_with, gsp_after, KernelGsp.step,
          hfresh, wp_act_with]
        refine ⟨trivial, fun _ => ⟨trivial, fun _ => ⟨trivial, fun _ => ⟨trivial, fun _ => ?_⟩⟩⟩⟩
        exact cleanupFreshMeta_pages hd₁ fun m h => congrArg some (hm m h)

theorem freshMeta_pages (hnone : w.gsp.pFreshMeta = none) (hd : w.gsp.pWprMetaDescriptor = d) :
    (kgspCmp50ExecuteBooterFreshMeta pGpu).wp (PageStep earlier) (Op.KeepsPages stock earlier) w
      fun _ => PageReleased d := by
  simp only [kgspCmp50ExecuteBooterFreshMeta, Prog.wp_bind, wp_getGsp_with]
  refine ⟨trivial, fun _ => ?_⟩
  cases hm : w.gsp.pWprMeta with
  | none => exact ⟨hnone, hd⟩
  | some wprMeta =>
      cases hdesc : w.gsp.pWprMetaDescriptor with
      | none => exact ⟨hnone, hd⟩
      | some descriptor =>
          simp only [Prog.wp_bind, wp_hal_with, Prog.wp_ite, Prog.wp_pure, wp_tagAlloc_with, wp_test_with]
          refine ⟨trivial, fun status _ => ⟨fun hs => ?_, fun hs => ⟨trivial, ?_⟩⟩⟩
          · cases status <;> first | exact absurd rfl hs | exact ⟨hnone, hd⟩
          obtain rfl : status = .ok := not_not.1 hs
          rintro ⟨status, b⟩ hb
          refine ⟨fun hs => ?_, fun hs => ⟨trivial, fun mapped hmapped => ⟨fun _ => ?_, fun _ => ?_⟩⟩⟩
          · refine cleanupFreshMeta_pages ?_ fun _ h => by cases h
            cases status <;> first | exact absurd rfl hs | exact hd
          all_goals obtain rfl : status = .ok := not_not.1 hs
          · exact cleanupFreshMeta_pages hd fun _ h => by cases h
          · exact launchFreshMeta_pages rfl hb rfl hd

end

end

/-! ## What is given back -/

/-- Off the fresh page, or a launch. -/
def Op.OffHolding (o : Op) : Prop := o.OffPage ∨ ∃ u addr, o = .launch u addr

theorem Op.OffHolding.takes {e : Event} (h : e.1.OffHolding) {r : Resource} (hr : r.owner = some .freshMeta) :
    e.takes ≠ some r := by
  intro he
  unfold Event.takes at he
  split at he <;> cases he <;> cases hr <;> exact h.elim id nofun

theorem Op.OffHolding.releases {e : Event} (h : e.1.OffHolding) {r : Resource} (hr : r.owner = some .freshMeta) :
    e.releases ≠ some r := by
  intro he
  unfold Event.releases at he
  split at he <;> cases he <;> cases hr <;> exact h.elim id nofun

theorem Op.OffHolding.held_cons {e : Event} (h : e.1.OffHolding) {r : Resource} (hr : r.owner = some .freshMeta)
    (log : List Event) : held r (e :: log) = held r log := by
  simp only [held, h.takes hr, h.releases hr, if_false]

/-- What is held of a fresh page stays held. -/
theorem held_frame {α : Type} {p : Driver α} {R : α → Prop} (h : p.Within Op.OffHolding R) (w : World) :
    p.wp Step (fun _ _ => True) w fun a w' =>
      R a ∧ ∀ r : Resource, r.owner = some .freshMeta → held r w'.log = held r w.log :=
  h.wp (fun o _ a _ ho hs hI r hr => hs.2 ▸ (ho.held_cons (e := ⟨o, a⟩) hr _).trans (hI r hr)) (fun _ _ _ _ => trivial)
    fun _ _ => rfl

theorem booterLoad_offHolding {pGpu : ObjGpu} (addr : BitVec 64) :
    (kgspExecuteBooterLoad pGpu addr).Uses Op.OffHolding := by
  simp [kgspExecuteBooterLoad, isCmp50NativeBooterProbe, kgspCmp50GetExploitMode, nativeBooterProbe, stockBooterLoad,
    executeBooterUcode, kgspExecuteHsFalcon, signedExactState, Op.OffHolding]

/-- Of the fresh page the descriptor is held `n` times, the memory `k` times, and `l` mappings. -/
structure HoldsPage (n k l : Nat) (w : World) : Prop where
  memdesc : held (.memdesc .freshMeta) w.log = n
  memory : held (.memory .freshMeta) w.log = k
  mapping : held (.mapping .freshMeta) w.log = l

theorem givenBack_iff {w : World} : PageGivenBack w.log ↔ HoldsPage 0 0 0 w := by
  refine ⟨fun h => ⟨h _ rfl, h _ rfl, h _ rfl⟩, fun ⟨h₁, h₂, h₃⟩ r hr => ?_⟩
  cases r <;> cases hr <;> assumption

section
variable {pGpu : ObjGpu} {w : World} {n k l : Nat}

theorem HoldsPage.frame {α : Type} {p : Driver α} {R : α → Prop} (h : HoldsPage n k l w)
    (hp : p.Within Op.OffHolding R) :
    p.wp Step (fun _ _ => True) w fun a w' => R a ∧ HoldsPage n k l w' :=
  (held_frame hp w).mono fun _ _ ⟨hR, hw⟩ =>
    ⟨hR, (hw _ rfl).trans h.memdesc, (hw _ rfl).trans h.memory, (hw _ rfl).trans h.mapping⟩

theorem HoldsPage.off {o : Op} {a : o.Ans} (h : HoldsPage n k l w) (ho : o.OffPage) :
    HoldsPage n k l (w.after o a) := by
  have hcons {r : Resource} (hr : r.owner = some .freshMeta) : held r (⟨o, a⟩ :: w.log) = held r w.log :=
    Op.OffHolding.held_cons (.inl ho) hr w.log
  exact ⟨(hcons rfl).trans h.memdesc, (hcons rfl).trans h.memory, (hcons rfl).trans h.mapping⟩

theorem HoldsPage.put {m : WprMeta} (h : HoldsPage n k l w) :
    HoldsPage n k l (w.after (.act (.putFreshMeta m)) ()) := by
  cases h
  constructor <;> simpa [held, Event.takes, Event.releases]

theorem HoldsPage.mapped (h : HoldsPage n k l w) (b : Bool) :
    HoldsPage n k (l + b.toNat) (w.after (.test (.memdescMapInternal .freshMeta)) b) := by
  cases h
  cases b <;> constructor <;> simpa [held, Event.takes, Event.releases]

theorem HoldsPage.unmapped (h : HoldsPage n k l w) :
    HoldsPage n k (l - 1) (w.after (.act (.memdescUnmapInternal .freshMeta)) ()) := by
  cases h
  constructor <;> simp_all [held, Event.takes, Event.releases]

theorem HoldsPage.freed (h : HoldsPage n k l w) :
    HoldsPage n (k - 1) l (w.after (.act (.memdescFree .freshMeta)) ()) := by
  cases h
  constructor <;> simp_all [held, Event.takes, Event.releases]

theorem HoldsPage.destroyed (h : HoldsPage n k l w) :
    HoldsPage (n - 1) k l (w.after (.act (.memdescDestroy .freshMeta)) ()) := by
  cases h
  constructor <;> simp_all [held, Event.takes, Event.releases]

theorem HoldsPage.created (h : HoldsPage n k l w) (size : Nat) :
    HoldsPage (n + 1) k l (w.after (.hal (.memdescCreate .freshMeta size)) .ok) := by
  cases h
  constructor <;> simpa [held, Event.takes, Event.releases]

theorem HoldsPage.allocated (h : HoldsPage n k l w) (b : Backing) :
    HoldsPage n (k + 1) l (w.after (.tagAlloc .freshMeta) (.ok, b)) := by
  cases h
  constructor <;> simpa [held, Event.takes, Event.releases]

theorem HoldsPage.refused {a : NvStatus × Backing} (h : HoldsPage n k l w) (ha : a.1 ≠ .ok) :
    HoldsPage n k l (w.after (.tagAlloc .freshMeta) a) := by
  obtain ⟨status, b⟩ := a
  cases h
  cases status <;> first | exact absurd rfl ha | constructor <;> simpa [held, Event.takes, Event.releases]

theorem HoldsPage.notCreated {size : Nat} {a : NvStatus} (h : HoldsPage n k l w) (ha : a ≠ .ok) :
    HoldsPage n k l (w.after (.hal (.memdescCreate .freshMeta size)) a) := by
  cases h
  cases a <;> first | exact absurd rfl ha | constructor <;> simpa [held, Event.takes, Event.releases]

theorem cleanupFreshMeta_givesBack {status : NvStatus} (h : HoldsPage 1 k 0 w) (hk : k ≤ 1) :
    (cleanupFreshMeta status).wp Step (fun _ _ => True) w fun _ w' => PageGivenBack w'.log := by
  have hfree : HoldsPage 1 0 0 (w.after (.act (.memdescFree .freshMeta)) ()) := Nat.sub_eq_zero_of_le hk ▸ h.freed
  simp only [cleanupFreshMeta, Prog.wp_bind, wp_act, Prog.wp_pure, givenBack_iff]
  exact ⟨trivial, trivial, hfree.destroyed⟩

theorem launchFreshMeta_givesBack {wprMeta : WprMeta} (h : HoldsPage 1 1 1 w) :
    (launchFreshMeta pGpu wprMeta).wp Step (fun _ _ => True) w fun _ w' => PageGivenBack w'.log := by
  simp only [launchFreshMeta, Prog.wp_bind, wp_act, wp_print, wp_getGsp]
  refine ⟨trivial, trivial, trivial, trivial, trivial, ?_⟩
  have hbefore := ((h.put (m := wprMeta)).unmapped.off (o := .act (.memdescFlushCpuCaches .freshMeta))
    (a := ()) trivial)
  refine (((hbefore.off (by trivial)).off (by trivial)).frame (booterLoad_offHolding _)).mono ?_
  rintro status w₁ ⟨-, h₁⟩
  have hclean {w₂} (h₂ : HoldsPage 1 1 1 w₂) : (do
      act (.memdescUnmapInternal .freshMeta)
      act (.memdescFlushCpuCaches .wprMeta)
      cleanupFreshMeta status).wp Step (fun _ _ => True) w₂ fun _ w' => PageGivenBack w'.log := by
    simp only [Prog.wp_bind, wp_act]
    exact ⟨trivial, trivial, cleanupFreshMeta_givesBack (h₂.unmapped.off trivial) le_rfl⟩
  rw [wp_test]
  refine ⟨trivial, fun mapped => ?_⟩
  cases mapped with
  | false => exact cleanupFreshMeta_givesBack (h₁.mapped false) le_rfl
  | true =>
      simp only [Bool.not_true, Bool.false_eq_true, if_false]
      rw [Prog.wp_bind, wp_getGsp]
      refine ⟨trivial, ?_⟩
      split
      · rw [Prog.wp_bind, wp_act]
        exact ⟨trivial, hclean (((h₁.mapped true).off (by trivial)).off trivial)⟩
      · exact hclean ((h₁.mapped true).off trivial)

theorem freshMeta_givesBack (h : PageGivenBack w.log) :
    (kgspCmp50ExecuteBooterFreshMeta pGpu).wp Step (fun _ _ => True) w fun _ w' => PageGivenBack w'.log := by
  have h₁ : HoldsPage 0 0 0 (w.after .getGsp w.gsp) := (givenBack_iff.1 h).off trivial
  have hback {w' : World} (h' : HoldsPage 0 0 0 w') : PageGivenBack w'.log := givenBack_iff.2 h'
  simp only [kgspCmp50ExecuteBooterFreshMeta, Prog.wp_bind, wp_getGsp]
  refine ⟨trivial, ?_⟩
  split
  · simp only [Prog.wp_bind, wp_hal, Prog.wp_ite, Prog.wp_pure, wp_tagAlloc, wp_test]
    refine ⟨trivial, fun status => ⟨fun hs => hback (h₁.notCreated hs), fun hs => ⟨trivial, fun a => ?_⟩⟩⟩
    obtain rfl : status = .ok := not_not.1 hs
    have h₂ := h₁.created 0x1000
    refine ⟨fun ha => cleanupFreshMeta_givesBack (h₂.refused ha) (Nat.zero_le _), fun ha => ⟨trivial, fun mapped => ?_⟩⟩
    obtain ⟨status, b⟩ := a
    obtain rfl : status = .ok := not_not.1 ha
    have h₃ := (h₂.allocated b).mapped mapped
    refine ⟨fun hm => ?_, fun hm => ?_⟩
    · cases mapped with
      | false => exact cleanupFreshMeta_givesBack h₃ le_rfl
      | true => cases hm
    · cases mapped with
      | false => exact absurd rfl hm
      | true => exact launchFreshMeta_givesBack h₃
  · exact hback h₁

end

/-! ## The parts of the bootstrap -/

section
variable {pGpu : ObjGpu}

theorem offPage_of_aside {α : Type} {p : Driver α} (h : p.Uses (Op.Aside pGpu)) : p.Uses Op.OffPage :=
  h.mono (fun _ ho => ho.2) fun _ h => h

theorem retryRejoin_offPage (hcmp : isCmp50ComputeUnlock pGpu) (idx : Nat) :
    (retryRejoin pGpu idx).Uses Op.OffPage := by
  have hjoin : (joinStockBooter pGpu).Uses Op.OffPage := offPage_of_aside (joinStockBooter_aside hcmp)
  have hrebuild : kgspCmp50RebuildStockSignature.Uses Op.OffPage := offPage_of_aside (@rebuild_aside pGpu)
  have hready : (persistentReady idx).Uses Op.OffPage := by
    simp [persistentReady, wprNeStock, readGateWprFirst, hrebuild]
  have hlost : ∀ lo hi, (orElse (pure (!retryWprAccepted lo hi)) fullSpeedLost).Uses Op.OffPage := by
    simp [fullSpeedLost]
  simp only [retryRejoin, Prog.Uses, Prog.within_bind, Prog.within_ite, Prog.within_pure, within_rd, within_printRegs,
    within_getFlag]
  refine ⟨trivial, fun lo => ⟨trivial, fun hi => (hlost lo hi).within fun lost => ⟨fun _ => ?_, fun _ => ?_⟩⟩⟩
  · exact ⟨trivial, trivial, trivial⟩
  · refine ⟨trivial, fun ready => ⟨fun _ => hready.within fun r => ?_, fun _ => hjoin⟩⟩
    cases r with
    | some status => trivial
    | none => exact hjoin

end

/-- What the launches of a call keep: `I` between them, and `K` before a launch on the canonical page. -/
structure LaunchRule (stock : StockCode) (pGpu : ObjGpu) (step : (o : Op) → World → o.Ans → World → Prop)
    (G : World → Op → Prop) (I K : World → Prop) : Prop where
  refines : ∀ {o w a w'}, step o w a w' → Step o w a w'
  implies : ∀ {w}, K w → I w
  frame : ∀ {α : Type} {p : Driver α} {R : α → Prop} {w}, p.Within Op.OffPage R → I w →
    p.wp step G w fun r w' => R r ∧ I w'
  frame' : ∀ {α : Type} {p : Driver α} {R : α → Prop} {w}, p.Within Op.OffPage R → K w →
    p.wp step G w fun r w' => R r ∧ K w'
  fresh : ∀ {w}, I w → (kgspCmp50ExecuteBooterFreshMeta pGpu).wp step G w fun _ => I
  canonical : ∀ {w}, K w →
    (kgspExecuteBooterLoad pGpu (stock.kgspGetBooterLoadArgs w.gsp .normal)).wp step G w fun _ => I

section
variable {stock : StockCode} {pGpu : ObjGpu} {step : (o : Op) → World → o.Ans → World → Prop} {G : World → Op → Prop}
  {I K : World → Prop} {w : World} (hcmp : isCmp50ComputeUnlock pGpu) (h : LaunchRule stock pGpu step G I K)

/-- The part goes nowhere but to a launch on a fresh page. -/
def ToFresh (e : Exit Label NvStatus) : Prop := ∀ l, e = .goto l → l = .cmp50V525StockBooter false

include h

theorem LaunchRule.exploitBooter (hI : I w) : (exploitBooter pGpu).wp step G w fun _ => I := by
  have hset : ∀ b, (kgspCmp50SetExploitMode pGpu b).Uses Op.OffPage := fun b => by
    simp [kgspCmp50SetExploitMode]
  unfold Stockflow.exploitBooter
  rw [Prog.wp_bind]
  refine (h.frame (hset true) hI).mono fun _ w₁ hpost => ?_
  obtain ⟨_, h₁⟩ := hpost
  rw [Prog.wp_bind]
  refine (h.fresh h₁).mono fun status w₂ h₂ => ?_
  refine (h.frame (R := fun _ => True) ?_ h₂).mono fun _ _ h => h.2
  simp [kgspCmp50SetExploitMode, readGate]

theorem LaunchRule.commitTransaction (hI : I w) : (commitTransaction pGpu (cmp50StockflowGpuIndex pGpu)).wp step G w
    fun e w' => ToFresh e ∧ I w' := by
  unfold Stockflow.commitTransaction
  rw [Prog.wp_bind]
  refine (h.exploitBooter hI).mono fun r₁ w₁ h₁ => ?_
  cases r₁ with
  | some status => exact ⟨nofun, h₁⟩
  | none =>
      have hrestore := offPage_of_aside (@restoreStock_aside pGpu)
      rw [Prog.wp_bind]
      refine (h.frame hrestore h₁).mono fun r₂ w₂ ⟨_, h₂⟩ => ?_
      cases r₂ with
      | some status => exact ⟨nofun, h₂⟩
      | none =>
          refine h.frame ?_ h₂
          simp [refwsec, readGate, wprNeStock, riscvBootargs, rdNeStock, fullSpeedLost, ToFresh]

theorem LaunchRule.commitBlock (hI : I w) : (commitBlock pGpu (cmp50StockflowGpuIndex pGpu)).wp step G w
    fun e w' => ToFresh e ∧ I w' := by
  unfold Stockflow.commitBlock
  rw [Prog.wp_bind]
  refine (h.frame (R := fun _ => True) (by simp) hI).mono fun lo w₁ hpost => ?_
  obtain ⟨_, h₁⟩ := hpost
  rw [Prog.wp_bind]
  refine (h.frame (R := fun _ => True) (by simp) h₁).mono fun hi w₂ hpost => ?_
  obtain ⟨_, h₂⟩ := hpost
  rw [Prog.wp_bind]
  refine (h.frame (R := fun _ => True) (by simp) h₂).mono fun _ w₃ hpost => ?_
  obtain ⟨_, h₃⟩ := hpost
  split
  · exact h.frame (by simp [ToFresh]) h₃
  · rw [Prog.wp_bind]
    refine (h.frame (R := fun _ => True) (by simp [captureStockRange]) h₃).mono fun r w₄ hpost => ?_
    obtain ⟨_, h₄⟩ := hpost
    cases r with
    | some status => exact ⟨fun _ h => (by cases h), h₄⟩
    | none => exact h.commitTransaction h₄

include hcmp

theorem LaunchRule.scrubberAndFwsec {bootMode : BootMode} {idx : Nat} (hI : I w) :
    (scrubberAndFwsec stock pGpu bootMode idx).wp step G w fun e w' =>
      (∀ l, e = .goto l → l = .cmp50V274Commit ∨ l = .cmp50V525StockBooter false) ∧ I w' := by
  refine h.frame ?_ hI
  cases ha : stock.admitsFwsec bootMode <;>
    simp [Stockflow.scrubberAndFwsec, executeScrubberIfNeeded, fwsecBlock, executeFwsec, hcmp, ha]

/-- The assertions at the labels. -/
def PagesAt (pGpu : ObjGpu) (I K : World → Prop) : Label → World → Prop
  | .entry, w => I w ∧ (w.slots.flag .phaseCommitted (cmp50StockflowGpuIndex pGpu) = true → K w)
  | .cmp50V274Commit, w => I w
  | .cmp50V525StockBooter true, w => K w
  | .cmp50V525StockBooter false, w => I w

theorem LaunchRule.entryPart (hI : I w) (hK : w.slots.flag .phaseCommitted (cmp50StockflowGpuIndex pGpu) = true → K w) :
    (entryPart pGpu .normal).wp step G w (Goto.Post (PagesAt pGpu I K) fun _ => I) := by
  have hflag {b w₁} (he : (getFlag .phaseCommitted (cmp50StockflowGpuIndex pGpu)).Exec step w b w₁) :
      b = w.slots.flag .phaseCommitted (cmp50StockflowGpuIndex pGpu) := (h.refines (Prog.exec_lift.1 he)).1
  simp only [Stockflow.entryPart, hcmp, and_self, if_true, Prog.wp_bind]
  cases hc : w.slots.flag .phaseCommitted (cmp50StockflowGpuIndex pGpu) with
  | false =>
      refine (h.frame (R := fun _ => True) (by simp) hI).with_exec.mono fun b w₁ hpost => ?_
      obtain ⟨⟨_, h₁⟩, he⟩ := hpost
      rw [hflag he, hc]
      exact h₁
  | true =>
      refine (h.frame' (R := fun _ => True) (by simp) (hK hc)).with_exec.mono fun b w₁ hpost => ?_
      obtain ⟨⟨_, h₁⟩, he⟩ := hpost
      rw [hflag he, hc]
      simp only [if_true]
      refine (h.frame' (retryRejoin_offPage hcmp _) h₁).with_exec.mono fun e w₂ hpost => ?_
      obtain ⟨⟨_, h₂⟩, he⟩ := hpost
      cases e with
      | ret r => exact h.implies h₂
      | goto l =>
          obtain ⟨rejoin, rfl⟩ := (retryRejoin_toStock _ _).result he l rfl
          cases rejoin with
          | false => exact h.implies h₂
          | true => exact h₂

theorem LaunchRule.commitPart (hI : I w) :
    (commitPart stock pGpu .normal).wp step G w (Goto.Post (PagesAt pGpu I K) fun _ => I) := by
  have hscrub : ∀ w', I w' → (Stockflow.scrubberAndFwsec stock pGpu .normal (cmp50StockflowGpuIndex pGpu)).wp step G w'
      (Goto.Post (PagesAt pGpu I K) fun _ => I) := by
    intro w' h'
    refine (h.scrubberAndFwsec hcmp h').mono fun e w₁ hpost => ?_
    obtain ⟨hl, h₁⟩ := hpost
    cases e with
    | ret r => exact h₁
    | goto l => rcases hl l rfl with rfl | rfl <;> exact h₁
  simp only [Stockflow.commitPart, hcmp, and_self, if_true, Prog.wp_bind]
  refine (h.frame (R := fun _ => True) (by simp) hI).mono fun ready w₁ hpost => ?_
  obtain ⟨_, h₁⟩ := hpost
  cases ready with
  | false => exact hscrub w₁ h₁
  | true =>
      simp only [if_true]
      refine (h.commitBlock h₁).mono fun e w₂ hpost => ?_
      obtain ⟨hl, h₂⟩ := hpost
      cases e with
      | ret r => exact h₂
      | goto l =>
          obtain rfl := hl l rfl
          exact h₂

theorem LaunchRule.executeStockBooter {rejoin : Bool} (hl : PagesAt pGpu I K (.cmp50V525StockBooter rejoin) w) :
    (executeStockBooter stock pGpu .normal rejoin).wp step G w fun _ => I := by
  cases rejoin with
  | false =>
      simp only [Stockflow.executeStockBooter, hcmp, Bool.not_false, and_self, if_true]
      exact h.fresh hl
  | true =>
      have hg {g w₁} (he : getGsp.Exec step w g w₁) : g = w₁.gsp := by
        have hs := h.refines (Prog.exec_lift.1 he)
        rw [hs.1, hs.2]
        rfl
      simp only [Stockflow.executeStockBooter, Bool.not_true, Bool.false_eq_true, and_false, if_false, Prog.wp_bind]
      refine (h.frame' (R := fun _ => True) (by simp) hl).with_exec.mono fun g w₁ ⟨⟨_, h₁⟩, he⟩ => ?_
      rw [hg he]
      exact h.canonical h₁

theorem LaunchRule.stockBooterPart {rejoin : Bool} (hl : PagesAt pGpu I K (.cmp50V525StockBooter rejoin) w) :
    (stockBooterPart stock pGpu .normal rejoin).wp step G w (Goto.Post (PagesAt pGpu I K) fun _ => I) := by
  have hcheck : checkStockBooter.Uses Op.OffPage := offPage_of_aside (@checkStockBooter_aside pGpu)
  have hfinish : (finishBoot pGpu (cmp50StockflowGpuIndex pGpu)).Uses Op.OffPage := offPage_of_aside finishBoot_aside
  unfold Stockflow.stockBooterPart
  rw [Prog.wp_bind]
  refine (h.executeStockBooter hcmp hl).mono fun status w₁ h₁ => ?_
  refine (h.frame (R := fun e => ∃ r, e = .ret r) ?_ h₁).mono fun e w₂ he => ?_
  · simp only [Prog.within_ite, Prog.within_bind, Prog.within_pure, within_print]
    refine ⟨fun _ => ⟨trivial, _, rfl⟩, fun _ => ⟨fun _ => hcheck.within fun r => ?_, fun _ => ?_⟩⟩
    · cases r with
      | some status => exact ⟨_, rfl⟩
      | none => exact Prog.within_bind.2 (hfinish.within fun r => ⟨r, rfl⟩)
    · exact hfinish.within fun r => ⟨r, rfl⟩
  · obtain ⟨⟨r, rfl⟩, h₂⟩ := he
    exact h₂

theorem LaunchRule.bootstrap (l : Label) (w : World) (hl : PagesAt pGpu I K l w) :
    (kgspBootstrap stock pGpu .normal l).wp step G w (Goto.Post (PagesAt pGpu I K) fun _ => I) := by
  cases l with
  | entry => exact h.entryPart hcmp hl.1 hl.2
  | cmp50V274Commit => exact h.commitPart hcmp hl
  | cmp50V525StockBooter rejoin => exact h.stockBooterPart hcmp hl

end

/-! ## The rules of the pages -/

section
variable {stock : StockCode} {pGpu : ObjGpu} {earlier : List (BitVec 64)} {d : Option (BitVec 64)}

/-- There is no fresh page, and the launch before was not on the canonical page at `d`. -/
def CanonicalUnused (earlier : List (BitVec 64)) (d : Option (BitVec 64)) (w : World) : Prop :=
  PageReleased d w ∧ w.lastPage earlier ≠ some (d.getD 0)

theorem World.SamePages.released {w w' : World} (hs : w.SamePages w') (h : PageReleased d w) : PageReleased d w' :=
  ⟨hs.fresh.trans h.1, hs.canonical.trans h.2⟩

/-- The launches are given fresh pages. -/
theorem pages_rule : LaunchRule stock pGpu (PageStep earlier) (Op.KeepsPages stock earlier) (PageReleased d)
    (CanonicalUnused earlier d) where
  refines hs := hs.1
  implies h := h.1
  frame hp h := (pages_frame hp).mono fun _ _ ⟨hR, hs⟩ => ⟨hR, hs.released h⟩
  frame' hp h := (pages_frame hp).mono fun _ _ ⟨hR, hs⟩ =>
    ⟨hR, hs.released h.1, by rw [World.lastPage, hs.launches]; exact h.2⟩
  fresh h := freshMeta_pages h.1 h.2
  canonical := by
    rintro w ⟨⟨hfresh, hd⟩, hlast⟩
    refine (booterLoad_launches w ⟨?_, .inr ⟨hfresh, rfl⟩⟩).mono fun _ w' hl =>
      ⟨hl.noFresh hfresh, hl.canonical.trans hd⟩
    rwa [stock.args_normal, hd]

/-- Whatever the answers are, nothing of a fresh page stays held. -/
theorem givenBack_rule : LaunchRule stock pGpu Step (fun _ _ => True) (fun w => PageGivenBack w.log)
    (fun w => PageGivenBack w.log) where
  refines := id
  implies := id
  frame hp h := ((givenBack_iff.1 h).frame (hp.mono (fun _ => .inl) fun _ => id)).mono fun _ _ ⟨hR, h'⟩ =>
    ⟨hR, givenBack_iff.2 h'⟩
  frame' hp h := ((givenBack_iff.1 h).frame (hp.mono (fun _ => .inl) fun _ => id)).mono fun _ _ ⟨hR, h'⟩ =>
    ⟨hR, givenBack_iff.2 h'⟩
  fresh := freshMeta_givesBack
  canonical h := ((givenBack_iff.1 h).frame (booterLoad_offHolding _)).mono fun _ _ ⟨_, h'⟩ => givenBack_iff.2 h'

theorem Returns.givesBack (hcmp : isCmp50ComputeUnlock pGpu) {s : Slots} {g : KernelGsp} {r : NvStatus} {w : World}
    (hr : Returns stock pGpu .normal s g r w) : PageGivenBack w.log := by
  have hstart : PageGivenBack (startWorld s g).log := fun _ _ => rfl
  have hentry : PagesAt pGpu (fun w => PageGivenBack w.log) (fun w => PageGivenBack w.log) .entry (startWorld s g) :=
    ⟨hstart, fun _ => hstart⟩
  exact Goto.call_of_wp (givenBack_rule.bootstrap hcmp) hentry hr

theorem Op.KeepsPages.launchesCanonical {o : Op} {w : World} (h : o.KeepsPages stock earlier w) :
    o.LaunchesCanonical w := by
  cases o with
  | launch u addr =>
      intro hfresh hd m
      obtain ⟨-, hp | ⟨-, haddr⟩⟩ := h
      · rw [hfresh] at hp
        cases hp
      · obtain ⟨d, hd⟩ := Option.isSome_iff_exists.1 hd
        rw [stock.args_normal, hd, Option.getD_some] at haddr
        simp [KernelGsp.step, KernelGsp.launched, hd, haddr]
  | _ => trivial

/-- The addresses of the launches stay a chain. -/
theorem chain_after {o : Op} {w : World} {a : o.Ans} (ho : o.KeepsPages stock earlier w)
    (h : (launchAddrs w.log ++ earlier).IsChain (· ≠ ·)) :
    (launchAddrs (w.after o a).log ++ earlier).IsChain (· ≠ ·) := by
  cases o with
  | launch u addr => exact h.cons fun last hlast heq => ho.1 (heq ▸ hlast)
  | _ => exact h

section
variable (hcmp : isCmp50ComputeUnlock pGpu) {s : Slots} {g : KernelGsp} (hg : StartsAfter stock pGpu earlier s g)

include hg

theorem StartsAfter.pagesAt :
    PagesAt pGpu (PageReleased g.pWprMetaDescriptor) (CanonicalUnused earlier g.pWprMetaDescriptor) .entry
      (startWorld s g) :=
  ⟨⟨hg.noFresh, rfl⟩, fun hc => ⟨⟨hg.noFresh, rfl⟩, stock.args_normal g ▸ hg.rejoin hc⟩⟩

include hcmp

/-- Every operation of an attempt keeps the pages. -/
theorem StartsAfter.keepsPages {o : Op} {w : World}
    (hi : Goto.Issues (PageStep earlier) (kgspBootstrap stock pGpu .normal) .entry (startWorld s g) o w) :
    o.KeepsPages stock earlier w :=
  Goto.issues_of_wp (pages_rule.bootstrap hcmp) hg.pagesAt hi

theorem StartsAfter.chain {r : NvStatus} {w : World} (h : earlier.IsChain (· ≠ ·))
    (hc : Goto.Call (PageStep earlier) (kgspBootstrap stock pGpu .normal) .entry (startWorld s g) r w) :
    (launchAddrs w.log ++ earlier).IsChain (· ≠ ·) := by
  let I (w : World) : Prop := (launchAddrs w.log ++ earlier).IsChain (· ≠ ·)
  have hstep : ∀ o v a v', o.KeepsPages stock earlier v → PageStep earlier o v a v' → I v → I v' := by
    intro o v a v' ho hs hI
    exact hs.1.2 ▸ chain_after ho hI
  exact Goto.call_inv (I := I) (pages_rule.bootstrap hcmp) (fun o v a v' => hstep o v a v') hg.pagesAt h hc

end

theorem BoardRun.chain (hcmp : isCmp50ComputeUnlock pGpu) {s : Slots} (h : BoardRun stock pGpu s earlier) :
    earlier.IsChain (· ≠ ·) := by
  induction h with
  | loaded => exact .nil
  | boot _ hg hc ih => exact hg.chain hcmp ih hc

end

end Cmp50Unlock.Stockflow
