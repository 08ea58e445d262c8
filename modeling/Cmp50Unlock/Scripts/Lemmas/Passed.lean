import Cmp50Unlock.Scripts.Passed

/-!
# A second pass, part by part
-/

namespace Cmp50Unlock.Scripts

open Lib
open Lib.Script (Traces traces_pure traces_throw traces_attempt traces_sh traces_ite traces_forM)
open Shell (die orDie)

variable {devices : List String} {l l' : List PassEvent} {bdf path : String} {S : PassOp → Bool}

/-! ## More events -/

theorem SupportedCard.sub (h : SupportedCard l bdf) (hsub : l ⊆ l') : SupportedCard l' bdf := by
  obtain ⟨hreset, subvendor, subdevice, hvendor, hdevice, hmem⟩ := h
  exact ⟨hreset.sub hsub, subvendor, subdevice, hvendor.sub hsub, hdevice.sub hsub, hmem⟩

theorem OwnDevice.sub (h : OwnDevice l path) (hsub : l ⊆ l') : OwnDevice l' path := by
  rcases h with hlink | ⟨vendor, device, hvendor, hdevice, heq⟩
  · exact .inl (hlink.sub hsub)
  · exact .inr ⟨vendor, device, hvendor.sub hsub, hdevice.sub hsub, heq⟩

theorem FirstPass.sub (h : FirstPass devices l) (hsub : l ⊆ l') : FirstPass devices l' where
  root := h.root.sub hsub
  kernel := h.kernel.sub hsub
  lock := h.lock.sub hsub
  listed := h.listed.sub hsub
  some := h.some
  supported := fun bdf hbdf => (h.supported bdf hbdf).sub hsub
  initialized := h.initialized.sub hsub

theorem Needed.sub (h : Needed devices l) (hsub : l ⊆ l') : Needed devices l' where
  behind := by
    obtain ⟨bdf, hbdf, hspeed⟩ := h.behind
    exact ⟨bdf, hbdf, hspeed.sub hsub⟩
  exclusive := by
    obtain ⟨paths, hlisted, hown⟩ := h.exclusive
    exact ⟨paths, hlisted.sub hsub, fun path hpath => (hown path hpath).sub hsub⟩
  idle := h.idle.sub hsub
  unmasked := fun unit => (h.unmasked unit).sub hsub

theorem UdevStopped.sub (h : UdevStopped l) (hsub : l ⊆ l') : UdevStopped l' := ⟨h.masked.sub hsub, h.stopped.sub hsub⟩

theorem Unbound.sub (h : Unbound l bdf) (hsub : l ⊆ l') : Unbound l' bdf := by
  rcases h with hnone | hunbound
  · exact .inl (hnone.sub hsub)
  · exact .inr (hunbound.sub hsub)

theorem CameBack.sub (h : CameBack l bdf) (hsub : l ⊆ l') : CameBack l' bdf := ⟨h.1.sub hsub, h.2.sub hsub⟩

theorem ResetsOf.append (hl : ResetsOf devices l) (hl' : ResetsOf devices l') : ResetsOf devices (l' ++ l) := by
  intro event hmem
  rcases List.mem_append.mp hmem with hmem | hmem
  · exact hl' event hmem
  · exact hl event hmem

/-- After some resets, the next card may be reset. -/
theorem ResetReady.resets (h : ResetReady devices l) (hl' : ResetsOf devices l') : ResetReady devices (l' ++ l) where
  first := h.first.sub (List.subset_append_right l' l)
  needed := h.needed.sub (List.subset_append_right l' l)
  udev := h.udev.sub (List.subset_append_right l' l)
  unbound := fun bdf hbdf => (h.unbound bdf hbdf).sub (List.subset_append_right l' l)
  unloaded := by
    obtain ⟨resets, d, before, rfl, hsignal, hstatus, hresets⟩ := h.unloaded
    exact ⟨l' ++ resets, d, before, by rw [List.append_assoc], hsignal, hstatus, hresets.append hl'⟩

/-! ## The checks -/

/-- A command of neither udev nor the second pass. -/
abbrev harmless (o : PassOp) : Bool := !o.reinitializes

theorem speaks_harmless : Speaks harmless := fun _ => rfl

theorem checkHost_learns : Learns harmless checkHost fun _ l => Answered l .testRoot (fun d => d.status = 0) ∧
    Answered l .uname (fun d => d.out ∈ secondPassKernels) ∧ Answered l .flock fun d => d.status = 0 := by
  refine (learns_sh rfl).bind fun _ _ _ => (learns_attempt rfl).bind fun root l₁ hroot => ?_
  refine (learns_orDie speaks_harmless).bind fun _ l₂ hstatus => (learns_attempt rfl).bind fun release l₃ hrelease => ?_
  refine (learns_orDie speaks_harmless).bind fun _ l₄ hkernel => ?_
  have htool : ∀ tool ∈ requiredTools, Learns harmless (do
      let found ← attempt (.commandV tool.1)
      orDie (found.status == 0) tool.2) fun _ _ => True := fun tool _ =>
    (learns_test rfl speaks_harmless).mono fun _ _ _ => trivial
  refine (learns_forM htool fun _ _ _ _ _ => trivial).bind fun _ l₅ _ => (learns_sh rfl).bind fun _ l₆ _ => ?_
  refine (learns_test rfl speaks_harmless).mono ?_
  intro _ l₇ hlock
  refine ⟨?_, ?_, (hlock.mono fun d hd => beq_iff_eq.mp hd).sub fun _ hmem => by simp [hmem]⟩
  · refine (hroot.mono ?_).sub fun _ hmem => by simp [hmem]
    rintro _ rfl
    exact beq_iff_eq.mp hstatus
  · refine (hrelease.mono ?_).sub fun _ hmem => by simp [hmem]
    rintro _ rfl
    exact List.contains_iff_mem.mp hkernel

theorem checkDevice_learns (bdf : String) : Learns harmless (checkDevice bdf) fun _ l => SupportedCard l bdf := by
  refine (learns_attempt rfl).bind fun writable l₁ hreset => (learns_orDie speaks_harmless).bind fun _ l₂ hstatus => ?_
  refine (learns_sh rfl).bind fun subvendor l₃ hvendor => (learns_sh rfl).bind fun subdevice l₄ hdevice => ?_
  refine (learns_orDie speaks_harmless).mono fun _ l₅ hmem => ⟨?_, subvendor, subdevice, ?_, ?_, ?_⟩
  · refine (hreset.mono ?_).sub fun _ hmem => by simp [hmem]
    rintro _ rfl
    exact beq_iff_eq.mp hstatus
  · exact hvendor.sub fun _ hmem => by simp [hmem]
  · exact hdevice.sub fun _ hmem => by simp [hmem]
  · exact List.contains_iff_mem.mp hmem

theorem initializeGpus_learns (expectedCount : Nat) (message : String) :
    Learns harmless (initializeGpus expectedCount message) fun _ l =>
      Answered l .countGpus fun d => d.out = expectedCount := by
  have hwait : ∀ n, Learns harmless (Script.repeatUntil (do
      let count ← attempt .countGpus
      if count.out = expectedCount then
        return true
      else
        sh .sleep
        return false) n) fun _ _ => True := by
    intro n
    induction n with
    | zero => exact learns_pure trivial
    | succ n ih =>
        refine Learns.bind (Q := fun _ _ => True) ?_ fun turn _ _ => ?_
        · refine (learns_attempt rfl).bind fun count _ _ => learns_ite (fun _ => learns_pure trivial) fun _ => ?_
          exact (learns_sh rfl).bind fun _ _ _ => learns_pure trivial
        · exact learns_ite (fun _ => learns_pure trivial) fun _ => ih
  refine (learns_sh rfl).bind fun _ _ _ => (learns_sh rfl).bind fun _ _ _ => (hwait 60).bind fun _ _ _ => ?_
  exact (learns_test rfl speaks_harmless).mono fun _ l h => (h.mono fun d hd => beq_iff_eq.mp hd).sub
    fun _ hmem => by simp [hmem]

/-- All links are at Gen2, or one is behind. -/
def SpeedsRead (devices : List String) (all : Bool) (l : List PassEvent) : Prop :=
  (all = true → ∀ bdf ∈ devices, AtGen2 l bdf) ∧
    (all = false → ∃ bdf ∈ devices, Answered l (.readSpeed bdf) fun d => d.status = 0 ∧ d.out ≠ gen2Speed)

theorem allGen2_learns (devices : List String) : Learns harmless (allGen2 devices) (SpeedsRead devices) := by
  have hloop : ∀ (devices : List String) (all₀ : Bool), Learns harmless (devices.foldlM (fun all bdf => do
      let speed ← sh (.readSpeed bdf)
      return all && speed == gen2Speed) all₀) fun all l =>
        (all = true → all₀ = true ∧ ∀ bdf ∈ devices, AtGen2 l bdf) ∧
        (all = false → all₀ = false ∨
          ∃ bdf ∈ devices, Answered l (.readSpeed bdf) fun d => d.status = 0 ∧ d.out ≠ gen2Speed) := by
    intro devices
    induction devices with
    | nil =>
        intro all₀
        exact learns_pure ⟨fun hall => ⟨hall, fun _ hmem => absurd hmem List.not_mem_nil⟩, .inl⟩
    | cons bdf devices ih =>
        intro all₀
        rw [List.foldlM_cons]
        refine Learns.bind (Q := fun all l => ∃ speed, all = (all₀ && speed == gen2Speed) ∧
          Answered l (.readSpeed bdf) fun d => d.status = 0 ∧ d.out = speed) ?_ fun all l hall => ?_
        · refine (learns_sh rfl).bind fun speed l hspeed => learns_pure ⟨speed, rfl, hspeed.earlier⟩
        · obtain ⟨speed, rfl, hspeed⟩ := hall
          refine (ih _).mono fun all' l' hall' => ⟨fun htrue => ?_, fun hfalse => ?_⟩
          · obtain ⟨hboth, hrest⟩ := hall'.1 htrue
            rw [Bool.and_eq_true, beq_iff_eq] at hboth
            refine ⟨hboth.1, List.forall_mem_cons.mpr ⟨?_, fun bdf' hbdf' => (hrest bdf' hbdf').later⟩⟩
            exact (hspeed.mono fun d hd => ⟨hd.1, hd.2.trans hboth.2⟩).earlier
          · rcases hall'.2 hfalse with hboth | ⟨bdf', hbdf', hbehind⟩
            · rw [Bool.and_eq_false_iff, beq_eq_false_iff_ne] at hboth
              rcases hboth with hold | hne
              · exact .inl hold
              · exact .inr ⟨bdf, .head _, (hspeed.mono fun d hd => ⟨hd.1, hd.2 ▸ hne⟩).earlier⟩
            · exact .inr ⟨bdf', .tail _ hbdf', hbehind.later⟩
  refine (hloop devices true).mono fun all l hall => ⟨fun htrue => (hall.1 htrue).2, fun hfalse => ?_⟩
  exact (hall.2 hfalse).resolve_left (by simp)

/-- What the log of the first pass says of its end. -/
def Bar1Read (devices : List String) (l : List PassEvent) : Prop :=
  Answered l .readBar1Totals fun d => d.status = 0 ∧ d.out.length = devices.length ∧
    ∀ total ∈ d.out, largeEnough total = true

theorem firstPassDone_traces (devices : List String) : Traces (firstPassDone devices.length) (fun _ _ => False)
    fun n l => Only harmless l ∧ (n = 0 → Bar1Read devices l) := by
  have hfails : ∀ (n : Nat) (l : List PassEvent), n ≠ 0 → Only harmless l →
      Only harmless l ∧ (n = 0 → Bar1Read devices l) := fun n l hn hl => ⟨hl, fun hzero => absurd hzero hn⟩
  refine (learns_sh rfl).andThen (fun totals l₁ htotals h₁ => ?_) hfails
  refine (learns_orDie speaks_harmless).andThen (fun _ l₂ hlength h₂ => ?_)
    fun n l hn hl => hfails n _ hn (h₁.append hl)
  have hlarge : Learns harmless (totals.forM fun total =>
      orDie (largeEnough total) ("unexpected BAR1 total: " ++ total.text ++ " MiB")) fun _ _ =>
        ∀ total ∈ totals, largeEnough total = true :=
    learns_forM (fun _ _ => learns_orDie speaks_harmless) fun _ _ _ hlarge _ => hlarge
  have hlog : Learns harmless (log ("PASS: " ++ toString devices.length ++ " GPUs reached PCIe Gen2 on the first pass"))
      fun _ _ => True := (learns_sh rfl).mono fun _ _ _ => trivial
  refine hlarge.andThen (fun _ l₃ hall h₃ => ?_) fun n l hn hl => hfails n _ hn (h₁.append (h₂.append hl))
  refine hlog.andThen (fun _ l₄ _ h₄ => traces_throw ⟨?_, fun _ => ?_⟩)
    fun n l hn hl => hfails n _ hn (h₁.append (h₂.append (h₃.append hl)))
  · exact h₁.append (h₂.append (h₃.append h₄))
  · refine (htotals.mono ?_).sub fun _ hmem => by simp [hmem]
    rintro d ⟨hstatus, rfl⟩
    exact ⟨hstatus, beq_iff_eq.mp hlength, hall⟩

theorem checkDriverDevice_learns (path : String) :
    Learns harmless (checkDriverDevice path) fun _ l => OwnDevice l path := by
  refine (learns_attempt rfl).bind fun isLink l₁ hlink => learns_ite (fun hnone => ?_) fun _ => ?_
  · refine learns_pure (.inl ((hlink.mono ?_).sub fun _ hmem => by simp [hmem]))
    rintro _ rfl
    exact hnone
  · refine (learns_sh rfl).bind fun vendor l₂ hvendor => (learns_sh rfl).bind fun device l₃ hdevice => ?_
    refine (learns_orDie speaks_harmless).mono fun _ l₄ heq => .inr ⟨vendor, device, ?_, ?_, beq_iff_eq.mp heq⟩
    · exact hvendor.sub fun _ hmem => by simp [hmem]
    · exact hdevice.sub fun _ hmem => by simp [hmem]

theorem checkUnit_learns (unit : UdevUnit) : Learns harmless (checkUnit unit) fun _ l =>
    Answered l (.isEnabled unit) fun d => d.out ≠ "masked" ∧ d.out ≠ "masked-runtime" :=
  (learns_test rfl speaks_harmless).mono fun _ _ h => h.mono fun d hd => by simpa using hd

/-- Nobody else uses the driver, and udev is not masked. -/
structure Undisturbed (l : List PassEvent) : Prop where
  exclusive : ∃ paths, Answered l .listDriverDevices (fun d => d.out = paths) ∧ ∀ path ∈ paths, OwnDevice l path
  idle : Answered l .fuser fun d => d.status ≠ 0
  unmasked : ∀ unit, Answered l (.isEnabled unit) fun d => d.out ≠ "masked" ∧ d.out ≠ "masked-runtime"

theorem checkUsers_learns : Learns harmless checkUsers fun _ => Undisturbed := by
  refine (learns_attempt rfl).bind fun paths l₁ hpaths => ?_
  have hown : Learns harmless (paths.out.forM checkDriverDevice) fun _ l => ∀ path ∈ paths.out, OwnDevice l path :=
    learns_forM (fun path _ => checkDriverDevice_learns path) fun _ _ _ => OwnDevice.sub
  refine hown.bind fun _ l₂ hall => (learns_sh rfl).bind fun _ l₃ _ => (learns_sh rfl).bind fun _ l₄ _ => ?_
  refine (learns_attempt rfl).bind fun used l₅ hused => (learns_orDie speaks_harmless).bind fun _ l₆ hidle => ?_
  have hunits : Learns harmless ([UdevUnit.service, .controlSocket, .kernelSocket].forM checkUnit) fun _ l =>
      ∀ unit ∈ [UdevUnit.service, .controlSocket, .kernelSocket],
        Answered l (.isEnabled unit) fun d => d.out ≠ "masked" ∧ d.out ≠ "masked-runtime" :=
    learns_forM (fun unit _ => checkUnit_learns unit) fun _ _ _ => Answered.sub
  refine hunits.mono fun _ l₇ hunits' => ⟨⟨paths.out, ?_, fun path hpath => ?_⟩, ?_, fun unit => ?_⟩
  · refine (hpaths.mono ?_).sub fun _ hmem => by simp [hmem]
    rintro _ rfl
    rfl
  · exact (hall path hpath).sub fun _ hmem => by simp [hmem]
  · refine (hused.mono ?_).sub fun _ hmem => by simp [hmem]
    rintro _ rfl
    simpa using hidle
  · exact (hunits' unit (by cases unit <;> simp)).sub fun _ hmem => by simp [hmem]

/-- The first pass, up to the speeds. -/
theorem firstPass_learns : Learns harmless (do
    checkHost
    let devices ← sh .listDevices
    orDie (decide (0 < devices.length)) "no CMP 50HX devices found"
    devices.forM checkDevice
    initializeGpus devices.length "first pass did not initialize all GPUs"
    return devices) FirstPass := by
  refine checkHost_learns.bind fun _ l₁ hhost => (learns_sh rfl).bind fun devices l₂ hlisted => ?_
  refine (learns_orDie speaks_harmless).bind fun _ l₃ hsome => ?_
  have hcards : Learns harmless (devices.forM checkDevice) fun _ l => ∀ bdf ∈ devices, SupportedCard l bdf :=
    learns_forM (fun bdf _ => checkDevice_learns bdf) fun _ _ _ => SupportedCard.sub
  refine hcards.bind fun _ l₄ hsupported => (initializeGpus_learns _ _).bind fun _ l₅ hcount => learns_pure ?_
  exact {
    root := hhost.1.sub fun _ hmem => by simp [hmem]
    kernel := hhost.2.1.sub fun _ hmem => by simp [hmem]
    lock := hhost.2.2.sub fun _ hmem => by simp [hmem]
    listed := hlisted.sub fun _ hmem => by simp [hmem]
    some := List.ne_nil_of_length_pos (of_decide_eq_true hsome)
    supported := fun bdf hbdf => (hsupported bdf hbdf).sub fun _ hmem => by simp [hmem]
    initialized := hcount.sub fun _ hmem => by simp [hmem] }

/-- Before udev is touched. -/
theorem prepare_traces : Traces prepare (fun devices l => (FirstPass devices l ∧ Needed devices l) ∧ Only harmless l)
    fun n l => Only harmless l ∧ (n = 0 → ∃ devices, FirstPassEnough devices l) := by
  have hfails : ∀ (n : Nat) (l : List PassEvent), n ≠ 0 → Only harmless l →
      Only harmless l ∧ (n = 0 → ∃ devices, FirstPassEnough devices l) :=
      fun n l hn hl => ⟨hl, fun hzero => absurd hzero hn⟩
  have hsplit : prepare = (do
      checkHost
      let devices ← sh .listDevices
      orDie (decide (0 < devices.length)) "no CMP 50HX devices found"
      devices.forM checkDevice
      initializeGpus devices.length "first pass did not initialize all GPUs"
      return devices) >>= fun devices => (do
        if ← allGen2 devices then
          firstPassDone devices.length
        checkUsers
        return devices) := by
    simp only [prepare, bind_assoc, pure_bind]
  rw [hsplit]
  refine firstPass_learns.andThen (fun devices l₁ hfirst h₁ => ?_) hfails
  refine (allGen2_learns devices).andThen (fun all l₂ hspeeds h₂ => ?_) fun n l hn hl => hfails n _ hn (h₁.append hl)
  refine traces_ite (fun hall => ?_) fun hall => ?_
  · refine (firstPassDone_traces devices).bind (fun _ _ hnever => hnever.elim) fun n l hl => ?_
    refine ⟨h₁.append (h₂.append hl.1), fun hzero => ⟨devices, ?_, fun bdf hbdf => ?_, ?_, ?_⟩⟩
    · exact hfirst.sub fun _ hmem => by simp [hmem]
    · exact (hspeeds.1 hall bdf hbdf).sub fun _ hmem => by simp [hmem]
    · exact (hl.2 hzero).sub fun _ hmem => by simp [hmem]
    · exact h₁.append (h₂.append hl.1)
  · refine checkUsers_learns.andThen (fun _ l₃ hundisturbed h₃ => traces_pure ⟨⟨?_, ?_⟩, ?_⟩)
      fun n l hn hl => hfails n _ hn (h₁.append (h₂.append hl))
    · exact hfirst.sub fun _ hmem => by simp [hmem]
    · obtain ⟨bdf, hbdf, hbehind⟩ := hspeeds.2 (Bool.eq_false_iff.mpr hall)
      obtain ⟨paths, hpaths, hown⟩ := hundisturbed.exclusive
      refine ⟨⟨bdf, hbdf, hbehind.sub fun _ hmem => by simp [hmem]⟩, ⟨paths, ?_, fun path hpath => ?_⟩, ?_,
        fun unit => ?_⟩
      · exact hpaths.sub fun _ hmem => by simp [hmem]
      · exact (hown path hpath).sub fun _ hmem => by simp [hmem]
      · exact hundisturbed.idle.sub fun _ hmem => by simp [hmem]
      · exact (hundisturbed.unmasked unit).sub fun _ hmem => by simp [hmem]
    · exact h₁.append (h₂.append h₃)

/-! ## The second pass -/

/-- A command that resets no card. -/
def PassOp.spares : PassOp → Bool
  | .reset _ => false
  | _ => true

theorem speaks_spares : Speaks PassOp.spares := fun _ => rfl

theorem spares_of_harmless (o : PassOp) (ho : harmless o = true) : o.spares = true := by
  cases o <;> first | rfl | cases ho

theorem stopUdev_learns : Learns PassOp.spares stopUdev fun _ => UdevStopped := by
  refine (learns_sh rfl).bind fun _ _ _ => (learns_sh rfl).bind fun _ _ hmask =>
    (learns_sh rfl).mono fun _ _ hstop => ⟨?_, ?_⟩
  · exact (hmask.mono fun d hd => hd.1).sub fun _ hmem => by simp [hmem]
  · exact (hstop.mono fun d hd => hd.1).sub fun _ hmem => by simp [hmem]

theorem unbind_learns (bdf : String) : Learns PassOp.spares (do
    let bound ← attempt (.testDriver bdf)
    if bound.status = 0 then
      sh (.unbind bdf)) fun _ l => Unbound l bdf := by
  refine (learns_attempt rfl).bind fun bound l₁ hbound => learns_ite (fun _ => ?_) fun hnone => ?_
  · exact (learns_sh rfl).mono fun _ _ hunbind => .inr (hunbind.mono fun d hd => hd.1).later
  · refine learns_pure (.inl ((hbound.mono ?_).sub fun _ hmem => by simp [hmem]))
    rintro _ rfl
    exact hnone

theorem resets_traces : ∀ devices : List String, Traces (devices.forM fun bdf => sh (.reset bdf))
    (fun _ l => (∀ bdf ∈ devices, Answered l (.reset bdf) fun d => d.status = 0) ∧ ResetsOf devices l)
    fun n l => n ≠ 0 ∧ ResetsOf devices l := by
  intro devices
  have hone : ∀ bdf ∈ devices, ∀ d, ResetsOf devices [(⟨.reset bdf, d⟩ : PassEvent)] :=
    fun bdf hbdf d => List.forall_mem_cons.mpr ⟨⟨bdf, hbdf, rfl⟩, fun _ hmem => absurd hmem List.not_mem_nil⟩
  refine traces_forM (fun bdf hbdf => ?_) (fun bdf l₁ l l₂ h => h.sub fun _ hmem => by simp [hmem])
    (fun _ hmem => absurd hmem List.not_mem_nil) (fun _ _ => ResetsOf.append) fun _ _ _ hl hl' =>
      ⟨hl'.1, hl.append hl'.2⟩
  refine traces_sh exitStatus_ne_zero (fun d hsignal hstatus => ⟨⟨d, .head _, hsignal, hstatus⟩, hone bdf hbdf d⟩) ?_
  exact fun n d hn => ⟨hn, hone bdf hbdf d⟩

theorem checkResult_learns (bdf : String) : Learns harmless (checkResult bdf) fun _ l => CameBack l bdf := by
  refine (learns_sh rfl).bind fun speed l₁ hspeed => (learns_orDie speaks_harmless).bind fun _ l₂ hgen2 => ?_
  refine (learns_sh rfl).bind fun word l₃ hword => ?_
  cases hnumber : word.number with
  | none => exact traces_throw ⟨Nat.one_ne_zero, only_nil⟩
  | some rebarCtrl =>
      refine (learns_orDie speaks_harmless).mono fun _ l₄ hsize => ⟨?_, ?_⟩
      · refine (hspeed.mono fun d hd => ⟨hd.1, ?_⟩).sub fun _ hmem => by simp [hmem]
        exact hd.2.trans (beq_iff_eq.mp hgen2)
      · refine (hword.mono fun d hd => ⟨hd.1, rebarCtrl, ?_, beq_iff_eq.mp hsize⟩).sub fun _ hmem => by simp [hmem]
        rw [hd.2, hnumber]

/-! ## The whole script -/

/-- All resets are in one stretch of the log, and were ready to be done. -/
def Phased (l : List PassEvent) : Prop :=
  ∃ devices after resets before, l = after ++ (resets ++ before) ∧ Only PassOp.spares after ∧ ResetsOf devices resets ∧
    Only PassOp.spares before ∧ (resets = [] ∨ ResetReady devices before)

theorem phased_of_spares (hl : Only PassOp.spares l) : Phased l :=
  ⟨[], [], [], l, rfl, only_nil, fun _ hmem => absurd hmem List.not_mem_nil, hl, .inl rfl⟩

/-- The cards are initialized again after the resets. -/
theorem initialized_learns (devices : List String) : Learns PassOp.spares (do
    initializeGpus devices.length "second pass did not initialize all GPUs"
    devices.forM checkResult
    log ("PASS: " ++ toString devices.length ++ " GPUs are at PCIe Gen2 with 16 GiB BAR1"))
    fun _ l => Answered l .countGpus (fun d => d.out = devices.length) ∧ ∀ bdf ∈ devices, CameBack l bdf := by
  have hresults : Learns harmless (devices.forM checkResult) fun _ l => ∀ bdf ∈ devices, CameBack l bdf :=
    learns_forM (fun bdf _ => checkResult_learns bdf) fun _ _ _ => CameBack.sub
  have hlog : Learns harmless (log ("PASS: " ++ toString devices.length ++ " GPUs are at PCIe Gen2 with 16 GiB BAR1"))
      fun _ _ => True := (learns_sh rfl).mono fun _ _ _ => trivial
  refine Learns.widen ?_ spares_of_harmless
  refine (initializeGpus_learns _ _).bind fun _ l₁ hcount =>
    hresults.bind fun _ l₂ hback => hlog.mono fun _ l₃ _ => ⟨?_, ?_⟩
  · exact hcount.sub fun _ hmem => by simp [hmem]
  · exact fun bdf hbdf => (hback bdf hbdf).sub fun _ hmem => by simp [hmem]

/-- What follows the test of the modules. -/
theorem resets_and_after {before : List PassEvent} (hready : ResetReady devices before)
    (hbefore : Only PassOp.spares before) :
    Traces (do
        devices.forM fun bdf => sh (.reset bdf)
        initializeGpus devices.length "second pass did not initialize all GPUs"
        devices.forM checkResult
        log ("PASS: " ++ toString devices.length ++ " GPUs are at PCIe Gen2 with 16 GiB BAR1"))
      (fun _ l => Phased (l ++ before) ∧ SecondPassDone devices (l ++ before)) fun n l => n ≠ 0 ∧
        Phased (l ++ before) := by
  refine (resets_traces devices).bind (fun _ resets hresets => ?_) fun n resets hresets => ⟨hresets.1, ?_⟩
  · refine Traces.mono (initialized_learns devices) (fun _ after hafter => ⟨?_, ?_⟩)
      fun n after hafter => ⟨hafter.1, ?_⟩
    · exact ⟨devices, after, resets, before, List.append_assoc .., hafter.2, hresets.2, hbefore, .inr hready⟩
    · exact ⟨after, resets, before, List.append_assoc .., hready, hresets.2, hresets.1, hafter.1⟩
    · exact ⟨devices, after, resets, before, List.append_assoc .., hafter.2, hresets.2, hbefore, .inr hready⟩
  · exact ⟨devices, [], resets, before, rfl, only_nil, hresets.2, hbefore, .inr hready⟩

theorem reinitialize_traces {before : List PassEvent} (hfirst : FirstPass devices before)
    (hneeded : Needed devices before)
    (hudev : UdevStopped before) (hbefore : Only PassOp.spares before) :
    Traces ( reinitialize devices) (fun _ l => Phased (l ++ before) ∧ SecondPassDone devices (l ++ before))
      fun n l => n ≠ 0 ∧ Phased (l ++ before) := by
  have hfails : ∀ (n : Nat) (l : List PassEvent), n ≠ 0 → Only PassOp.spares l → n ≠ 0 ∧ Phased (l ++ before) :=
    fun n l hn hl => ⟨hn, phased_of_spares (hbefore.append hl)⟩
  have hunbinds : Learns PassOp.spares (devices.forM fun bdf => do
      let bound ← attempt (.testDriver bdf)
      if bound.status = 0 then
        sh (.unbind bdf)) fun _ l => ∀ bdf ∈ devices, Unbound l bdf :=
    learns_forM (fun bdf _ => unbind_learns bdf) fun _ _ _ => Unbound.sub
  refine hunbinds.andThen (fun _ l₁ hunbound h₁ => ?_) hfails
  have hremove : Learns PassOp.spares (attempt .modprobeRemove) fun _ _ => True :=
    (learns_attempt rfl).mono fun _ _ _ => trivial
  refine hremove.andThen (fun _ l₂ _ h₂ => ?_) fun n l hn hl => hfails n _ hn (h₁.append hl)
  have htest : Traces (attempt .grepModules) (fun d l => d.signal = none ∧ l = [(⟨.grepModules, d⟩ : PassEvent)])
      fun n l => n ≠ 0 ∧ Phased (l ++ l₂ ++ l₁ ++ before) := by
    refine traces_attempt exitStatus_ne_zero (fun d hsignal => ⟨hsignal, rfl⟩) fun n d hn => ?_
    exact hfails n _ hn (h₁.append (h₂.append (only_singleton rfl)))
  refine htest.bind ?_ fun n l hl => hl
  rintro d _ ⟨hsignal, rfl⟩
  have h₃ : Only PassOp.spares [(⟨.grepModules, d⟩ : PassEvent)] := only_singleton rfl
  cases hloaded : d.status != 0 with
  | false =>
      refine Traces.bind (Q := fun _ _ => False) ?_ (fun _ _ hnever => hnever.elim) fun n l hl => hl
      refine Traces.mono (learns_die speaks_spares) (fun _ _ hl => hl.1) fun n l hl => ?_
      exact hfails n _ hl.1 (h₁.append (h₂.append (h₃.append hl.2)))
  | true =>
      have hready : ResetReady devices ([⟨.grepModules, d⟩] ++ l₂ ++ l₁ ++ before) := {
        first := hfirst.sub fun _ hmem => by simp [hmem]
        needed := hneeded.sub fun _ hmem => by simp [hmem]
        udev := hudev.sub fun _ hmem => by simp [hmem]
        unbound := fun bdf hbdf => (hunbound bdf hbdf).sub fun _ hmem => by simp [hmem]
        unloaded := ⟨[], d, l₂ ++ l₁ ++ before, rfl, hsignal, by simpa using hloaded,
          fun _ hmem => absurd hmem List.not_mem_nil⟩ }
      have hspares := hbefore.append (h₁.append (h₂.append h₃))
      have hrest := resets_and_after hready hspares
      simp only [List.append_assoc] at hrest ⊢
      exact hrest

/-- The script without its handler. -/
theorem body_traces : Traces body (fun _ l => Phased l ∧ ∃ devices, SecondPassDone devices l)
    fun n l => Phased l ∧ (n = 0 → ∃ devices, FirstPassEnough devices l) := by
  have hspares : ∀ l : List PassEvent, Only harmless l → Only PassOp.spares l :=
    fun l hl event hmem => spares_of_harmless _ (hl event hmem)
  refine prepare_traces.bind (fun devices l₁ hl₁ => ?_) fun n l hl => ⟨phased_of_spares (hspares l hl.1), hl.2⟩
  obtain ⟨⟨hfirst, hneeded⟩, hharmless⟩ := hl₁
  have h₁ := hspares l₁ hharmless
  refine stopUdev_learns.andThen (fun _ l₂ hudev h₂ => ?_) fun n l hn hl => ?_
  · have hfirst₂ : FirstPass devices (l₂ ++ l₁) := hfirst.sub fun _ hmem => by simp [hmem]
    have hneeded₂ : Needed devices (l₂ ++ l₁) := hneeded.sub fun _ hmem => by simp [hmem]
    have hudev₂ : UdevStopped (l₂ ++ l₁) := hudev.sub fun _ hmem => by simp [hmem]
    refine Traces.mono (reinitialize_traces hfirst₂ hneeded₂ hudev₂ (h₁.append h₂)) (fun _ l hl => ?_) fun n l hl => ?_
    · rw [List.append_assoc]
      exact ⟨hl.1, devices, hl.2⟩
    · rw [List.append_assoc]
      exact ⟨hl.2, fun hzero => absurd hzero hl.1⟩
  · exact ⟨phased_of_spares (h₁.append hl), fun hzero => absurd hzero hn⟩

/-- Every reset of the script was ready to be done. -/
theorem ready_of_phased {later earlier : List PassEvent} {d : Done Signal Unit} (hl : Phased l)
    (hsplit : l = later ++ ⟨.reset bdf, d⟩ :: earlier) : ∃ devices, bdf ∈ devices ∧ ResetReady devices earlier := by
  obtain ⟨devices, after, resets, before, hphases, hafter, hresets, hbefore, hready⟩ := hl
  have hnot : ∀ l', Only PassOp.spares l' → (⟨.reset bdf, d⟩ : PassEvent) ∉ l' := fun l' hl' hmem => by cases hl' _ hmem
  obtain ⟨later', hrest⟩ := split_of_not_mem (hphases.symm.trans hsplit) (hnot after hafter)
  rcases List.append_eq_append_iff.mp hrest with ⟨middle, -, heq⟩ | ⟨middle, heq, hmiddle⟩
  · exact absurd (heq ▸ List.mem_append_right middle (.head earlier)) (hnot before hbefore)
  · cases middle with
    | nil =>
        have hlist : before = ⟨.reset bdf, d⟩ :: earlier := hmiddle.symm
        refine absurd ?_ (hnot before hbefore)
        rw [hlist]
        exact .head earlier
    | cons event middle =>
        obtain ⟨rfl, rfl⟩ := List.cons.inj hmiddle
        obtain ⟨bdf', hbdf', hevent⟩ := hresets _ (heq ▸ List.mem_append_right later' (.head middle))
        cases hevent
        refine ⟨devices, hbdf', ResetReady.resets ?_ fun event hmem => hresets event ?_⟩
        · refine hready.resolve_left fun hnil => ?_
          rw [hnil] at heq
          simp at heq
        · rw [heq]
          exact List.mem_append_right later' (.tail _ hmem)

end Cmp50Unlock.Scripts
