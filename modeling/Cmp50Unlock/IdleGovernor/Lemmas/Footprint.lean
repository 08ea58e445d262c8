import Cmp50Unlock.IdleGovernor.Run

/-!
# What the functions of the governor touch

Releasing and polling a card issue operations of that card only, and leave the request and the active flag alone.
-/

namespace Cmp50Unlock.IdleGovernor

open Lib

/-! ## Operations of a card -/

/-- Without a configured core offset, no command touches the offset of a card. -/
def Config.MayIssue (c : Config) : Call → Prop
  | .setCoreOffset _ _ => c.hasCoreOffset
  | _ => True

/-- An operation on card `i`, its utilization apart, or a read of the memory. -/
def Op.OnCard (c : Config) (i : Int) : Op → Prop
  | .temperature j => j = i
  | .call cmd => cmd.index = i ∧ c.MayIssue cmd
  | .assign (.idlePolls j _) | .assign (.lowPower j) | .assign (.manualFan j _) | .assign (.clear j) => j = i
  | .getGov => True
  | _ => False

/-- An operation of a release: a command, the end of the release of a card, a read of the memory. -/
def Op.Releases (c : Config) : Op → Prop
  | .call cmd => c.MayIssue cmd
  | .assign (.clear _) | .getGov | .rangeStates => True
  | _ => False

/-- An operation that puts card `i` into P8, or that undoes what it did when it fails. -/
def Op.Lowers (c : Config) (i : Int) : Op → Prop
  | .call (.setFan _ _) => False
  | .call cmd => cmd.index = i ∧ c.MayIssue cmd
  | .assign (.lowPower j) => j = i
  | _ => False

/-- An operation on the fan of card `i`. -/
def Op.Fans (i : Int) : Op → Prop
  | .temperature j | .call (.setFan j _) | .call (.setFanAuto j) | .assign (.manualFan j _) => j = i
  | .getGov => True
  | _ => False

/-- An operation of a poll of card `i`. -/
def Op.Polls (c : Config) (i : Int) (o : Op) : Prop := o = .utilization i ∨ o.OnCard c i

/-- The operation is no assignment to `g.control` and `g.active`. -/
def Op.KeepsControl : Op → Prop
  | .assign (.activate _) | .assign .deactivate => False
  | _ => True

/-- The operation is no command to the offset of a card, unless one is configured. -/
def Op.KeepsOffset (c : Config) : Op → Prop
  | .call cmd => c.MayIssue cmd
  | _ => True

section
variable {c : Config} {i : Int} {o : Op}

theorem Op.OnCard.keepsControl (h : o.OnCard c i) : o.KeepsControl := by
  unfold Op.KeepsControl
  split <;> first | exact h | trivial

theorem Op.Releases.keepsControl (h : o.Releases c) : o.KeepsControl := by
  unfold Op.KeepsControl
  split <;> first | exact h | trivial

theorem Op.Polls.keepsControl (h : o.Polls c i) : o.KeepsControl := by
  rcases h with rfl | h
  · trivial
  · exact h.keepsControl

theorem Op.OnCard.keepsOffset (h : o.OnCard c i) : o.KeepsOffset c := by
  unfold Op.KeepsOffset
  split
  · exact h.2
  · trivial

theorem Op.Releases.keepsOffset (h : o.Releases c) : o.KeepsOffset c := by
  unfold Op.KeepsOffset
  split
  · exact h
  · trivial

theorem Op.Polls.keepsOffset (h : o.Polls c i) : o.KeepsOffset c := by
  rcases h with rfl | h
  · trivial
  · exact h.keepsOffset

end

/-! ## Footprints -/

section
variable {c : Config}

/-- The command of `restoreClocks`. -/
def Config.clockCall (c : Config) (index : Int) : Call :=
  if c.hasClock then .setLockedClocks index c.clockMin c.clockMax else .resetLockedClocks index

@[simp] theorem clockCall_index (index : Int) : (c.clockCall index).index = index := by
  unfold Config.clockCall
  split <;> rfl

theorem clockCall_mayIssue (index : Int) : c.MayIssue (c.clockCall index) := by
  unfold Config.clockCall
  split <;> trivial

theorem restoreClocks_eq (index : Int) : restoreClocks c index = call (c.clockCall index) := by
  unfold restoreClocks Config.clockCall
  split <;> rfl

variable {S : Op → Prop} {Q : Option GoError → Prop} {index : Int}

theorem within_restoreClocks :
    (restoreClocks c index).Within S Q ↔ S (.call (c.clockCall index)) ∧ ∀ a, Q a := by
  rw [restoreClocks_eq, within_call]

theorem restoreCoreOffset_uses (h : c.hasCoreOffset → S (.call (.setCoreOffset index c.coreOffset))) :
    (restoreCoreOffset c index).Uses S := by
  simp only [restoreCoreOffset, Prog.within_ite, Prog.within_pure, within_call]
  exact ⟨fun _ => trivial, fun hoff => ⟨h (Decidable.not_not.mp hoff), fun _ => trivial⟩⟩

/-! ### Releases -/

/-- The commands of `restoreCoreOffset`. -/
def offsetCalls (c : Config) (index : Int) : List Call :=
  if c.hasCoreOffset then [.setCoreOffset index c.coreOffset] else []

/-- The commands that end every release. -/
def restoreCalls (c : Config) (index : Int) : List Call :=
  .setPState index autoPState :: (offsetCalls c index ++ [c.clockCall index])

/-- The commands of a release; the fan is only released when it may be manual. -/
def releaseCalls (c : Config) (index : Int) (fan : Bool) : List Call :=
  (if fan then [.setFanAuto index] else []) ++ restoreCalls c index

theorem mem_releaseCalls {cmd : Call} : cmd ∈ releaseCalls c index true ↔ cmd = .setFanAuto index ∨
    cmd = .setPState index autoPState ∨ (c.hasCoreOffset ∧ cmd = .setCoreOffset index c.coreOffset) ∨
      cmd = c.clockCall index := by
  cases hoff : c.hasCoreOffset <;> simp [releaseCalls, restoreCalls, offsetCalls, hoff]

/-- A release of card `i`: one of its commands, the end of the release, a read of the memory. -/
def Op.Restores (c : Config) (i : Int) : Op → Prop
  | .call cmd => cmd ∈ releaseCalls c i true
  | .assign (.clear j) => j = i
  | .getGov => True
  | _ => False

/-- A release of card `i`. -/
abbrev Op.ReleasesCard (c : Config) (i : Int) (o : Op) : Prop := o.OnCard c i ∧ o.Releases c

theorem Op.Restores.releasesCard {o : Op} (h : o.Restores c index) : o.ReleasesCard c index := by
  cases o with
  | call cmd =>
      rcases mem_releaseCalls.mp h with rfl | rfl | ⟨hoff, rfl⟩ | rfl
      · exact ⟨⟨rfl, trivial⟩, trivial⟩
      · exact ⟨⟨rfl, trivial⟩, trivial⟩
      · exact ⟨⟨rfl, hoff⟩, hoff⟩
      · exact ⟨⟨clockCall_index index, clockCall_mayIssue index⟩, clockCall_mayIssue index⟩
  | assign x => cases x <;> first | exact h.elim | exact ⟨h, trivial⟩
  | getGov => exact ⟨trivial, trivial⟩
  | _ => exact h.elim

theorem restore_restores (index : Int) (result : Option GoError) :
    (restore c index result).Uses (Op.Restores c index) := by
  simp only [restore, Prog.Uses, Prog.within_bind, Prog.within_pure, within_call, within_restoreClocks, within_assign]
  refine ⟨mem_releaseCalls.mpr (.inr (.inl rfl)), fun _ => ?_⟩
  refine (restoreCoreOffset_uses fun hoff => mem_releaseCalls.mpr (.inr (.inr (.inl ⟨hoff, rfl⟩)))).within fun _ => ?_
  exact ⟨mem_releaseCalls.mpr (.inr (.inr (.inr rfl))), fun _ => ⟨rfl, trivial⟩⟩

theorem release_restores (index : Int) : (release c index).Uses (Op.Restores c index) := by
  simp only [release, Prog.Uses, Prog.within_bind, Prog.within_ite, Prog.within_pure, within_getGov, within_call]
  exact ⟨trivial, fun _ => ⟨fun _ => ⟨mem_releaseCalls.mpr (.inl rfl), fun _ => restore_restores index _⟩,
    fun _ => restore_restores index _⟩⟩

theorem cleanupGPU_restores (result : Option GoError) (gpu : GPU) :
    (cleanupGPU c result gpu).Uses fun o => gpu.Supported ∧ o.Restores c gpu.index := by
  simp only [cleanupGPU, Prog.Uses, Prog.within_ite, Prog.within_pure, Prog.within_bind, within_call]
  refine ⟨fun _ => trivial, fun h => ⟨⟨Decidable.not_not.mp h, mem_releaseCalls.mpr (.inl rfl)⟩, fun _ => ?_⟩⟩
  exact (restore_restores gpu.index _).mono (fun _ ho => ⟨Decidable.not_not.mp h, ho⟩) fun _ h => h

theorem release_uses (index : Int) : (release c index).Uses (Op.ReleasesCard c index) :=
  (release_restores index).mono (fun _ => Op.Restores.releasesCard) fun _ h => h

theorem releaseHeld_uses (index : Int) : (releaseHeld c index).Uses (Op.ReleasesCard c index) := by
  simp only [releaseHeld, Prog.Uses, Prog.within_bind, Prog.within_ite, Prog.within_pure, within_getGov]
  exact ⟨⟨trivial, trivial⟩, fun _ => ⟨fun _ => (release_uses index).within fun _ => trivial, fun _ => trivial⟩⟩

theorem releaseAll_uses : (releaseAll c).Uses (Op.Releases c) := by
  rw [releaseAll, Prog.Uses, Prog.within_bind]
  exact ⟨trivial, fun keys => Prog.uses_forM fun i _ => (releaseHeld_uses i).mono (fun _ h => h.2) fun _ h => h⟩

theorem cleanupGPU_uses (result : Option GoError) (gpu : GPU) :
    (cleanupGPU c result gpu).Uses (Op.ReleasesCard c gpu.index) :=
  (cleanupGPU_restores result gpu).mono (fun _ h => h.2.releasesCard) fun _ h => h

theorem cleanup_uses : (cleanup c).Uses (Op.Releases c) :=
  Prog.uses_foldlM (fun gpu _ result => (cleanupGPU_uses result gpu).mono (fun _ h => h.2) fun _ h => h) none

/-! ### Polls -/

theorem Op.Lowers.onCard {o : Op} (h : o.Lowers c index) : o.OnCard c index := by
  cases o with
  | call cmd => cases cmd <;> first | exact h.elim | exact h
  | assign x => cases x <;> first | exact h.elim | exact h
  | _ => exact h.elim

theorem Op.Fans.onCard {o : Op} (h : o.Fans index) : o.OnCard c index := by
  cases o with
  | call cmd => cases cmd <;> first | exact h.elim | exact ⟨h, trivial⟩
  | assign x => cases x <;> first | exact h.elim | exact h
  | _ => first | exact h.elim | exact h

theorem clockCall_lowers (index : Int) : (Op.call (c.clockCall index)).Lowers c index := by
  unfold Config.clockCall
  split <;> exact ⟨rfl, trivial⟩

theorem forceP8_lowers (index : Int) : (forceP8 c index).Uses (Op.Lowers c index) := by
  rw [forceP8, Prog.Uses, Prog.within_bind, within_call]
  refine ⟨⟨rfl, trivial⟩, ?_⟩
  rintro (_ | err)
  · exact ⟨rfl, fun _ => trivial⟩
  · simp only [Prog.within_bind, within_restoreClocks, Prog.within_pure]
    exact ⟨clockCall_lowers index, fun _ => restoreCoreOffset_uses fun h => ⟨rfl, h⟩⟩

theorem resetClocks_lowers (index : Int) : (resetClocks c index).Uses (Op.Lowers c index) := by
  rw [resetClocks, Prog.Uses, Prog.within_bind, within_call]
  refine ⟨⟨rfl, trivial⟩, ?_⟩
  rintro (_ | err)
  · exact forceP8_lowers index
  · simp only [Prog.within_bind, Prog.within_pure]
    exact restoreCoreOffset_uses fun h => ⟨rfl, h⟩

theorem lowPower_lowers (index : Int) : (lowPower c index).Uses (Op.Lowers c index) := by
  simp only [lowPower, Prog.Uses, Prog.within_bind, Prog.within_ite, within_call, Prog.within_pure]
  refine ⟨fun hoff => ⟨⟨rfl, hoff⟩, ?_⟩, fun _ => resetClocks_lowers index⟩
  rintro (_ | err)
  · exact resetClocks_lowers index
  · trivial

theorem idleFan_fans (index : Int) (g : Governor) (t : BitVec 32) : (idleFan c index g t).Uses (Op.Fans index) := by
  simp only [idleFan, Prog.Uses, Prog.within_bind, Prog.within_ite, within_call, Prog.within_pure]
  refine ⟨fun _ => ⟨fun _ => ⟨rfl, ?_⟩, fun _ => trivial⟩, fun _ => ⟨fun _ => ⟨rfl, ?_⟩, fun _ => trivial⟩⟩
  all_goals
    rintro (_ | err)
    · exact ⟨rfl, fun _ => trivial⟩
    · trivial

theorem pollFan_fans (index : Int) : (pollFan c index).Uses (Op.Fans index) := by
  simp only [pollFan, Prog.Uses, Prog.within_bind, Prog.within_ite, within_getGov, within_temperature, Prog.within_pure]
  refine ⟨trivial, fun g => ⟨fun _ => ⟨rfl, ?_⟩, fun _ => trivial⟩⟩
  rintro (err | t)
  · trivial
  · exact idleFan_fans index g t

theorem lowPower_uses (index : Int) : (lowPower c index).Uses (Op.OnCard c index) :=
  (lowPower_lowers index).mono (fun _ => Op.Lowers.onCard) fun _ h => h

theorem pollFan_uses (index : Int) : (pollFan c index).Uses (Op.OnCard c index) :=
  (pollFan_fans index).mono (fun _ => Op.Fans.onCard) fun _ h => h

theorem pollIdle_uses (index : Int) : (pollIdle c index).Uses (Op.OnCard c index) := by
  simp only [pollIdle, Prog.Uses, Prog.within_bind, Prog.within_ite, within_getGov, within_assign, Prog.within_pure]
  refine ⟨trivial, fun g => ⟨rfl, trivial, fun g' =>
    ⟨fun _ => (lowPower_uses index).within ?_, fun _ => pollFan_uses index⟩⟩⟩
  rintro (_ | err)
  · exact pollFan_uses index
  · trivial

theorem pollBusy_uses (index : Int) : (pollBusy c index).Uses (Op.OnCard c index) := by
  simp only [pollBusy, Prog.Uses, Prog.within_bind, Prog.within_ite, Prog.within_pure, within_getGov, within_assign]
  exact ⟨rfl, trivial, fun _ => ⟨fun _ => (release_uses index).mono (fun _ h => h.1) fun _ h => h, fun _ => trivial⟩⟩

theorem pollCard_uses (index : Int) : (pollCard c index).Uses (Op.Polls c index) := by
  rw [pollCard, Prog.Uses, Prog.within_bind, within_utilization]
  refine ⟨.inl rfl, ?_⟩
  rintro (err | u)
  · trivial
  · simp only [Prog.within_ite]
    exact ⟨fun _ => (pollBusy_uses index).mono (fun _ => .inr) fun _ h => h,
      fun _ => (pollIdle_uses index).mono (fun _ => .inr) fun _ h => h⟩

theorem poll_uses : (poll c).Uses fun o => o = .getGov ∨ ∃ i, o.Polls c i := by
  rw [poll, Prog.Uses, Prog.within_bind, within_getGov]
  exact ⟨.inl rfl, fun g => Prog.uses_each fun i _ => (pollCard_uses i).mono (fun _ h => .inr ⟨i, h⟩) fun _ h => h⟩

/-! ## Giving up a request -/

/-- An operation of `disable` and `fail`. -/
def Op.GivesUp (c : Config) : Op → Prop
  | .assign .deactivate | .statusInactive | .statusError _ => True
  | o => o.Releases c

theorem Op.Releases.givesUp {o : Op} (h : o.Releases c) : o.GivesUp c := by
  unfold Op.GivesUp
  split <;> trivial

theorem disable_uses : (disable c).Uses (Op.GivesUp c) := by
  simp only [disable, Prog.Uses, Prog.within_bind, Prog.within_pure, within_assign, within_publishInactive]
  exact releaseAll_uses.mono (fun _ => Op.Releases.givesUp) fun _ _ => ⟨trivial, trivial, fun _ => trivial⟩

theorem fail_uses (err : GoError) : (fail c err).Uses (Op.GivesUp c) := by
  simp only [fail, Prog.Uses, Prog.within_bind, within_assign, within_publishError]
  exact cleanup_uses.mono (fun _ => Op.Releases.givesUp) fun _ _ => ⟨trivial, trivial, trivial⟩

/-! ## The control request -/

/-- An operation of `syncControl`. -/
def Op.Syncs (c : Config) : Op → Prop
  | .loadControl | .statusActive _ | .assign (.activate _) => True
  | o => o.GivesUp c

theorem Op.GivesUp.syncs {o : Op} (h : o.GivesUp c) : o.Syncs c := by
  unfold Op.Syncs
  split <;> trivial

theorem applyControl_uses (control : Control) : (applyControl c control).Uses (Op.Syncs c) := by
  simp only [applyControl, Prog.Uses, Prog.within_bind, within_assign, within_publishActive]
  refine releaseAll_uses.mono (fun _ h => h.givesUp.syncs) fun _ _ => ⟨trivial, trivial, ?_⟩
  rintro (_ | err)
  · trivial
  · exact ⟨trivial, fun _ => trivial⟩

theorem syncControl_uses : (syncControl c).Uses (Op.Syncs c) := by
  rw [syncControl, Prog.Uses, Prog.within_bind, within_load]
  refine ⟨trivial, ?_⟩
  rintro (err | control)
  · trivial
  · simp only [Prog.within_ite, Prog.within_bind, Prog.within_pure, changeControl, within_getGov]
    refine ⟨fun _ => disable_uses.mono (fun _ => Op.GivesUp.syncs) fun _ h => h,
      fun _ => ⟨trivial, fun g => ⟨fun _ => trivial, fun _ => ?_⟩⟩⟩
    cases validate c control with
    | none => exact applyControl_uses control
    | some err => trivial

theorem Op.GivesUp.keepsOffset {o : Op} (h : o.GivesUp c) : o.KeepsOffset c := by
  unfold Op.KeepsOffset
  split
  · exact h
  · trivial

/-! ## Runs -/

theorem disable_keepsOffset : (disable c).Uses (Op.KeepsOffset c) :=
  disable_uses.mono (fun _ => Op.GivesUp.keepsOffset) fun _ h => h

theorem fail_keepsOffset (err : GoError) : (fail c err).Uses (Op.KeepsOffset c) :=
  (fail_uses err).mono (fun _ => Op.GivesUp.keepsOffset) fun _ h => h

theorem Op.Syncs.keepsOffset {o : Op} (h : o.Syncs c) : o.KeepsOffset c := by
  unfold Op.KeepsOffset
  split
  · exact h
  · trivial

theorem syncControl_keepsOffset : (syncControl c).Uses (Op.KeepsOffset c) :=
  syncControl_uses.mono (fun _ => Op.Syncs.keepsOffset) fun _ h => h

/-- No run touches the core offset of a card, unless one is configured. -/
theorem run_keepsOffset (l : Label) : (run c l).Uses (Op.KeepsOffset c) := by
  have hcleanup : (cleanup c).Uses (Op.KeepsOffset c) :=
    cleanup_uses.mono (fun _ => Op.Releases.keepsOffset) fun _ h => h
  have hstartup : (startup c).Uses (Op.KeepsOffset c) := by
    rw [startup, Prog.Uses, Prog.within_bind]
    refine syncControl_keepsOffset.within ?_
    rintro (_ | err)
    · trivial
    · exact Prog.within_ite.mpr ⟨fun _ => fail_keepsOffset err, fun _ => trivial⟩
  have hcontrol : (controlTick c).Uses (Op.KeepsOffset c) := by
    rw [controlTick, Prog.Uses, Prog.within_bind]
    refine syncControl_keepsOffset.within ?_
    rintro (_ | err)
    · trivial
    · exact Prog.within_ite.mpr ⟨fun _ => disable_keepsOffset, fun _ => fail_keepsOffset err⟩
  have hpoll : (poll c).Uses (Op.KeepsOffset c) := poll_uses.mono (fun o ho => by
    rcases ho with rfl | ⟨i, ho⟩
    · trivial
    · exact ho.keepsOffset) fun _ h => h
  have hgpu : (gpuTick c).Uses (Op.KeepsOffset c) := by
    simp only [gpuTick, Prog.Uses, Prog.within_bind, within_getGov, Prog.within_ite, Prog.within_pure]
    refine ⟨trivial, fun _ => ⟨fun _ => hpoll.within ?_, fun _ => trivial⟩⟩
    rintro (_ | err)
    · trivial
    · exact fail_keepsOffset err
  cases l with
  | entry =>
      simp only [run, Prog.Uses, Prog.within_bind, Prog.within_pure]
      exact hcleanup
  | startup =>
      simp only [run, Prog.Uses, Prog.within_bind, Prog.within_pure]
      exact hstartup
  | wait =>
      rw [run, Prog.Uses, Prog.within_bind, within_select]
      refine ⟨trivial, ?_⟩
      rintro (_ | _ | _)
      · exact Prog.within_bind.mpr hcleanup
      · exact Prog.within_bind.mpr hcontrol
      · exact Prog.within_bind.mpr hgpu

end

end Cmp50Unlock.IdleGovernor
