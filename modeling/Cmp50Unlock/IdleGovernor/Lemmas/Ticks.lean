import Cmp50Unlock.IdleGovernor.Lemmas.Control

/-!
# The ticks keep the invariant

Every way to give up a request releases the cards first, so no flag is left when the governor becomes inactive.
-/

namespace Cmp50Unlock.IdleGovernor

open Lib

/-! ## The cards of a profile -/

section
variable {c : Config} {control : Control}

theorem validateGPU_supported {k : Nat} {gpu : GPU} (h : validateGPU k gpu = none) : gpu.index = k ∧ gpu.Supported := by
  simp only [validateGPU] at h
  split at h
  · cases h
  next hindex =>
    split at h
    · cases h
    next hdevice =>
      split at h
      · cases h
      next hsubsystem =>
        split at h
        · cases h
        next hmemory =>
          rw [not_or] at hmemory
          exact ⟨Decidable.not_not.mp hindex, Decidable.not_not.mp hdevice, Decidable.not_not.mp hsubsystem,
            BitVec.not_lt.mp hmemory.1, BitVec.not_lt.mp hmemory.2⟩

/-- Every card that `validate` admits is one that `Cleanup` covers. -/
theorem validate_supported (h : validate c control = none) {i : Int} (hi : i ∈ control.indices) :
    SupportedIndex c i := by
  unfold validate at h
  split at h
  · cases h
  next hlen =>
    obtain ⟨k, hk, rfl⟩ := List.mem_map.mp hi
    have hlt : k < c.gpus.length := Nat.lt_of_lt_of_le (List.mem_range.mp hk) (Nat.not_lt.mp hlen)
    have hmem : (c.gpus[k], k) ∈ (c.gpus.take control.count).zipIdx := by
      rw [List.mk_mem_zipIdx_iff_getElem?, List.getElem?_take_of_lt (List.mem_range.mp hk),
        List.getElem?_eq_getElem hlt]
    obtain ⟨hindex, hsupported⟩ := validateGPU_supported (List.findSome?_eq_none_iff.mp h _ hmem)
    exact ⟨c.gpus[k], List.getElem_mem hlt, hindex, hsupported⟩

theorem SupportedIndex.mem {i : Int} (h : SupportedIndex c i) : i ∈ c.gpus.map GPU.index := by
  obtain ⟨gpu, hmem, hi, -⟩ := h
  exact List.mem_map.mpr ⟨gpu, hmem, hi⟩

end

/-! ## Releases clear the flags -/

section
variable {c : Config} {w : World} {A : Answers} {index : Int}

theorem free_iff {w : World} {i : Int} : w.gov.Free i ↔ ∀ h : Hold, h.flag (w.view i).get = false := Iff.rfl

theorem cleared_get (v : View) : (v.update fun _ => .zero).get = .zero := by
  obtain ⟨_ | s, card, calls⟩ := v <;> rfl

theorem flag_zero (h : Hold) : h.flag .zero = false := by cases h <;> rfl

theorem free_of_cleared {w' : World} {v : View} (h : w'.view index = v.update fun _ => .zero) : w'.gov.Free index := by
  rw [free_iff, h, cleared_get]
  exact flag_zero

/-- A release keeps what is clear. -/
theorem Op.Releases.free {o : Op} {a : o.Ans} {d : Dir} (h : o.Releases c) (hfree : w.gov.Free index) :
    (w.after o a d).gov.Free index := by
  cases o with
  | assign x =>
      cases x with
      | clear j =>
          rcases state_update w.gov index j fun _ => .zero with hs | ⟨-, hs⟩
          · exact fun hold => (congrArg hold.flag hs).trans (hfree hold)
          · exact fun hold => (congrArg hold.flag hs).trans (by cases hold <;> rfl)
      | _ => exact h.elim
  | _ => exact hfree

theorem releases_free {α : Type} {p : Gov α} {w' : World} {r : α} (h : p.Uses (Op.Releases c))
    (he : p.Exec (Step A) w r w') (hfree : w.gov.Free index) : w'.gov.Free index :=
  (h.exec (I := fun w => w.gov.Free index) (fun o w a w' ho hst hw => by
    obtain ⟨-, d, -, rfl⟩ := hst
    exact ho.free hw) he hfree).2

theorem releaseHeld_free : (releaseHeld c index).wp (Step A) always w fun _ w' => w'.gov.Free index := by
  simp only [releaseHeld, Prog.wp_bind, wp_getGov, Prog.wp_ite, Prog.wp_pure, true_and]
  refine fun _ => ⟨fun _ => release_spec.mono fun r w' hpost => ?_, fun h => ?_⟩
  · obtain ⟨calls, _, _, hview⟩ := hpost
    exact free_of_cleared hview
  simp only [Bool.or_eq_true, not_or, Bool.not_eq_true] at h
  rintro (_ | _)
  · exact h.1
  · exact h.2

theorem releaseAll_free : (releaseAll c).wp (Step A) always w fun _ w' => ∀ i, w'.gov.Free i := by
  simp only [releaseAll, Prog.wp_bind, wp_rangeStates, true_and]
  intro keys _ _ hkeys
  refine Prog.wp.mono (Prog.wp_forM_all (I := fun _ => True) (D := fun i w => w.gov.Free i)
    (fun i _ w₁ _ => ?_) trivial)
    fun _ w' hend i => hend.2 i ?_
  · refine releaseHeld_free.with_exec.mono fun _ w₂ hpost => ?_
    obtain ⟨hfree, he⟩ := hpost
    refine ⟨trivial, hfree, fun j => ?_⟩
    exact releases_free ((releaseHeld_uses i).mono (fun _ h => h.2) fun _ h => h) he
  by_cases hi : i ∈ keys
  · exact .inl hi
  · have hnone : w.gov.states i = none := by
      rw [hkeys i] at hi
      simpa using hi
    refine .inr fun hold => ?_
    change hold.flag ((w.gov.states i).getD .zero) = false
    rw [hnone]
    cases hold <;> rfl

/-- What `Cleanup` establishes for each card that it covers holds of all of them in the end, and it leaves the
others as they are. -/
theorem cleanup_establishes {D : Int → World → Prop}
    (hD : ∀ gpu result w, gpu.Supported → (cleanupGPU c result gpu).wp (Step A) always w fun _ w' => D gpu.index w')
    (hframe : ∀ i w w', w'.view i = w.view i → D i w → D i w') :
    (cleanup c).wp (Step A) always w fun _ w' => ∀ i, SupportedIndex c i ∨ D i w → D i w' := by
  have hkeep : ∀ {gpu result w₁ r w₂ i}, (cleanupGPU c result gpu).Exec (Step A) w₁ r w₂ → D i w₁ → D i w₂ := by
    intro gpu result w₁ r w₂ i he h
    by_cases hi : gpu.index = i
    · subst hi
      by_cases hs : gpu.Supported
      · exact (hD gpu result w₁ hs).exec he
      · rw [cleanupGPU, if_pos hs] at he
        exact he.2 ▸ h
    · exact hframe i w₁ w₂ (within_keeps (fun w => w.view i) (cleanupGPU_uses result gpu)
        (fun _ _ _ _ ho => ho.1.view hi) he) h
  refine Prog.wp.mono (Prog.wp_foldlM_all (I := fun w' => ∀ i, D i w → D i w')
    (D := fun gpu w => gpu.Supported → D gpu.index w) (fun gpu _ result w₁ hw₁ => ?_) fun _ h => h)
    fun _ w' hend i hi => ?_
  · refine Prog.wp_exec.mono fun r w₂ he => ?_
    exact ⟨fun i hi => hkeep he (hw₁ i hi), fun hs => (hD gpu result w₁ hs).exec he, fun _ h hs => hkeep he (h hs)⟩
  · obtain ⟨hI, hall⟩ := hend
    rcases hi with ⟨gpu, hmem, rfl, hs⟩ | hD
    · exact hall gpu (.inl hmem) hs
    · exact hI i hD

theorem cleanup_free : (cleanup c).wp (Step A) always w fun _ w' =>
    ∀ i, SupportedIndex c i ∨ w.gov.Free i → w'.gov.Free i :=
  cleanup_establishes (D := fun i w => w.gov.Free i)
    (fun _ _ _ hs => (cleanupGPU_spec hs).mono fun _ _ hpost => free_of_cleared hpost.choose_spec.2)
    fun _ _ _ hview h hold => (congrArg (fun v => hold.flag (View.get v)) hview).trans (h hold)

end

/-! ## Giving up a request -/

section
variable {c : Config} {w : World} {A : Answers}

theorem Inv.supported_or_free (h : Inv c w.gov) (i : Int) : SupportedIndex c i ∨ w.gov.Free i := by
  by_cases hlow : (w.gov.state i).lowPower = true
  · obtain ⟨hactive, hi⟩ := h.held i hlow
    exact .inl (validate_supported (h.governs hactive).validated hi)
  · refine .inr fun hold => ?_
    cases hold with
    | lowPower => exact Bool.eq_false_iff.mpr hlow
    | manualFan => exact Bool.eq_false_iff.mpr fun hfan => hlow (h.fan i hfan)

theorem disable_sound : (disable c).wp (Step A) (Sound c) w fun _ w' => w'.gov.active = false := by
  simp only [disable, Prog.wp_bind, wp_assign, wp_publishInactive, Prog.wp_pure]
  refine (sound_of_releases releaseAll_uses).mono fun _ w₁ he => ?_
  exact ⟨releaseAll_free.exec he, fun _ => ⟨trivial, fun _ _ _ _ => rfl⟩⟩

theorem fail_sound {err : GoError} (h : Inv c w.gov) :
    (fail c err).wp (Step A) (Sound c) w fun _ w' => w'.gov.active = false := by
  simp only [fail, Prog.wp_bind, wp_assign, wp_publishError]
  refine (sound_of_releases cleanup_uses).mono fun _ w₁ he => ?_
  exact ⟨fun i => cleanup_free.exec he i (h.supported_or_free i), fun _ => ⟨trivial, fun _ _ _ => rfl⟩⟩

end

/-! ## The control request -/

/-- What `syncControl` makes of the request it loads: the request it published with the error of that, its own error,
and the request and the flag it leaves. -/
inductive SyncOutcome (c : Config) (g : Governor) : Except GoError Control → Option (Control × Option GoError) →
    Option GoError → Control → Bool → Prop where
  | failed {err} : SyncOutcome c g (.error err) none (some err) g.control g.active
  | disabled {control control'} (h : ¬ control.enabled) : SyncOutcome c g (.ok control) none none control' false
  | unchanged {control} (h : control.enabled) (hsame : g.active ∧ control = g.control) :
      SyncOutcome c g (.ok control) none none g.control g.active
  | rejected {control err} (h : control.enabled) (hnew : ¬(g.active ∧ control = g.control))
      (herr : validate c control = some err) : SyncOutcome c g (.ok control) none (some err) g.control g.active
  | published {control} (h : control.enabled) (hnew : ¬(g.active ∧ control = g.control))
      (hvalid : validate c control = none) : SyncOutcome c g (.ok control) (some (control, none)) none control true
  | unpublished {control err} (h : control.enabled) (hnew : ¬(g.active ∧ control = g.control))
      (hvalid : validate c control = none) :
      SyncOutcome c g (.ok control) (some (control, some err)) (some (.wrap "publish active status" err)) control false

/-- The operation neither loads a request nor publishes one. -/
def Op.Silent : Op → Prop
  | .loadControl | .statusActive _ => False
  | _ => True

/-- The events `new` load one request and publish at most one. -/
structure Looks (loaded : Except GoError Control) (published : Option (Control × Option GoError)) (new : List Event) :
    Prop where
  loads : ∀ r : Except GoError Control, ⟨.loadControl, r⟩ ∈ new ↔ r = loaded
  publishes : ∀ control (err : Option GoError), ⟨.statusActive control, err⟩ ∈ new ↔ published = some (control, err)

section
variable {c : Config} {w w' : World} {A : Answers} {loaded : Except GoError Control}
  {published : Option (Control × Option GoError)} {new more : List Event}

theorem Op.GivesUp.silent {o : Op} (h : o.GivesUp c) : o.Silent := by
  unfold Op.Silent
  split <;> first | exact h | trivial

theorem looks_loaded : Looks loaded none [⟨.loadControl, loaded⟩] where
  loads r := by simp
  publishes control err := by simp

theorem Looks.silent (h : Looks loaded published new) (hmore : ∀ e ∈ more, e.1.Silent) :
    Looks loaded published (more ++ new) where
  loads r := by
    have hno : ¬ (⟨.loadControl, r⟩ : Event) ∈ more := fun he => hmore _ he
    rw [List.mem_append, or_iff_right hno]
    exact h.loads r
  publishes control err := by
    have hno : ¬ (⟨.statusActive control, err⟩ : Event) ∈ more := fun he => hmore _ he
    rw [List.mem_append, or_iff_right hno]
    exact h.publishes control err

theorem Looks.publish (h : Looks loaded none new) (control : Control) (err : Option GoError) :
    Looks loaded (some (control, err)) (⟨.statusActive control, err⟩ :: new) where
  loads r := by simp [h.loads]
  publishes control' err' := by simp [h.publishes, eq_comm]

/-- A run of `syncControl` from `w`. -/
def Synced (c : Config) (w : World) (r : Option GoError) (w' : World) : Prop :=
  ∃ loaded published new, w'.log = new ++ w.log ∧ Looks loaded published new ∧
    SyncOutcome c w.gov loaded published r w'.gov.control w'.gov.active

/-- The request is published once, and followed if that succeeds. -/
theorem applyControl_spec {control : Control} (hgov : Governs c control) :
    (applyControl c control).wp (Step A) (Sound c) w fun r w' => ∃ err later before,
      w'.log = later ++ ⟨.statusActive control, err⟩ :: (before ++ w.log) ∧
      (∀ e ∈ later, e.1.Silent) ∧ (∀ e ∈ before, e.1.Silent) ∧
      r = err.map (.wrap "publish active status") ∧ w'.gov.control = control ∧ w'.gov.active = err.isNone := by
  rw [applyControl, Prog.wp_bind]
  refine (sound_of_releases releaseAll_uses).mono fun _ w₁ he => ?_
  obtain ⟨new, hnew, hall⟩ := within_log releaseAll_uses he
  have hbefore : ∀ e ∈ (⟨.assign (.activate control), ()⟩ : Event) :: new, e.1.Silent := by
    rintro e (_ | ⟨_, he⟩)
    · trivial
    · exact (hall e he).givesUp.silent
  have hlog : (⟨.assign (.activate control), ()⟩ : Event) :: w₁.log =
      (⟨.assign (.activate control), ()⟩ :: new) ++ w.log := congrArg _ hnew
  have hfree := releaseAll_free.exec he
  simp only [Prog.wp_bind, wp_assign, wp_publishActive]
  refine ⟨⟨hgov, hfree⟩, fun _ => ⟨trivial, fun err d _ _ => ?_⟩⟩
  cases err with
  | none => exact ⟨none, [], _, congrArg _ hlog, fun _ h => absurd h List.not_mem_nil, hbefore, rfl, rfl, rfl⟩
  | some err =>
      simp only [Prog.wp_bind, wp_assign, Prog.wp_pure]
      refine ⟨hfree, fun _ => ⟨some err, [⟨.assign .deactivate, ()⟩], _, congrArg _ (congrArg _ hlog), ?_, hbefore,
        rfl, rfl, rfl⟩⟩
      rintro e (_ | ⟨_, he⟩)
      · trivial
      · cases he

theorem changeControl_spec {control : Control} (henabled : control.enabled) (hloadable : control.Loadable) :
    (changeControl c control).wp (Step A) (Sound c) w fun r w' => ∃ published new, w'.log = new ++ w.log ∧
      (∀ base, Looks (.ok control) none base → Looks (.ok control) published (new ++ base)) ∧
      SyncOutcome c w.gov (.ok control) published r w'.gov.control w'.gov.active := by
  have hget : ∀ base, Looks (.ok control) none base →
      Looks (.ok control) none ([⟨.getGov, w.gov⟩] ++ base) := by
    refine fun base h => Looks.silent h ?_
    rintro e (_ | ⟨_, he⟩)
    · trivial
    · cases he
  simp only [changeControl, Prog.wp_bind, wp_getGov, Prog.wp_ite, Prog.wp_pure]
  refine ⟨trivial, fun _ => ⟨fun hsame => ⟨none, [_], rfl, hget, .unchanged henabled hsame⟩, fun hnew => ?_⟩⟩
  cases hvalid : validate c control with
  | some err => exact ⟨none, [_], rfl, hget, .rejected henabled hnew hvalid⟩
  | none =>
      refine (applyControl_spec ⟨henabled, hloadable, hvalid⟩).mono fun r w' h => ?_
      obtain ⟨err, later, before, hlog, hlater, hbefore, rfl, hcontrol, hactive⟩ := h
      refine ⟨some (control, err), later ++ ⟨.statusActive control, err⟩ :: (before ++ [⟨.getGov, w.gov⟩]), ?_, ?_, ?_⟩
      · rw [hlog]
        simp [World.after]
      · intro base hbase
        have h := (((hget base hbase).silent hbefore).publish control err).silent hlater
        simpa using h
      · rw [hcontrol, hactive]
        cases err with
        | none => exact .published henabled hnew hvalid
        | some err => exact .unpublished henabled hnew hvalid

theorem syncControl_spec : (syncControl c).wp (Step A) (Sound c) w fun r w' => Synced c w r w' := by
  rw [syncControl, Prog.wp_bind, wp_load]
  refine ⟨trivial, ?_⟩
  rintro (err | control) d _ hload
  · exact ⟨.error err, none, [_], rfl, looks_loaded, .failed⟩
  · refine Prog.wp_ite.mpr ⟨fun h => ?_, fun h => ?_⟩
    · rw [Prog.wp_bind]
      refine disable_sound.with_exec.mono fun _ w' hpost => ?_
      obtain ⟨hactive, he⟩ := hpost
      obtain ⟨new, hnew, hall⟩ := within_log disable_uses he
      refine ⟨.ok control, none, new ++ [⟨.loadControl, .ok control⟩], ?_, ?_, ?_⟩
      · rw [hnew, List.append_assoc]
        rfl
      · exact looks_loaded.silent fun e he => (hall e he).silent
      · exact hactive ▸ .disabled h
    · refine (changeControl_spec (Decidable.not_not.mp h) (loadControl_loads.result hload control rfl)).mono ?_
      rintro r w' ⟨published, new, hnew, hlooks, hout⟩
      refine ⟨.ok control, published, new ++ [⟨.loadControl, .ok control⟩], ?_, hlooks _ looks_loaded, hout⟩
      rw [hnew, List.append_assoc]
      rfl

end

/-! ## Agreement -/

section
variable {c : Config} {g : Governor} {w w₁ w' : World} {A : Answers} {loaded : Except GoError Control}
  {published : Option (Control × Option GoError)} {r : Option GoError} {control : Control} {active : Bool}

/-- With an error, `syncControl` does not make an inactive governor active. -/
theorem SyncOutcome.inactive {err : GoError} (h : SyncOutcome c g loaded published (some err) control active)
    (hactive : g.active = false) : active = false := by
  cases h with
  | unpublished => rfl
  | _ => exact hactive

/-- Without an error, the request that is followed is the one that was loaded. -/
theorem SyncOutcome.follows (h : SyncOutcome c g loaded published none control active) (hactive : active = true) :
    loaded = .ok control := by
  cases h with
  | disabled => cases hactive
  | unchanged _ hsame => rw [hsame.2]
  | published => rfl

theorem SyncOutcome.active_iff (hinv : Inv c g) (h : SyncOutcome c g loaded published none control active) :
    active = true ↔ ∃ control', loaded = .ok control' ∧ control'.enabled ∧ validate c control' = none ∧
      ((g.active ∧ control' = g.control) ∨ published = some (control', none)) := by
  cases h with
  | disabled hdisabled =>
      refine iff_of_false Bool.false_ne_true ?_
      rintro ⟨_, ⟨⟩, henabled, -⟩
      exact hdisabled henabled
  | unchanged henabled hsame =>
      refine ⟨fun _ => ⟨_, rfl, henabled, ?_, .inl hsame⟩, fun _ => hsame.1⟩
      exact hsame.2 ▸ (hinv.governs hsame.1).validated
  | published henabled _ hvalid => exact ⟨fun _ => ⟨_, rfl, henabled, hvalid, .inr rfl⟩, fun _ => rfl⟩

/-- When `syncControl` returns an error, the request was not valid or could not be published. -/
theorem SyncOutcome.error {err : GoError} (h : SyncOutcome c g loaded published (some err) control active) :
    ¬ ∃ control', loaded = .ok control' ∧ control'.enabled ∧ validate c control' = none ∧
      ((g.active ∧ control' = g.control) ∨ published = some (control', none)) := by
  rintro ⟨control', hloaded, -, hvalid', hfollowed⟩
  cases h with
  | failed => cases hloaded
  | rejected _ _ herr =>
      cases hloaded
      rw [hvalid'] at herr
      cases herr
  | unpublished _ hnew _ =>
      cases hloaded
      rcases hfollowed with hsame | hpub
      · exact hnew hsame
      · cases hpub

/-- What follows `syncControl` in a tick keeps the outcome, or gives up after an error. -/
theorem agreed_of_synced {more : List Event} (hinv : Inv c w.gov) (h : Synced c w r w₁) (hlog : w'.log = more ++ w₁.log)
    (hmore : ∀ e ∈ more, e.1.Silent) (hok : r = none → w'.gov = w₁.gov)
    (herr : ∀ err, r = some err → w'.gov.active = false) : Agreed c w w' := by
  obtain ⟨loaded, published, new, hnew, hlooks, hout⟩ := h
  have hlooks' := hlooks.silent hmore
  have hsince : w'.since w = more ++ new := World.since_eq (by rw [hlog, hnew, List.append_assoc])
  cases r with
  | none =>
      have hgov := hok rfl
      refine ⟨⟨loaded, fun r' => hsince ▸ hlooks'.loads r'⟩, ?_, fun hactive => ?_⟩
      · simp only [hsince, hlooks'.loads, hlooks'.publishes, hgov, eq_comm (b := loaded)]
        exact hout.active_iff hinv
      · rw [hsince, hlooks'.loads, hgov]
        exact (hout.follows (hgov ▸ hactive)).symm
  | some err =>
      have hinactive := herr err rfl
      refine ⟨⟨loaded, fun r' => hsince ▸ hlooks'.loads r'⟩, ?_, fun hactive => ?_⟩
      · simp only [hsince, hlooks'.loads, hlooks'.publishes, hinactive, eq_comm (b := loaded)]
        exact iff_of_false Bool.false_ne_true hout.error
      · rw [hinactive] at hactive
        cases hactive

end

/-! ## Ticks -/

section
variable {c : Config} {w : World} {A : Answers}

/-- After an error of `syncControl`, the governor gives up. -/
theorem agreed_of_givesUp {w₁ : World} {err : GoError} {p : Gov Unit} (hinv : Inv c w.gov)
    (h : Synced c w (some err) w₁) (huses : p.Uses (Op.GivesUp c))
    (hp : p.wp (Step A) (Sound c) w₁ fun _ w' => w'.gov.active = false) :
    p.wp (Step A) (Sound c) w₁ fun _ w' => Agreed c w w' := by
  refine hp.with_exec.mono fun _ w' ⟨hactive, he⟩ => ?_
  obtain ⟨more, hlog, hall⟩ := within_log huses he
  exact agreed_of_synced hinv h hlog (fun e he => (hall e he).silent) (fun h => nomatch h) fun _ _ => hactive

theorem agreed_of_nothing {w₁ : World} {r : Option GoError} (hinv : Inv c w.gov) (h : Synced c w r w₁)
    (herr : ∀ err, r = some err → w₁.gov.active = false) : Agreed c w w₁ :=
  agreed_of_synced hinv h (List.nil_append _).symm (fun _ h => absurd h List.not_mem_nil) (fun _ => rfl) herr

theorem startup_spec (hinv : Inv c w.gov) (hactive : w.gov.active = false) :
    (startup c).wp (Step A) (Sound c) w fun _ w' => Agreed c w w' := by
  rw [startup, Prog.wp_bind]
  refine (inv_of_sound syncControl_spec hinv).mono fun r w₁ hpost => ?_
  obtain ⟨hsync, hinv₁⟩ := hpost
  cases r with
  | none => exact agreed_of_nothing hinv hsync fun _ h => by cases h
  | some err =>
      refine Prog.wp_ite.mpr ⟨fun _ => agreed_of_givesUp hinv hsync (fail_uses err) (fail_sound hinv₁), fun _ => ?_⟩
      refine agreed_of_nothing hinv hsync fun _ _ => ?_
      obtain ⟨_, _, _, _, _, hout⟩ := hsync
      exact hout.inactive hactive

theorem controlTick_spec (hinv : Inv c w.gov) : (controlTick c).wp (Step A) (Sound c) w fun _ w' => Agreed c w w' := by
  rw [controlTick, Prog.wp_bind]
  refine (inv_of_sound syncControl_spec hinv).mono fun r w₁ hpost => ?_
  obtain ⟨hsync, hinv₁⟩ := hpost
  cases r with
  | none => exact agreed_of_nothing hinv hsync fun _ h => by cases h
  | some err =>
      exact Prog.wp_ite.mpr ⟨fun _ => agreed_of_givesUp hinv hsync disable_uses disable_sound,
        fun _ => agreed_of_givesUp hinv hsync (fail_uses err) (fail_sound hinv₁)⟩

theorem gpuTick_spec (hinv : Inv c w.gov) :
    (gpuTick c).wp (Step A) (Sound c) w fun _ w' => w'.gov.active → w.gov.active := by
  simp only [gpuTick, Prog.wp_bind, wp_getGov, Prog.wp_ite, Prog.wp_pure]
  refine ⟨trivial, fun _ => ⟨fun hactive => ?_, fun _ h => h⟩⟩
  refine (inv_of_sound (poll_sound (w := w.next .getGov w.gov) hactive) hinv).mono fun r w₁ hpost => ?_
  obtain ⟨_, hinv₁⟩ := hpost
  cases r with
  | none => exact fun _ => hactive
  | some err => exact (fail_sound hinv₁).mono fun _ _ _ _ => hactive

/-! ## Runs -/

/-- What holds at the labels of `Run`. -/
structure RunInv (c : Config) (l : Label) (w : World) : Prop where
  inv : Inv c w.gov
  inactive : l ≠ .wait → w.gov.active = false

theorem run_sound {l : Label} (h : RunInv c l w) : (run c l).wp (Step A) (Sound c) w
    (Goto.Post (RunInv c) fun _ w' => Inv c w'.gov) := by
  cases l with
  | entry =>
      simp only [run, Prog.wp_bind, Prog.wp_pure]
      refine (inv_of_sound (sound_of_releases cleanup_uses) h.inv).mono fun _ w' hpost => ?_
      obtain ⟨he, hinv⟩ := hpost
      refine ⟨hinv, fun _ => ?_⟩
      have hkeep := within_keepsControl cleanup_uses (fun _ h => h.keepsControl) he
      exact hkeep.2.trans (h.inactive (by decide))
  | startup =>
      simp only [run, Prog.wp_bind, Prog.wp_pure]
      refine (inv_of_sound (startup_spec h.inv (h.inactive (by decide))) h.inv).mono fun _ w' hpost => ?_
      obtain ⟨_, hinv⟩ := hpost
      exact ⟨hinv, fun h => absurd rfl h⟩
  | wait =>
      rw [run, Prog.wp_bind, wp_select]
      refine ⟨trivial, ?_⟩
      have hinv : ∀ a, Inv c (w.next .select a).gov := fun _ => h.inv
      rintro (_ | _ | _) _
      · simp only [Prog.wp_bind, Prog.wp_pure]
        refine (inv_of_sound (sound_of_releases cleanup_uses) (hinv _)).mono fun _ w' hpost => ?_
        obtain ⟨_, hinv'⟩ := hpost
        exact hinv'
      · simp only [Prog.wp_bind, Prog.wp_pure]
        refine (inv_of_sound (controlTick_spec (hinv _)) (hinv _)).mono fun _ w' hpost => ?_
        obtain ⟨_, hinv'⟩ := hpost
        exact ⟨hinv', fun h => absurd rfl h⟩
      · simp only [Prog.wp_bind, Prog.wp_pure]
        refine (inv_of_sound (gpuTick_spec (hinv _)) (hinv _)).mono fun _ w' hpost => ?_
        obtain ⟨_, hinv'⟩ := hpost
        exact ⟨hinv', fun h => absurd rfl h⟩

theorem runInv_start (cards : Int → Card) (dir : Dir) : RunInv c .entry (start c cards dir) :=
  ⟨inv_newGovernor, fun _ => rfl⟩

variable {cards : Int → Card} {dir : Dir} {l : Label}

theorem ComesTo.runInv (h : ComesTo c A cards dir l w) : RunInv c l w :=
  Goto.reaches_of_wp (fun _ _ h => run_sound h) (runInv_start cards dir) h

theorem Ends.inv (h : Ends c A cards dir w) : Inv c w.gov :=
  Goto.call_of_wp (fun _ _ h => run_sound h) (runInv_start cards dir) h

/-- The invariant holds wherever an operation is issued. -/
theorem Issues.inv {o : Op} (h : Issues c A cards dir o w) : Inv c w.gov :=
  Goto.issues_inv (I := fun w => Inv c w.gov) (fun _ _ h => run_sound h) (fun _ _ _ _ => Inv.step)
    (runInv_start cards dir) inv_newGovernor h

/-- `Run` returns after a `Cleanup`. -/
theorem run_free (l : Label) : (run c l).wp (Step A) always w
    (Goto.Post (fun _ _ => True) fun _ w' => ∀ i, SupportedIndex c i → w'.gov.Free i) := by
  cases l with
  | entry | startup =>
      simp only [run, Prog.wp_bind, Prog.wp_pure]
      exact Prog.wp_exec.mono fun _ _ _ => trivial
  | wait =>
      rw [run, Prog.wp_bind, wp_select]
      refine ⟨trivial, ?_⟩
      rintro (_ | _ | _) _
      · simp only [Prog.wp_bind, Prog.wp_pure]
        exact cleanup_free.mono fun _ w' hfree i hi => hfree i (.inl hi)
      · simp only [Prog.wp_bind, Prog.wp_pure]
        exact Prog.wp_exec.mono fun _ _ _ => trivial
      · simp only [Prog.wp_bind, Prog.wp_pure]
        exact Prog.wp_exec.mono fun _ _ _ => trivial

theorem Ends.free (h : Ends c A cards dir w) {i : Int} (hi : SupportedIndex c i) : w.gov.Free i := by
  obtain ⟨l, w₁, -, he⟩ := h
  exact (run_free l).exec he i hi

end

end Cmp50Unlock.IdleGovernor
