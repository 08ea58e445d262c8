import Cmp50Unlock.IdleGovernor.Lemmas.Card
import Cmp50Unlock.IdleGovernor.Status

/-!
# Writing the status files

What the status programs leave in the directory when their calls succeed, and which of them was the last one whenever
`Run` waits.
-/

namespace Cmp50Unlock.IdleGovernor

open Lib

/-! ## The programs of the status files -/

/-- The name is not one that `writeAtomic` writes to first. -/
def Visible (name : String) : Prop := name.toList.head? ≠ some '.'

instance (name : String) : Decidable (Visible name) := inferInstanceAs (Decidable (_ ≠ _))

/-- No guard on the calls. -/
abbrev anyCall : Dir → FileOp → Prop := fun _ _ => True

section
variable {d d' : Dir} {name name' : String} {content : List UInt8}

theorem temporaryName_ne {random : List UInt8} (h : Visible name') : temporaryName name random ≠ name' := by
  rintro rfl
  exact h (by simp [temporaryName])

@[simp] theorem set_same (d : Dir) (name : String) (x : Option (List UInt8)) : d.set name x name = x := if_pos rfl

theorem set_other {x : Option (List UInt8)} (h : name' ≠ name) : d.set name x name' = d name' := if_neg h

/-- Filling a temporary file gives its name to the content. -/
theorem writeTemporary_ok {temporary : String} (htemp : d temporary = some []) (hne : temporary ≠ name) :
    (writeTemporary temporary name content).wp FileOk anyCall d fun r d' => r = none ∧ d' name = some content ∧
      d' temporary = none ∧ ∀ n, n ≠ temporary → n ≠ name → d' n = d n := by
  rw [writeTemporary, Prog.wp_bind, writeString, Prog.wp_lift]
  refine ⟨trivial, ?_⟩
  rintro (_ | err) d₁ ⟨hd₁, hok⟩
  · obtain rfl := hd₁
    rw [Prog.wp_bind, sync, Prog.wp_lift]
    refine ⟨trivial, ?_⟩
    rintro (_ | err) d₂ ⟨hd₂, hok⟩
    · obtain rfl := hd₂
      rw [Prog.wp_bind, close, Prog.wp_lift]
      refine ⟨trivial, ?_⟩
      rintro (_ | err) d₃ ⟨hd₃, hok⟩
      · obtain rfl := hd₃
        rw [renameat, Prog.wp_lift]
        refine ⟨trivial, ?_⟩
        rintro (_ | err) d₄ ⟨hd₄, hok⟩
        · obtain ⟨-, rfl⟩ := hd₄
          refine ⟨rfl, ?_, set_same _ _ _, fun n hn hn' => ?_⟩
          · rw [set_other hne.symm, set_same, set_same, htemp]
            rfl
          · rw [set_other hn, set_other hn', set_other hn]
        · cases hok
      · cases hok
    · cases hok
  · cases hok

theorem writeAtomic_ok (hname : Visible name) : (writeAtomic name content).wp FileOk anyCall d fun r d' =>
    r = none ∧ d' name = some content ∧ ∀ n, Visible n → n ≠ name → d' n = d n := by
  rw [writeAtomic, Prog.wp_bind, openDirectory, Prog.wp_lift]
  refine ⟨trivial, ?_⟩
  rintro (_ | err) d₁ ⟨hd₁, hok⟩
  · obtain rfl := hd₁
    rw [Prog.wp_bind, randRead, Prog.wp_lift]
    refine ⟨trivial, ?_⟩
    rintro (err | random) d₂ ⟨hd₂, hok⟩
    · obtain ⟨random, hrandom⟩ := hok
      cases hrandom
    · obtain rfl := hd₂
      have hne : ∀ n, Visible n → temporaryName name random ≠ n := fun n hn => temporaryName_ne hn
      rw [Prog.wp_bind, create, Prog.wp_lift]
      refine ⟨trivial, ?_⟩
      rintro (_ | err) d₃ ⟨hd₃, hok⟩
      · obtain ⟨-, rfl⟩ := hd₃
        rw [Prog.wp_bind]
        refine (writeTemporary_ok (set_same _ _ _) (hne name hname)).mono fun r d₄ ⟨hr, hcontent, htemp, hother⟩ => ?_
        rw [Prog.wp_bind, unlinkat, Prog.wp_lift]
        refine ⟨trivial, ?_⟩
        rintro (_ | err) d₅ ⟨hd₅, hok⟩
        · have hthere := hd₅.1
          rw [htemp] at hthere
          cases hthere
        · obtain ⟨-, rfl⟩ := hd₅
          refine ⟨hr, hcontent, fun n hn hn' => ?_⟩
          rw [hother n (hne n hn).symm hn', set_other (hne n hn).symm]
      · cases hok
  · cases hok

theorem remove_ok : (remove name).wp FileOk anyCall d fun r d' =>
    r = none ∧ d' name = none ∧ ∀ n, n ≠ name → d' n = d n := by
  rw [remove, Prog.wp_bind, openDirectory, Prog.wp_lift]
  refine ⟨trivial, ?_⟩
  rintro (_ | err) d₁ ⟨hd₁, hok⟩
  · obtain rfl := hd₁
    rw [Prog.wp_bind, unlinkat, Prog.wp_lift]
    refine ⟨trivial, ?_⟩
    rintro (_ | err) d₂ ⟨hd₂, hok⟩
    · obtain ⟨-, rfl⟩ := hd₂
      exact ⟨rfl, set_same _ _ _, fun n hn => set_other hn⟩
    · obtain ⟨hgone, rfl⟩ := hd₂
      have hmissing : err.isNotExist = true := hok err rfl
      exact ⟨if_pos hmissing, hgone hmissing, fun _ _ => rfl⟩
  · cases hok

/-- What the files say of an active governor. -/
theorem statusActive_ok {control : Control} : (statusActive control).wp FileOk anyCall d fun r d' =>
    r = none ∧ Shows d' control ∧ d' "last-error" = none := by
  rw [statusActive, Prog.wp_bind]
  refine (writeAtomic_ok (by decide)).mono fun r d₁ ⟨hr, hprofile, _⟩ => ?_
  subst hr
  rw [Prog.wp_bind]
  refine (writeAtomic_ok (by decide)).mono fun r d₂ ⟨hr, hfan, hother⟩ => ?_
  subst hr
  refine remove_ok.mono fun r d₃ ⟨hr, hgone, hother₃⟩ => ⟨hr, ⟨?_, ?_⟩, hgone⟩
  · rw [hother₃ _ (by decide), hother _ (by decide) (by decide), hprofile]
  · rw [hother₃ _ (by decide), hfan]

/-- No file shows a request. -/
structure ShowsNothing (dir : Dir) : Prop where
  profile : dir "active-profile" = none
  fan : dir "active-fan-percent" = none

theorem statusInactive_ok : statusInactive.wp FileOk anyCall d fun _ d' =>
    ShowsNothing d' ∧ d' "last-error" = d "last-error" := by
  rw [statusInactive, Prog.wp_bind]
  refine remove_ok.mono fun r d₁ ⟨hr, hprofile, hother⟩ => ?_
  subst hr
  refine remove_ok.mono fun r d₂ ⟨hr, hfan, hother₂⟩ => ⟨⟨?_, hfan⟩, ?_⟩
  · rw [hother₂ _ (by decide), hprofile]
  · rw [hother₂ _ (by decide), hother _ (by decide)]

theorem statusError_ok {err : GoError} : (statusError err).wp FileOk anyCall d fun _ d' =>
    ShowsNothing d' ∧ d' "last-error" ≠ none := by
  rw [statusError, Prog.wp_bind]
  refine statusInactive_ok.mono fun _ d₁ ⟨hshows, _⟩ => ?_
  rw [Prog.wp_bind]
  refine (writeAtomic_ok (by decide)).mono fun r d₂ ⟨_, herror, hother⟩ => ⟨⟨?_, ?_⟩, ?_⟩
  · rw [hother _ (by decide) (by decide), hshows.profile]
  · rw [hother _ (by decide) (by decide), hshows.fan]
  · rw [herror]
    exact Option.some_ne_none _

/-! ## Looking at the request -/

/-- A call that changes no status file. -/
def FileOp.Reads : FileOp → Prop
  | .openDirectory | .openControl | .stat | .readAll | .decode _ | .decodeNext _ => True
  | _ => False

theorem decodeControl_reads (data : List UInt8) : (decodeControl data).Uses FileOp.Reads := by
  simp only [decodeControl, Prog.Uses, Prog.within_bind, within_decode]
  refine ⟨trivial, ?_⟩
  rintro (err | control)
  · trivial
  · simp only [Prog.within_bind, within_decodeNext]
    refine ⟨trivial, ?_⟩
    rintro (_ | _) <;> trivial

theorem readControl_reads : readControl.Uses FileOp.Reads := by
  simp only [readControl, Prog.Uses, Prog.within_bind, within_stat]
  refine ⟨trivial, ?_⟩
  rintro (err | info)
  · trivial
  · simp only [Prog.within_ite, Prog.within_bind, within_readAll, Prog.within_pure]
    refine ⟨fun _ => trivial, fun _ => ⟨fun _ => trivial, fun _ => ⟨trivial, ?_⟩⟩⟩
    rintro (err | data)
    · trivial
    · exact Prog.within_ite.mpr ⟨fun _ => trivial, fun _ => decodeControl_reads data⟩

theorem loadControl_reads : loadControl.Uses FileOp.Reads := by
  simp only [loadControl, Prog.Uses, Prog.within_bind, within_openDirectory]
  refine ⟨trivial, ?_⟩
  rintro (_ | err)
  · simp only [Prog.within_bind, within_openControl]
    refine ⟨trivial, ?_⟩
    rintro (_ | err)
    · exact readControl_reads
    · trivial
  · trivial

theorem loadControl_keeps {r : Except GoError Control} (he : loadControl.Exec FileStep d r d') : d' = d :=
  (loadControl_reads.exec (I := fun d' => d' = d) (fun o d₁ a d₂ ho hst hd => by
    cases o <;> first | exact ho.elim | exact Eq.trans hst hd) he rfl).2

end

/-! ## The last word -/

/-- What the status files were last set to: a request, or none. -/
def lastStatus : List Event → Option (Option Control)
  | [] => none
  | ⟨.statusActive control, _⟩ :: _ => some (some control)
  | ⟨.statusInactive, _⟩ :: _ | ⟨.statusError _, _⟩ :: _ => some none
  | _ :: log => lastStatus log

/-- The operation does not touch the status files. -/
def Op.Mute : Op → Prop
  | .statusActive _ | .statusInactive | .statusError _ => False
  | _ => True

/-- The directory is as the log says. -/
structure Written (dir : Dir) (log : List Event) (d : Dir) : Prop where
  untouched : lastStatus log = none → d = dir
  active : ∀ control, lastStatus log = some (some control) → Shows d control ∧ d "last-error" = none
  inactive : lastStatus log = some none → ShowsNothing d
  error : failed log → d "last-error" ≠ none

section
variable {c : Config} {dir d : Dir} {w w' : World} {o : Op} {a : o.Ans} {log : List Event}

theorem Op.Mute.says (h : o.Mute) :
    lastStatus (⟨o, a⟩ :: log) = lastStatus log ∧ failed (⟨o, a⟩ :: log) = failed log := by
  cases o <;> first | exact h.elim | exact ⟨rfl, rfl⟩

theorem Op.Mute.keepsDir {A : Answers} (h : o.Mute) (hst : Step A o w a w') : w'.dir = w.dir := by
  obtain ⟨-, d, hadmits, rfl⟩ := hst
  cases o with
  | statusActive control | statusInactive | statusError err => exact h.elim
  | loadControl => exact loadControl_keeps hadmits
  | getGov => exact hadmits.2
  | rangeStates => exact hadmits.2
  | _ => exact hadmits

/-- A publication that is reliable succeeds. -/
theorem StatusStep.published {control : Control} {err : Option GoError}
    (h : StatusStep (.statusActive control) w err w') :
    err = none :=
  (statusActive_ok.exec h.2).1

theorem Written.mute {A : Answers} (h : Written dir w.log w.dir) (ho : o.Mute) (hst : Step A o w a w') :
    Written dir w'.log w'.dir := by
  have hlast : lastStatus (⟨o, a⟩ :: w.log) = lastStatus w.log := ho.says.1
  have hfailed : failed (⟨o, a⟩ :: w.log) = failed w.log := ho.says.2
  rw [hst.log, ho.keepsDir hst]
  exact ⟨fun hnone => h.untouched (hlast ▸ hnone), fun control hactive => h.active control (hlast ▸ hactive),
    fun hinactive => h.inactive (hlast ▸ hinactive), fun hfail => h.error (hfailed ▸ hfail)⟩

theorem Written.step (hst : StatusStep o w a w') (h : Written dir w.log w.dir) : Written dir w'.log w'.dir := by
  have hlog := hst.1.log
  cases o with
  | statusActive control =>
      obtain rfl := hst.published
      obtain ⟨-, hshows, herror⟩ := statusActive_ok.exec hst.2
      rw [hlog]
      exact ⟨nofun, fun control' h => Option.some.inj (Option.some.inj h) ▸ ⟨hshows, herror⟩, nofun, nofun⟩
  | statusInactive =>
      obtain ⟨hshows, herror⟩ := statusInactive_ok.exec hst.2
      rw [hlog]
      refine ⟨nofun, nofun, fun _ => hshows, fun hfailed => ?_⟩
      rw [herror]
      exact h.error hfailed
  | statusError err =>
      obtain ⟨hshows, herror⟩ := statusError_ok.exec hst.2
      rw [hlog]
      exact ⟨nofun, nofun, fun _ => hshows, fun _ => herror⟩
  | _ => exact h.mute (by trivial) hst.1

theorem written_nil (dir : Dir) : Written dir [] dir := ⟨fun _ => rfl, nofun, nofun, nofun⟩

end

/-! ## What is reported -/

/-- The last word of the status files, beside what it should be about. -/
structure Report where
  last : Option (Option Control)
  looks : List (Except GoError Control)
  control : Control
  active : Bool

def World.report (w : World) : Report := ⟨lastStatus w.log, IdleGovernor.looks w.log, w.gov.control, w.gov.active⟩

/-- The operation is not about a request. -/
def Op.Inner : Op → Prop
  | .loadControl | .statusActive _ | .statusInactive | .statusError _ | .assign (.activate _) | .assign .deactivate =>
      False
  | _ => True

/-- What `syncControl` makes of a report, when the publication succeeds. -/
inductive SyncReport (x : Report) : Option GoError → Report → Prop where
  | failed (err : GoError) : SyncReport x (some err) { x with looks := .error err :: x.looks }
  | disabled (control : Control) :
      SyncReport x none { x with looks := .ok control :: x.looks, last := some none, active := false }
  | unchanged (control : Control) (h : x.active = true) : SyncReport x none { x with looks := .ok control :: x.looks }
  | rejected (control : Control) {err : GoError} (h : err.isNotExist = false) :
      SyncReport x (some err) { x with looks := .ok control :: x.looks }
  | applied (control : Control) : SyncReport x none ⟨some (some control), .ok control :: x.looks, control, true⟩

/-- Every publication of a request succeeds. -/
def statusSucceeds : Answers
  | .statusActive _, err => err = none
  | _, _ => True

section
variable {c : Config} {A : Answers} {w w' : World} {o : Op} {a : o.Ans} {d : Dir}

theorem Op.Inner.report (h : o.Inner) : (w.after o a d).report = w.report := by
  cases o with
  | assign x => cases x <;> first | exact h.elim | rfl
  | _ => first | exact h.elim | rfl

theorem Op.Releases.inner (h : o.Releases c) : o.Inner := by
  cases o with
  | assign x => cases x <;> first | exact h.elim | trivial
  | _ => first | exact h.elim | trivial

theorem Op.Polls.inner {i : Int} (h : o.Polls c i) : o.Inner := by
  rcases h with rfl | h
  · trivial
  · cases o with
    | assign x => cases x <;> first | exact h.elim | trivial
    | _ => first | exact h.elim | trivial

theorem within_report {α : Type} {p : Gov α} {S : Op → Prop} {Q : α → Prop} {r : α} (hp : p.Within S Q)
    (hS : ∀ o, S o → o.Inner) (he : p.Exec (Step A) w r w') : w'.report = w.report :=
  within_keeps World.report hp (fun _ _ _ _ ho => (hS _ ho).report) he

theorem releaseAll_report : (releaseAll c).wp (Step A) always w fun _ w' => w'.report = w.report :=
  Prog.wp_exec.mono fun _ _ => within_report releaseAll_uses fun _ h => h.inner

theorem cleanup_report : (cleanup c).wp (Step A) always w fun _ w' => w'.report = w.report :=
  Prog.wp_exec.mono fun _ _ => within_report cleanup_uses fun _ h => h.inner

theorem poll_report : (poll c).wp (Step A) always w fun _ w' => w'.report = w.report :=
  Prog.wp_exec.mono fun _ _ => within_report poll_uses fun o ho => by
    rcases ho with rfl | ⟨i, ho⟩
    · trivial
    · exact ho.inner

/-- A request was given up. -/
def Report.givenUp (x : Report) : Report := { x with last := some none, active := false }

theorem disable_report : (disable c).wp (Step A) always w fun _ w' => w'.report = w.report.givenUp := by
  simp only [disable, Prog.wp_bind, wp_assign, wp_publishInactive, Prog.wp_pure, true_and]
  refine releaseAll_report.mono fun _ w₁ h _ _ _ _ _ => ?_
  rw [← h]
  rfl

theorem fail_report (err : GoError) : (fail c err).wp (Step A) always w fun _ w' => w'.report = w.report.givenUp := by
  simp only [fail, Prog.wp_bind, wp_assign, wp_publishError, true_and]
  refine cleanup_report.mono fun _ w₁ h _ _ _ _ => ?_
  rw [← h]
  rfl

theorem validateGPU_new {k : Nat} {gpu : GPU} {err : GoError} (h : validateGPU k gpu = some err) :
    err.isNotExist = false := by
  simp only [validateGPU] at h
  split at h
  · cases h; rfl
  · split at h
    · cases h; rfl
    · split at h
      · cases h; rfl
      · split at h
        · cases h; rfl
        · cases h

theorem validate_new {control : Control} {err : GoError} (h : validate c control = some err) :
    err.isNotExist = false := by
  unfold validate at h
  split at h
  · cases h; rfl
  · obtain ⟨x, -, hx⟩ := List.exists_of_findSome?_eq_some h
    exact validateGPU_new hx

theorem syncControl_report : (syncControl c).wp (Step statusSucceeds) always w fun r w' =>
    SyncReport w.report r w'.report := by
  rw [syncControl, Prog.wp_bind, wp_load]
  refine ⟨trivial, ?_⟩
  rintro (err | control) d _ _
  · exact .failed err
  · refine Prog.wp_ite.mpr ⟨fun _ => ?_, fun _ => ?_⟩
    · rw [Prog.wp_bind]
      refine disable_report.mono fun _ w' h => ?_
      rw [Prog.wp_pure, h]
      exact .disabled control
    · simp only [changeControl, Prog.wp_bind, wp_getGov, Prog.wp_ite, Prog.wp_pure, true_and]
      refine fun _ => ⟨fun hsame => .unchanged control hsame.1, fun _ => ?_⟩
      cases hvalid : validate c control with
      | some err => exact .rejected control (validate_new hvalid)
      | none =>
          simp only [applyControl, Prog.wp_bind, wp_assign, wp_publishActive, true_and]
          refine releaseAll_report.mono fun _ w₁ h _ err d herr _ => ?_
          obtain rfl : err = none := herr
          have hlooks : looks w₁.log = .ok control :: looks w.log := congrArg Report.looks h
          rw [Prog.wp_pure, World.report]
          change SyncReport _ _ ⟨some (some control), looks w₁.log, control, true⟩
          rw [hlooks]
          exact .applied control

end

/-! ## Ticks -/

/-- The last word is the request that is followed, and there is none only after a first look that found nothing. -/
structure Report.Waits (x : Report) : Prop where
  shown : ∀ control, x.last = some (some control) ↔ x.active = true ∧ x.control = control
  silent : x.last = none ↔ ∃ err, x.looks = [.error err] ∧ err.isNotExist
  looked : x.looks ≠ []

/-- Before the first look. -/
structure Report.Fresh (x : Report) : Prop where
  last : x.last = none
  looks : x.looks = []
  active : x.active = false

section
variable {x y : Report}

theorem Report.waits_givenUp (hlooks : x.looks ≠ []) (hseen : ¬ ∃ err, x.looks = [.error err] ∧ err.isNotExist) :
    x.givenUp.Waits where
  shown _ := iff_of_false nofun fun h => nomatch h.1
  silent := iff_of_false nofun hseen
  looked := hlooks

/-- An active governor has published its request. -/
theorem Report.Waits.last_ne (h : x.Waits) (hactive : x.active = true) : x.last ≠ none := by
  rw [(h.shown x.control).mpr ⟨hactive, rfl⟩]
  exact Option.some_ne_none _

/-- A later look is not the first one. -/
theorem Report.Waits.seen (h : x.Waits) (r : Except GoError Control) :
    ¬ ∃ err, r :: x.looks = [.error err] ∧ err.isNotExist := by
  rintro ⟨err, heq, -⟩
  exact h.looked (List.cons.inj heq).2

/-- The first look, whose errors are failures unless there was no request. -/
theorem Report.Fresh.waits {r : Option GoError} (hx : x.Fresh) (h : SyncReport x r y) :
    (∀ err, r = some err → err.isNotExist = false → y.givenUp.Waits) ∧
      ((∀ err, r = some err → err.isNotExist = true) → y.Waits) := by
  cases h with
  | failed err =>
      have hlooks : (.error err :: x.looks : List (Except GoError Control)) = [.error err] := by rw [hx.looks]
      refine ⟨?_, fun herr => ⟨fun control => ?_, ?_, nofun⟩⟩
      · rintro err' ⟨⟩ herr
        refine Report.waits_givenUp nofun ?_
        rintro ⟨err', heq, herr'⟩
        rw [Except.error.inj (List.cons.inj (hlooks.symm.trans heq)).1, herr'] at herr
        cases herr
      · rw [hx.last, hx.active]
        exact iff_of_false nofun fun h => nomatch h.1
      · exact iff_of_true hx.last ⟨err, hlooks, herr err rfl⟩
  | disabled control =>
      refine ⟨nofun, fun _ => ⟨fun _ => iff_of_false nofun fun h => (nomatch h.1), iff_of_false nofun ?_, nofun⟩⟩
      rintro ⟨err, heq, -⟩
      cases heq
  | unchanged control hactive =>
      rw [hx.active] at hactive
      cases hactive
  | rejected control hnew =>
      refine ⟨fun err _ _ => Report.waits_givenUp nofun ?_, fun herr => ?_⟩
      · rintro ⟨err, heq, -⟩
        cases heq
      · rw [herr _ rfl] at hnew
        cases hnew
  | applied control =>
      refine ⟨nofun, fun _ => ⟨fun control' => ?_, iff_of_false nofun ?_, nofun⟩⟩
      · exact ⟨fun h => ⟨rfl, Option.some.inj (Option.some.inj h)⟩, fun h => congrArg (some ∘ some) h.2⟩
      · rintro ⟨err, heq, -⟩
        cases heq

/-- A later look, whose errors all end the activation. -/
theorem Report.Waits.sync {r : Option GoError} (hx : x.Waits) (h : SyncReport x r y) :
    y.givenUp.Waits ∧ (r = none → y.Waits) := by
  cases h with
  | failed err => exact ⟨Report.waits_givenUp nofun (hx.seen _), nofun⟩
  | disabled control =>
      exact ⟨Report.waits_givenUp nofun (hx.seen _), fun _ =>
        ⟨fun _ => iff_of_false nofun fun h => (nomatch h.1), iff_of_false nofun (hx.seen _), nofun⟩⟩
  | unchanged control hactive =>
      exact ⟨Report.waits_givenUp nofun (hx.seen _), fun _ =>
        ⟨hx.shown, iff_of_false (hx.last_ne hactive) (hx.seen _), nofun⟩⟩
  | rejected control => exact ⟨Report.waits_givenUp nofun (hx.seen _), nofun⟩
  | applied control =>
      refine ⟨Report.waits_givenUp nofun (hx.seen _), fun _ =>
        ⟨fun control' => ?_, iff_of_false nofun (hx.seen _), nofun⟩⟩
      exact ⟨fun h => ⟨rfl, Option.some.inj (Option.some.inj h)⟩, fun h => congrArg (some ∘ some) h.2⟩

end

section
variable {c : Config} {w w' : World}

theorem startup_report (h : w.report.Fresh) :
    (startup c).wp (Step statusSucceeds) always w fun _ w' => w'.report.Waits := by
  rw [startup, Prog.wp_bind]
  refine syncControl_report.mono fun r w₁ hsync => ?_
  obtain ⟨hfail, hwait⟩ := h.waits hsync
  cases r with
  | none => exact hwait fun _ h => by cases h
  | some err =>
      refine Prog.wp_ite.mpr ⟨fun herr => (fail_report err).mono fun _ w₂ h₂ => ?_, fun herr => hwait ?_⟩
      · rw [h₂]
        exact hfail err rfl (Bool.eq_false_iff.mpr herr)
      · rintro err' ⟨⟩
        exact Decidable.not_not.mp herr

theorem controlTick_report (h : w.report.Waits) :
    (controlTick c).wp (Step statusSucceeds) always w fun _ w' => w'.report.Waits := by
  rw [controlTick, Prog.wp_bind]
  refine syncControl_report.mono fun r w₁ hsync => ?_
  obtain ⟨hgiven, hwait⟩ := h.sync hsync
  cases r with
  | none => exact hwait rfl
  | some err =>
      refine Prog.wp_ite.mpr ⟨fun _ => disable_report.mono fun _ w₂ h₂ => ?_, fun _ =>
        (fail_report err).mono fun _ w₂ h₂ => ?_⟩
      · rwa [h₂]
      · rwa [h₂]

theorem gpuTick_report (h : w.report.Waits) :
    (gpuTick c).wp (Step statusSucceeds) always w fun _ w' => w'.report.Waits := by
  simp only [gpuTick, Prog.wp_bind, wp_getGov, Prog.wp_ite, Prog.wp_pure, true_and]
  refine fun _ => ⟨fun hactive => poll_report.mono fun r w₁ h₁ => ?_, fun _ => h⟩
  have hw₁ : w₁.report = w.report := h₁
  cases r with
  | none =>
      change w₁.report.Waits
      exact hw₁ ▸ h
  | some err =>
      refine (fail_report err).mono fun _ w₂ h₂ => ?_
      have hsilent := (not_congr h.silent).mp (h.last_ne hactive)
      rw [h₂, hw₁]
      exact Report.waits_givenUp h.looked hsilent

/-- The report at the labels. -/
def Reported : Label → World → Prop
  | .entry, w | .startup, w => w.report.Fresh
  | .wait, w => w.report.Waits

theorem run_report {l : Label} (h : Reported l w) :
    (run c l).wp (Step statusSucceeds) always w (Goto.Post Reported fun _ w' => w'.report.Waits) := by
  cases l with
  | entry =>
      simp only [run, Prog.wp_bind, Prog.wp_pure]
      refine cleanup_report.mono fun _ w' h' => ?_
      change w'.report.Fresh
      exact h' ▸ h
  | startup =>
      simp only [run, Prog.wp_bind, Prog.wp_pure]
      exact (startup_report h).mono fun _ _ h => h
  | wait =>
      have hw : ∀ a, (w.next .select a).report.Waits := fun _ => h
      rw [run, Prog.wp_bind, wp_select]
      refine ⟨trivial, ?_⟩
      rintro (_ | _ | _) _
      · simp only [Prog.wp_bind, Prog.wp_pure]
        refine cleanup_report.mono fun _ w' h' => ?_
        change w'.report.Waits
        exact h' ▸ hw .done
      · simp only [Prog.wp_bind, Prog.wp_pure]
        exact (controlTick_report (hw _)).mono fun _ _ h => h
      · simp only [Prog.wp_bind, Prog.wp_pure]
        exact (gpuTick_report (hw _)).mono fun _ _ h => h

/-! ## Runs -/

theorem StatusStep.succeeds {o : Op} {a : o.Ans} (h : StatusStep o w a w') : Step statusSucceeds o w a w' := by
  refine ⟨?_, h.1.2⟩
  cases o with
  | statusActive control => exact h.published
  | _ => trivial

variable {cards : Int → Card} {dir : Dir} {l : Label}

theorem reported_of_reaches (h : Goto.Reaches StatusStep (run c) .entry (start c cards dir) l w) : Reported l w :=
  Goto.reaches_of_wp (fun _ _ h => run_report h) (show Reported .entry _ from ⟨rfl, rfl, rfl⟩)
    (h.mono fun _ _ _ _ => StatusStep.succeeds)

theorem written_of_reaches (h : Goto.Reaches StatusStep (run c) .entry (start c cards dir) l w) :
    Written dir w.log w.dir :=
  h.keeps (I := fun w => Written dir w.log w.dir) (fun _ _ _ _ hst hw => hw.step hst) (written_nil dir)

theorem written_of_call (h : Goto.Call StatusStep (run c) .entry (start c cards dir) () w) :
    Written dir w.log w.dir ∧ w.report.Waits := by
  obtain ⟨l, w₁, hreach, he⟩ := h
  refine ⟨he.inv (I := fun w => Written dir w.log w.dir) (fun _ _ _ _ hst hw => hw.step hst)
    (written_of_reaches hreach), ?_⟩
  exact (run_report (reported_of_reaches hreach)).exec (he.mono fun _ _ _ _ => StatusStep.succeeds)

/-- A published request is told while the governor runs. -/
theorem told_active {running : Prop} (hactive : w.gov.active = true) (hshows : Shows w.dir w.gov.control)
    (hnone : w.dir "last-error" = none) (herror : failed w.log → w.dir "last-error" ≠ none) :
    Told running w ↔ running := by
  have hprofile : w.dir "active-profile" ≠ none := by simp [hshows.profile]
  have hfan : w.dir "active-fan-percent" ≠ none := by simp [hshows.fan]
  refine ⟨fun h => (h.profile.mp hprofile).1, fun h => ⟨?_, ?_, fun _ => hshows, fun _ => hnone, herror⟩⟩
  · exact iff_of_true hprofile ⟨h, hactive⟩
  · exact iff_of_true hfan ⟨h, hactive⟩

/-- While it follows none, the files must be gone. -/
theorem told_inactive {running : Prop} (hactive : w.gov.active = false)
    (herror : failed w.log → w.dir "last-error" ≠ none) : Told running w ↔ ¬ Stale w.dir := by
  have hnot : ¬ (running ∧ w.gov.active = true) := fun h => Bool.false_ne_true (hactive.symm.trans h.2)
  refine ⟨fun h hstale => ?_, fun h => ⟨?_, ?_, fun h => absurd h hnot, fun h => absurd h hnot, herror⟩⟩
  · rcases hstale with hprofile | hfan
    · exact hnot (h.profile.mp hprofile)
    · exact hnot (h.fan.mp hfan)
  · exact iff_of_false (fun hprofile => h (.inl hprofile)) hnot
  · exact iff_of_false (fun hfan => h (.inr hfan)) hnot

/-- What the files tell, from what was written last. -/
theorem told_iff (hwritten : Written dir w.log w.dir) (hwaits : w.report.Waits) (running : Prop) :
    Told running w ↔ (w.gov.active = true → running) ∧ ¬ (Stale dir ∧ FoundNothing w.log) := by
  have hsilent : lastStatus w.log = none ↔ FoundNothing w.log := hwaits.silent
  have hshown : ∀ control, lastStatus w.log = some (some control) ↔ w.gov.active = true ∧ w.gov.control = control :=
    hwaits.shown
  have hinactive : (∀ control, lastStatus w.log ≠ some (some control)) → w.gov.active = false := fun h =>
    Bool.eq_false_iff.mpr fun hactive => h _ ((hshown _).mpr ⟨hactive, rfl⟩)
  cases hlast : lastStatus w.log with
  | none =>
      have hactive : w.gov.active = false := hinactive (by simp [hlast])
      have hfound : FoundNothing w.log := hsilent.mp hlast
      rw [told_inactive hactive hwritten.error, hwritten.untouched hlast, hactive]
      simp [hfound]
  | some last =>
      have hfound : ¬ FoundNothing w.log := fun h => by simp [hsilent.mpr h] at hlast
      cases last with
      | none =>
          have hactive : w.gov.active = false := hinactive (by simp [hlast])
          have hshows := hwritten.inactive hlast
          rw [told_inactive hactive hwritten.error, hactive]
          simp [hfound, Stale, hshows.profile, hshows.fan]
      | some control =>
          obtain ⟨hactive, rfl⟩ := (hshown control).mp hlast
          obtain ⟨hshows, hnone⟩ := hwritten.active _ hlast
          rw [told_active hactive hshows hnone hwritten.error, hactive]
          simp [hfound]

end

end Cmp50Unlock.IdleGovernor
