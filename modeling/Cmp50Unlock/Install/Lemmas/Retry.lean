import Cmp50Unlock.Install.Lemmas.RoundTrip

/-!
# Interrupted rollbacks

A command of the rollback that is interrupted spoils nothing that the next rollback does not put back.
-/

namespace Cmp50Unlock.Install

open Lib
open Lib.Script (Meets meets_bind meets_pure meets_ite meets_when meets_sh meets_attempt meets_throw
  meets_forM meets_orFail_of)
open Scripts (Signal)

variable {h : Host} {running release : Release} {b : Backup} {d d' d'' : Disk} {userland : Prop} {p : Path}
  {backupDir : String}

/-! ## One command -/

/-- A command that succeeds leaves alone what it does not write. -/
theorem files_respond {o : RollbackOp} (hp : ¬o.Targets b p) : (respond h running b o d).2.files p = d.files p := by
  cases o with
  | moveAway q | remove q | restore q | restoreService q => exact files_set_ne hp
  | removeService =>
      rw [respond, succeeds, files_set_ne fun hunit => hp (.inr hunit), files_set_ne fun hhelper => hp (.inl hhelper)]
  | restoreModules =>
      rw [respond, restoreModules]
      split
      next => rfl
      next =>
        simp only [succeeds]
        split
        next hlib =>
          cases hfile : b.file p with
          | none => rfl
          | some file => exact absurd ⟨hlib, by rw [hfile]; exact Option.some_ne_none file⟩ hp
        next => rfl
  | enable =>
      rw [respond]
      split
      next => rfl
      next => rfl
  | depmod release => exact files_indexed hp
  | _ => rfl

theorem files_tryStep {o : RollbackOp} {done : Done Signal o.Out} (hstep : TryStep h running b o d done d')
    (hp : ¬o.Targets b p) : d'.files p = d.files p := by
  rcases hstep with ⟨-, rfl⟩ | ⟨-, hframe⟩
  · exact files_respond hp
  · exact hframe p hp

/-- An answer that the script goes by is right. -/
theorem answer_tryStep {o : RollbackOp} {done : Done Signal o.Out} (hstep : TryStep h running b o d done d')
    (hstatus : done.status = 0) (hsignal : done.signal = none) : done = (respond h running b o d).1 := by
  rcases hstep with ⟨hdone, -⟩ | ⟨hbad, -⟩
  · exact hdone
  · rcases hbad with hstatus' | hsignal'
    · exact absurd hstatus hstatus'
    · exact absurd hsignal hsignal'

/-! ## The script -/

abbrev Keeps (h : Host) (running : Release) (b : Backup) (userland : Prop) (d : Disk) {α : Type}
    (p : Rollback α) : Prop :=
  ∀ d', Covered h b userland d d' → Meets (TryStep h running b) p d' (fun _ => Covered h b userland d)
    fun _ => Covered h b userland d

/-- The command writes only what a rollback puts back, and the index. -/
def Spares (h : Host) (b : Backup) (o : RollbackOp) : Prop := ∀ p, o.Targets b p → PutBack h b p ∨ p.isIndex h.release

theorem covered_tryStep {o : RollbackOp} {done : Done Signal o.Out} (ho : Spares h b o)
    (hstep : TryStep h running b o d' done d'') (hd' : Covered h b userland d d') : Covered h b userland d d'' := by
  intro p hp hforeign
  rw [files_tryStep hstep fun ht => (ho p ht).elim hp fun hindex => hforeign (foreign_of_isIndex hindex)]
  exact hd' p hp hforeign

theorem keeps_attempt {o : RollbackOp} (ho : Spares h b o) : Keeps h running b userland d (Rollback.attempt o) := by
  intro d' hd'
  rw [meets_attempt]
  intro done d'' hstep
  have hd'' := covered_tryStep ho hstep hd'
  exact ⟨fun _ => hd'', fun _ _ => hd''⟩

theorem keeps_sh {o : RollbackOp} (ho : Spares h b o) : Keeps h running b userland d (Rollback.sh o) := by
  intro d' hd'
  rw [meets_sh]
  intro done d'' hstep
  have hd'' := covered_tryStep ho hstep hd'
  exact ⟨fun _ _ => hd'', fun _ _ => hd'', fun _ _ => hd''⟩

theorem Keeps.bind {α β : Type} {p : Rollback α} {f : α → Rollback β} (hp : Keeps h running b userland d p)
    (hf : ∀ a, Keeps h running b userland d (f a)) : Keeps h running b userland d (p >>= f) := by
  intro d' hd'
  rw [meets_bind]
  exact (hp d' hd').mono (fun a d'' hd'' => hf a d'' hd'') fun _ _ => id

theorem keeps_pure {α : Type} {a : α} : Keeps h running b userland d (pure a) := fun _ hd' => meets_pure.mpr hd'

theorem keeps_when {c : Prop} [Decidable c] {p : Rollback Unit} (hp : c → Keeps h running b userland d p) :
    Keeps h running b userland d (Script.when c p) := by
  intro d' hd'
  rw [meets_when]
  exact ⟨fun hc => hp hc d' hd', fun _ => hd'⟩

theorem keeps_ite {α : Type} {c : Prop} [Decidable c] {p q : Rollback α} (hp : Keeps h running b userland d p)
    (hq : Keeps h running b userland d q) : Keeps h running b userland d (if c then p else q) := by
  split
  next => exact hp
  next => exact hq

theorem keeps_orExit {holds : Bool} {status : Nat} {message : String} :
    Keeps h running b userland d (Scripts.Shell.orExit holds status message) :=
  fun _ hd' => meets_orFail_of (fun _ _ hstep => covered_tryStep (fun _ => False.elim) hstep hd') fun _ => hd'

theorem keeps_restoreWith {command : Path → RollbackOp} (hcommand : Spares h b (command p)) :
    Keeps h running b userland d (Rollback.restoreWith command p) :=
  (keeps_attempt fun _ => False.elim).bind fun _ => keeps_ite ((keeps_sh hcommand).bind fun _ => keeps_pure) keeps_pure

theorem spares_of_managed {o : RollbackOp} (ho : ∀ q, o.Targets b q → q = p) (hp : Managed h b.managed p) :
    Spares h b o := by
  intro q hq
  rw [ho q hq]
  exact .inl (.inl hp)

theorem keeps_replace (hp : Managed h b.managed p) : Keeps h running b userland d (Rollback.replace p) :=
  (keeps_sh (spares_of_managed (fun _ => id) hp)).bind fun _ => keeps_restoreWith (spares_of_managed (fun _ => id) hp)

theorem keeps_checkBackup : Keeps h running b userland d (Rollback.checkBackup backupDir) :=
  (keeps_attempt fun _ => False.elim).bind fun _ => keeps_orExit.bind fun _ =>
    (keeps_attempt fun _ => False.elim).bind fun _ => keeps_orExit.bind fun _ => keeps_orExit

theorem keeps_moveModules : Keeps h running b userland d (modules.forM (Rollback.moveModule h.release)) := by
  intro d' hd'
  refine meets_forM ?_ hd'
  intro m _ d₁ hd₁
  have hmanaged : Managed h b.managed (updates h.release m) := ⟨m, rfl⟩
  exact (keeps_attempt fun _ => False.elim).bind
    (fun _ => keeps_ite (keeps_sh (spares_of_managed (fun _ => id) hmanaged)) keeps_pure) d₁ hd₁

theorem keeps_restoreService : Keeps h running b userland d Rollback.restoreService := by
  have hremove : Spares h b .removeService := by
    intro q hq
    rcases hq with rfl | rfl
    · exact .inl (.inl trivial)
    · exact .inl (.inl trivial)
  have hrestore : ∀ p, Managed h b.managed p → Spares h b (.restoreService p) :=
    fun p hp => spares_of_managed (fun _ => id) hp
  exact (keeps_attempt fun _ => False.elim).bind fun _ => (keeps_sh hremove).bind fun _ =>
    (keeps_restoreWith (hrestore .helper trivial)).bind fun _ =>
        (keeps_restoreWith (hrestore .unit trivial)).bind fun _ =>
      (keeps_sh fun _ => False.elim).bind fun _ => (keeps_attempt fun _ => False.elim).bind fun _ =>
        keeps_when fun _ => keeps_sh fun _ => False.elim

/-- The policy is replaced only if the backup manages it. -/
theorem keeps_restoreConfig : Keeps h running b userland d Rollback.restoreConfig := by
  have hoptions : Managed h b.managed .options := trivial
  refine (keeps_replace hoptions).bind fun _ d' hd' => ?_
  rw [meets_bind, meets_attempt]
  intro done d'' hstep
  have hd'' := covered_tryStep (fun _ => False.elim) hstep hd'
  refine ⟨fun hsignal => ?_, fun _ _ => hd''⟩
  refine keeps_when (fun hstatus => keeps_replace ?_) d'' hd''
  have hdone := answer_tryStep hstep hstatus hsignal
  rw [hdone] at hstatus
  exact tested_status.mp hstatus

theorem readRelease_meets (huname : b.uname = some h.uname.text)
    (hrelease : rollbackRelease h.uname.text running = h.release) (hd' : Covered h b userland d d') :
    Meets (TryStep h running b) Rollback.readRelease d' (fun release d'' => release = h.release ∧
      Covered h b userland d d'')
      fun _ => Covered h b userland d := by
  rw [Rollback.readRelease, meets_bind, meets_sh]
  intro done d₁ hstep
  have hd₁ := covered_tryStep (fun _ => False.elim) hstep hd'
  refine ⟨fun hsignal hstatus => ?_, fun _ _ => hd₁, fun _ _ => hd₁⟩
  have hout : done.out = genericRelease h.uname.text := by
    rw [answer_tryStep hstep hstatus hsignal, respond, huname]
    rfl
  rw [hout, meets_ite]
  refine ⟨fun hempty => ?_, fun hsome => ?_⟩
  · rw [meets_sh]
    intro done' d₂ hstep'
    have hd₂ := covered_tryStep (fun _ => False.elim) hstep' hd₁
    refine ⟨fun hsignal' hstatus' => ⟨?_, hd₂⟩, fun _ _ => hd₂, fun _ _ => hd₂⟩
    rw [answer_tryStep hstep' hstatus' hsignal', ← hrelease, rollbackRelease, if_pos hempty]
    rfl
  · rw [meets_pure]
    refine ⟨?_, hd₁⟩
    rw [← hrelease, rollbackRelease, if_neg hsome]

theorem keeps_rollback (huname : b.uname = some h.uname.text)
    (hrelease : rollbackRelease h.uname.text running = h.release) :
    Keeps h running b userland d (rollback backupDir) := by
  refine keeps_checkBackup.bind fun _ d' hd' => ?_
  rw [meets_bind]
  refine (readRelease_meets huname hrelease hd').mono ?_ fun _ _ => id
  rintro release d'' ⟨rfl, hd''⟩
  have hinitrd : Spares h b (.restore (.initrd h.release)) := spares_of_managed (fun _ => id) rfl
  have hmodules : Spares h b .restoreModules := fun _ hq => .inl (.inr hq)
  have hindex : Spares h b (.depmod h.release) := fun _ hq => .inr hq
  exact ((keeps_sh fun _ => False.elim).bind fun _ => keeps_moveModules.bind fun _ =>
    (keeps_sh hmodules).bind fun _ => keeps_restoreService.bind fun _ => keeps_restoreConfig.bind fun _ =>
      (keeps_restoreWith hinitrd).bind fun _ => (keeps_sh hindex).bind fun _ => keeps_sh fun _ => False.elim) d'' hd''

/-! ## Any number of rollbacks -/

theorem Tries.covered {r : Except Nat Unit} (hrun : Tries h running b backupDir d' r d'')
    (huname : b.uname = some h.uname.text) (hrelease : rollbackRelease h.uname.text running = h.release)
    (hd' : Covered h b userland d d') : Covered h b userland d d'' := by
  have hmeets := keeps_rollback (d := d) huname hrelease d' hd' r d'' hrun
  cases r with
  | ok _ => exact hmeets
  | error n => exact hmeets

theorem Tried.covered {d₁ : Disk} (hd₁ : Covered h b userland d d₁) (huname : b.uname = some h.uname.text)
    (htried : Tried h b d₁ d') : Covered h b userland d d' := by
  induction htried with
  | start => exact hd₁
  | again _ hrelease hrun ih => exact hrun.covered huname hrelease ih

theorem covered_of_touched (htouched : Touched h b.managed userland d d') : Covered h b userland d d' :=
  fun p hp => htouched p fun hmanaged => hp (.inl hmanaged)

end Cmp50Unlock.Install
