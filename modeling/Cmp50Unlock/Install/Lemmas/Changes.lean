import Cmp50Unlock.Install.Lemmas.Backup
import Cmp50Unlock.Install.Lemmas.Checks

/-!
# A run after the backup
-/

namespace Cmp50Unlock.Install

open Lib
open Lib.Script (Meets meets_bind meets_pure meets_ite meets_when meets_sh meets_attempt meets_inv meets_embed)
open Scripts (Signal)

variable {h : Host} {d : Disk} {w w' : World} {o : ChangeOp} {b : Backup} {managed : Bool}
  {userland userland' : Prop} {p : Path}

/-! ## What is touched -/

theorem Touched.refl : Touched h managed userland d d := fun _ _ _ => rfl

theorem foreign_of_isIndex (hp : p.isIndex h.release) : Foreign h userland p := .inl hp

theorem managed_of_targets (ht : o.Targets h p) : Managed h managed p ∨ p.isIndex h.release := by
  cases o with
  | installModule m =>
      obtain rfl := ht
      exact .inl ⟨m, rfl⟩
  | installOptions | writeOptions | removeOptions | installHelper | installUnit =>
      obtain rfl := ht
      exact .inl trivial
  | removeService =>
      rcases ht with rfl | rfl
      · exact .inl trivial
      · exact .inl trivial
  | updateInitramfs =>
      obtain rfl := ht
      exact .inl rfl
  | depmod => exact .inr ht
  | _ => exact ht.elim

theorem Kept.not_foreign (hp : Kept h b userland p) (hput : ¬PutBack h b p) : ¬Foreign h userland p := by
  rintro (hindex | ⟨huserland, hlib⟩)
  · rw [hp.1] at hindex
    cases hindex
  · exact hput (hp.2 huserland hlib)

/-- The backup stays, and only managed files change, and those of other programs. -/
def ChangedFrom (h : Host) (d : Disk) (b : Backup) (userland : Prop) (w : World) : Prop :=
  w.backup = b ∧ Touched h b.managed userland d w.disk

theorem changedFrom_step {done : Done Signal o.Out} (hstep : ChangeStep h o w done w')
    (hw : ChangedFrom h d b userland w) : ChangedFrom h d b userland w' := by
  obtain ⟨-, hframe, -⟩ := hstep
  refine ⟨hframe.backup.trans hw.1, fun p hp hforeign => ?_⟩
  rw [hframe.files p fun ht => (managed_of_targets ht).elim hp fun hindex => hforeign (foreign_of_isIndex hindex)]
  exact hw.2 p hp hforeign

theorem changedFrom_userland {o : UserlandOp} {done : Done Signal Unit} (hstep : UserlandStep o w done w')
    (hw : ChangedFrom h d b userland w) (huserland : userland) : ChangedFrom h d b userland w' := by
  obtain ⟨disk, rfl, hdisk, -⟩ := hstep
  refine ⟨hw.1, fun p hp hforeign => ?_⟩
  rw [hdisk.files p fun hlib => hforeign (.inr ⟨huserland, hlib⟩)]
  exact hw.2 p hp hforeign

theorem changedFrom_policy {done : Done Signal Unit} (hstep : PolicyStep h w done w')
    (hw : ChangedFrom h d b userland w) (hb : b.managed = true) : ChangedFrom h d b userland w' := by
  obtain ⟨⟨file, rfl⟩, -⟩ := hstep
  refine ⟨hw.1, fun p hp hforeign => ?_⟩
  have hne : p ≠ .nouveauPolicy := by
    rintro rfl
    exact hp hb
  exact (files_set_ne hne).trans (hw.2 p hp hforeign)

theorem change_meets {α : Type} {p : Change α} (hw : ChangedFrom h d b userland w) :
    Meets (ChangeStep h) p w (fun _ => ChangedFrom h d b userland) fun _ => ChangedFrom h d b userland :=
  meets_inv (fun _ _ _ _ => changedFrom_step) hw

theorem userland_meets {α : Type} {p : Userland α} (huserland : userland) (hw : ChangedFrom h d b userland w) :
    Meets UserlandStep p w (fun _ => ChangedFrom h d b userland) fun _ => ChangedFrom h d b userland :=
  meets_inv (fun _ _ _ _ hstep hw => changedFrom_userland hstep hw huserland) hw

/-! ## The run as a whole -/

/-- What a run leaves: nothing is changed before the backup is complete, and afterwards only managed files are, and
those of other programs. -/
structure Safe (h : Host) (userland : Prop) (d : Disk) (w : World) : Prop where
  before : w.backup.complete = false → w.disk = d
  saved : w.backup.complete = true → Saved h d w.backup
  touched : w.backup.complete = true → Touched h w.backup.managed userland d w.disk

theorem Foreign.imp (hp : Foreign h userland p) (huserland : userland → userland') : Foreign h userland' p :=
  Or.imp_right (And.imp_left huserland) hp

theorem Safe.imp (hw : Safe h userland d w) (huserland : userland → userland') : Safe h userland' d w :=
  { hw with
    touched := fun hcomplete p hp hforeign => hw.touched hcomplete p hp fun hp' => hforeign (hp'.imp huserland) }

theorem safe_of_unchanged (hdisk : w.disk = d) (hsaved : w.backup.complete = true → Saved h d w.backup) :
    Safe h userland d w where
  before := fun _ => hdisk
  saved := hsaved
  touched := fun _ => by rw [hdisk]; exact Touched.refl

theorem safe_of_changedFrom (hw : ChangedFrom h d b userland w) (hsaved : Saved h d b) (hcomplete : b.complete = true) :
    Safe h userland d w where
  before := by
    intro hnot
    rw [hw.1, hcomplete] at hnot
    cases hnot
  saved := fun _ => hw.1 ▸ hsaved
  touched := fun _ => hw.1 ▸ hw.2

theorem stageInstall_meets {o : Options} (hdisk : w.disk = d) (hcomplete : w.backup.complete = false) :
    Meets (InstallStep h) (stageInstall h.release o) w (fun _ => Safe h o.installUserland d)
      fun _ => Safe h o.installUserland d := by
  rw [stageInstall, meets_bind, meets_embed]
  refine (backUp_meets hdisk hcomplete).mono ?_ fun _ w' hw' => safe_of_unchanged hw'.1 hw'.2
  intro backupDir w₁ hw₁
  obtain ⟨hdisk₁, hsaved, hcomplete₁, hmanaged⟩ := hw₁
  have hsafe : ∀ w', ChangedFrom h d w₁.backup o.installUserland w' → Safe h o.installUserland d w' :=
    fun w' hw' => safe_of_changedFrom hw' hsaved hcomplete₁
  have hstart : ChangedFrom h d w₁.backup o.installUserland w₁ := ⟨rfl, by rw [hdisk₁]; exact Touched.refl⟩
  have hchanges : ∀ w₂, ChangedFrom h d w₁.backup o.installUserland w₂ → Meets (InstallStep h) (do
      Script.embed InstallOp.change (Change.installDriver o h.release backupDir)
      Script.when o.disableNouveau (Scripts.Shell.sh InstallOp.installPolicy)
      Script.embed InstallOp.change (Change.finish o)) w₂ (fun _ => Safe h o.installUserland d)
        fun _ => Safe h o.installUserland d := by
    intro w₂ hw₂
    rw [meets_bind, meets_embed]
    refine (change_meets hw₂).mono ?_ fun _ => hsafe
    intro _ w₃ hw₃
    rw [meets_bind, meets_when]
    refine ⟨fun hdisable => ?_, fun _ => ?_⟩
    · rw [meets_sh]
      intro done w₄ hstep
      have hw₄ := changedFrom_policy hstep hw₃ (hmanaged.trans hdisable)
      refine ⟨fun _ _ => ?_, fun _ _ => hsafe w₄ hw₄, fun _ _ => hsafe w₄ hw₄⟩
      rw [meets_embed]
      exact (change_meets hw₄).mono (fun _ => hsafe) fun _ => hsafe
    · rw [meets_embed]
      exact (change_meets hw₃).mono (fun _ => hsafe) fun _ => hsafe
  rw [meets_bind, meets_when]
  refine ⟨fun huserland => ?_, fun _ => hchanges w₁ hstart⟩
  rw [meets_embed]
  exact (userland_meets huserland hstart).mono (fun _ => hchanges) fun _ => hsafe

/-- A run that changes anything, or comes to the backup, has passed the checks. -/
theorem install_meets (args : List String) (artifacts : Module → Option (List UInt8)) :
    Meets (InstallStep h) (install h.release args) (.start d artifacts)
      (fun o w' => Safe h ("--install-userland" ∈ args) d w' ∧ Asked args o ∧ Ready h o)
      fun _ w' => Safe h ("--install-userland" ∈ args) d w' ∧
        (w' = .start d artifacts ∨ ∃ o, Asked args o ∧ Ready h o) := by
  rw [install, meets_bind, meets_embed]
  refine ((checks_show args).meets (I := fun w => w = .start d artifacts) ?_ ?_ rfl).mono ?_ ?_
  · exact fun _ _ _ _ hstep => hstep.1
  · exact fun _ _ _ _ hstep hw => hstep.2.trans hw
  · rintro o w' ⟨⟨hasked, hready⟩, rfl⟩
    have himp : ∀ w₁, Safe h o.installUserland d w₁ → Safe h ("--install-userland" ∈ args) d w₁ :=
      fun w₁ hw₁ => hw₁.imp hasked.installUserland
    rw [meets_bind]
    refine (stageInstall_meets rfl rfl).mono ?_ fun _ w₁ hw₁ => ⟨himp w₁ hw₁, .inr ⟨o, hasked, hready⟩⟩
    exact fun _ w₁ hw₁ => meets_pure.mpr ⟨himp w₁ hw₁, hasked, hready⟩
  · rintro n w' rfl
    exact ⟨safe_of_unchanged rfl (not_saved_of_incomplete rfl), .inl rfl⟩

theorem Installs.safe {args : List String} {artifacts : Module → Option (List UInt8)} {r : Except Nat Options}
    (hrun : Installs h args d artifacts r w) : Safe h ("--install-userland" ∈ args) d w := by
  have hmeets := install_meets args artifacts r w hrun
  cases r with
  | ok o => exact hmeets.1
  | error n => exact hmeets.1

end Cmp50Unlock.Install
