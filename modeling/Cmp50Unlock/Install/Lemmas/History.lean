import Cmp50Unlock.Install.Lemmas.Retry

/-!
# Installations and rollbacks in any order
-/

namespace Cmp50Unlock.Install

variable {h : Host} {running : Release} {b : Backup} {d d' d₀ : Disk} {p : Path} {backupDir : String} {managed : Bool}
  {userland userland' : Prop}

theorem managed_true (hp : Managed h managed p) : Managed h true p := by
  cases p with
  | nouveauPolicy => rfl
  | _ => exact hp

theorem Touched.trans (hd : Touched h true userland d₀ d) (hd' : Touched h managed userland' d d')
    (huserland : userland' → userland) : Touched h true userland d₀ d' := by
  intro p hp hforeign
  rw [hd' p (fun hmanaged => hp (managed_true hmanaged)) fun hforeign' => hforeign (hforeign'.imp huserland)]
  exact hd p hp hforeign

/-- The copies of files that are never touched are those files. -/
theorem touched_rolledBack (hsaved : Saved h d b) (hd : Touched h true userland d₀ d)
    (hd' : Touched h true userland d₀ d') :
    Touched h true userland d₀ (d'.rolledBack h.release b) := by
  intro p hp hforeign
  cases p with
  | lib names =>
      rw [files_rolledBack_lib, if_neg fun hmem => hp (mem_updates.mp hmem)]
      cases hfile : b.file (.lib names) with
      | none => exact hd' _ hp hforeign
      | some file =>
          have hcopied : Copied h d (.lib names) := by
            refine Classical.byContradiction fun hnot => ?_
            rw [hsaved.others _ hnot] at hfile
            cases hfile
          rw [Option.some_or, ← hfile, hsaved.copied _ hcopied]
          exact hd _ hp hforeign
  | initrd release =>
      have hne : release ≠ h.release := hp
      rw [files_rolledBack_initrd, if_neg hne]
      exact hd' _ hp hforeign
  | options | helper | unit => exact absurd trivial hp
  | nouveauPolicy => exact absurd rfl hp

theorem touched_without (hd' : Touched h true userland d₀ d') :
    Touched h true userland d₀ (d'.without h.release modules) := by
  intro p hp hforeign
  refine (files_without fun hmem => ?_).trans (hd' p hp hforeign)
  obtain ⟨m, -, rfl⟩ := List.mem_map.mp hmem
  exact hp ⟨m, rfl⟩

theorem touched_rollBack (hsaved : Saved h d b) (hdir : Back.backupsDir.toList <+: backupDir.toList)
    (hrelease : rollbackRelease h.uname.text running = h.release) (hd : Touched h true userland d₀ d)
    (hd' : Touched h true userland d₀ d') : Touched h true userland d₀ (rollBack h running b backupDir d').2 := by
  intro p hp hforeign
  cases hlib : h.libLink && b.hasModule with
  | true =>
      rw [(rollBack_stops hsaved hdir hlib).2, hrelease]
      exact touched_without hd' p hp hforeign
  | false =>
      obtain ⟨-, hfiles, -⟩ := rollBack_completes running hsaved hdir hlib d'
      rw [hrelease] at hfiles
      rw [hfiles p (Bool.not_eq_true _ ▸ fun hindex => hforeign (foreign_of_isIndex hindex))]
      exact touched_rolledBack hsaved hd hd' p hp hforeign

/-! ## Histories -/

/-- Only managed files have changed and those of other programs, and every backup is one of a disk in the past. -/
structure Server.Sound (h : Host) (userland : Prop) (d₀ : Disk) (s : Server) : Prop where
  disk : Touched h true userland d₀ s.disk
  backups : ∀ made ∈ s.backups, Saved h made.1 made.2 ∧ Touched h true userland d₀ made.1

theorem Server.Sound.install {s : Server} {w : World} (hs : s.Sound h userland d₀) (hsafe : Safe h userland' s.disk w)
    (huserland : userland' → userland) :
    (⟨w.disk, if w.backup.complete then (s.disk, w.backup) :: s.backups else s.backups⟩ : Server).Sound h
    userland d₀ := by
  cases hcomplete : w.backup.complete with
  | true =>
      refine ⟨hs.disk.trans (hsafe.touched hcomplete) huserland, ?_⟩
      intro made hmade
      rcases List.mem_cons.mp hmade with rfl | hmade
      · exact ⟨hsafe.saved hcomplete, hs.disk⟩
      · exact hs.backups made hmade
  | false =>
      refine ⟨?_, hs.backups⟩
      rw [hsafe.before hcomplete]
      exact hs.disk

theorem Server.Reaches.sound {s s' : Server} (hreaches : Server.Reaches h userland s s') (hs : s.Sound h userland d₀) :
    s'.Sound h userland d₀ := by
  induction hreaches with
  | start => exact hs
  | install _ huserland hrun ih => exact ih.install hrun.safe huserland
  | rollBack _ hmade hdir hrelease ih =>
      obtain ⟨hsaved, htouched⟩ := ih.backups _ hmade
      exact ⟨touched_rollBack hsaved hdir hrelease htouched ih.disk, ih.backups⟩

end Cmp50Unlock.Install
