import Cmp50Unlock.IdleGovernor.Disk
import Cmp50Unlock.Lib.Wp

/-!
# The publication of a status file

Whenever a reader opens the name of a status file that is being written, it finds what was there before or the new file
as a whole, wherever a call fails or the process is killed.
-/

namespace Cmp50Unlock.IdleGovernor

open Lib

variable {name temporary : String} {content : List UInt8} {d m : Disk} {inode : Nat} {U : Prop}

/-! ## The states of a publication -/

/-- A name that is given to a temporary file for `name`. -/
def Temporary (name n : String) : Prop := ∃ random, n = temporaryName name random

/-- What a reader finds, and what is left alone: the other names, but for temporary files of the writer, and every file
that existed. -/
structure Intact (d : Disk) (name : String) (content : List UInt8) (m : Disk) : Prop where
  seen : m.see name = d.see name ∨ m.see name = some (.file content)
  others : ∀ n, n ≠ name → m.entries n = d.entries n ∨ (d.entries n = none ∧ Temporary name n)
  data : ∀ inode, d.live inode → m.data inode = d.data inode

/-- The temporary file exists, and nothing else has changed. -/
structure Filling (d : Disk) (temporary : String) (inode : Nat) (m : Disk) : Prop where
  absent : d.entries temporary = none
  fresh : ¬d.live inode
  entries : ∀ n, m.entries n = if n = temporary then some (.file inode) else d.entries n
  data : ∀ i, i ≠ inode → m.data i = d.data i

/-- The new file has the name, and nothing else has changed. -/
structure Renamed (d : Disk) (name : String) (content : List UInt8) (m : Disk) : Prop where
  entries : ∀ n, n ≠ name → m.entries n = d.entries n
  data : ∀ inode, d.live inode → m.data inode = d.data inode
  seen : m.see name = some (.file content)

theorem see_eq_of_entries (hentry : m.entries name = d.entries name) (hdata : ∀ i, d.live i → m.data i = d.data i) :
    m.see name = d.see name := by
  rw [Disk.see, Disk.see, hentry]
  cases hd : d.entries name with
  | none => rfl
  | some entry =>
      cases entry with
      | file i => simp only [hdata i (d.entry_live hd)]
      | link target => rfl
      | directory => rfl

theorem Intact.refl : Intact d name content d := ⟨.inl rfl, fun _ _ => .inl rfl, fun _ _ => rfl⟩

theorem Filling.keeps (h : Filling d temporary inode m) (i : Nat) (hi : d.live i) : m.data i = d.data i := by
  apply h.data
  rintro rfl
  exact h.fresh hi

theorem Filling.entries_of_ne (h : Filling d temporary inode m) {n : String} (hn : n ≠ temporary) :
    m.entries n = d.entries n := by
  rw [h.entries, if_neg hn]

theorem Filling.intact (h : Filling d temporary inode m) (htemp : Temporary name temporary) (hne : name ≠ temporary) :
    Intact d name content m := by
  refine ⟨.inl (see_eq_of_entries (h.entries_of_ne hne) h.keeps), fun n _ => ?_, h.keeps⟩
  by_cases hn : n = temporary
  · exact .inr ⟨hn ▸ h.absent, hn ▸ htemp⟩
  · exact .inl (h.entries_of_ne hn)

theorem Renamed.intact (h : Renamed d name content m) : Intact d name content m :=
  ⟨.inr h.seen, fun n hn => .inl (h.entries n hn), h.data⟩

/-! ## The calls -/

theorem filling_create (habsent : d.entries temporary = none) (hfresh : ¬d.live inode) :
    Filling d temporary inode (d.create temporary inode) :=
  ⟨habsent, hfresh, fun _ => rfl, fun _ hi => if_neg hi⟩

theorem Filling.append (h : Filling d temporary inode m) (hfd : m.fd = some inode) (text : List UInt8) :
    Filling d temporary inode (m.append text) := by
  refine ⟨h.absent, h.fresh, h.entries, fun i hi => ?_⟩
  have hother : m.fd ≠ some i := by
    rw [hfd]
    simpa using hi.symm
  rw [← h.data i hi]
  exact if_neg hother

theorem Filling.closeFd (h : Filling d temporary inode m) : Filling d temporary inode m.closeFd :=
  ⟨h.absent, h.fresh, h.entries, h.data⟩

/-- The new file has no other name. -/
theorem Filling.not_sameFile (h : Filling d temporary inode m) (hne : name ≠ temporary) :
    sameFile (m.entries temporary) (m.entries name) = false := by
  rw [h.entries, if_pos rfl, h.entries_of_ne hne]
  cases hentry : d.entries name with
  | none => rfl
  | some entry =>
      cases entry with
      | file i =>
          apply beq_eq_false_iff_ne.mpr
          rintro rfl
          exact h.fresh (d.entry_live hentry)
      | link target => rfl
      | directory => rfl

theorem Filling.rename (h : Filling d temporary inode m) (hne : name ≠ temporary) (hcontent : m.data inode = content) :
    Renamed d name content (m.rename temporary name) := by
  have hentries : ∀ n, (m.rename temporary name).entries n =
      if n = name then some (.file inode) else if n = temporary then none else d.entries n := by
    intro n
    simp only [Disk.rename, h.not_sameFile hne]
    by_cases hname : n = name
    · simp only [if_pos hname, h.entries]
      rfl
    · by_cases htemp : n = temporary
      · simp only [if_neg hname, if_pos htemp]
        rfl
      · simp only [if_neg hname, if_neg htemp, h.entries_of_ne htemp]
        rfl
  refine ⟨fun n hn => ?_, h.keeps, ?_⟩
  · rw [hentries, if_neg hn]
    split
    next htemp => rw [htemp, h.absent]
    next => rfl
  · rw [Disk.see, hentries, if_pos rfl]
    exact congrArg (some ∘ Seen.file) hcontent

/-- Without its temporary file, the directory is as it was. -/
theorem Filling.unlink (h : Filling d temporary inode m) (n : String) :
    (m.unlink temporary).entries n = d.entries n := by
  change (if n = temporary then none else m.entries n) = d.entries n
  split
  next hn => rw [hn, h.absent]
  next hn => exact h.entries_of_ne hn

/-! ## The program -/

theorem temporaryName_ne_self (name : String) (random : List UInt8) : name ≠ temporaryName name random := by
  intro h
  have hlength := congrArg String.length h
  simp only [temporaryName, String.length_append] at hlength
  have hdot : ".".length = 1 := rfl
  omega

/-- At every moment of a call, the directory is intact. -/
def Watched (d : Disk) (name : String) (content : List UInt8) (m : Disk) (o : FileOp) : Prop :=
  Intact d name content m ∧ ∀ m', Amid o m m' → Intact d name content m'

/-- What `writeAtomic` leaves. -/
structure Published (U : Prop) (d : Disk) (name : String) (content : List UInt8) (r : Option GoError)
    (m : Disk) : Prop where
  intact : Intact d name content m
  ok : r = none → m.see name = some (.file content)
  failed : r ≠ none → m.entries name = d.entries name ∧ m.see name = d.see name
  tidy : U → ∀ n, n ≠ name → m.entries n = d.entries n

theorem published_unchanged {err : GoError} : Published U d name content (some err) d :=
  ⟨.refl, fun h => (by cases h), fun _ => ⟨rfl, rfl⟩, fun _ _ _ => rfl⟩

/-- A call that is over at once. -/
theorem Intact.watched {o : FileOp} (h : Intact d name content m) (ho : ∀ m', ¬Amid o m m') :
    Watched d name content m o :=
  ⟨h, fun m' hm' => absurd hm' (ho m')⟩

theorem call_bind {o : FileOp} {α : Type} {f : o.Ans → Files α} {G : Disk → FileOp → Prop}
    {Q : α → Disk → Prop} (hG : G m o)
    (hf : ∀ a m', DiskStep U o m a m' → (f a).wp (DiskStep U) G m' Q) :
    (Prog.lift o >>= f).wp (DiskStep U) G m Q := by
  rw [Prog.wp_bind]
  exact ⟨hG, hf⟩

theorem close_wp {Q : Option GoError → Disk → Prop} (h : Filling d temporary inode m) (htemp : Temporary name temporary)
    (hne : name ≠ temporary) (hQ : ∀ r, Q r m.closeFd) :
    (close temporary).wp (DiskStep U) (Watched d name content) m Q := by
  refine ⟨(h.intact htemp hne).watched fun _ => id, fun r m' hstep => ?_⟩
  obtain rfl : m' = m.closeFd := hstep
  exact hQ r

/-- The temporary file is filled and renamed, or it is left and the name is not touched. -/
theorem writeTemporary_wp (h : Filling d temporary inode m) (htemp : Temporary name temporary) (hne : name ≠ temporary)
    (hfd : m.fd = some inode) (hempty : m.data inode = []) :
    (writeTemporary temporary name content).wp (DiskStep U) (Watched d name content) m fun r m' =>
      (r = none ∧ Renamed d name content m') ∨ (r ≠ none ∧ Filling d temporary inode m') := by
  have hamid : ∀ m', Amid (.writeString temporary content) m m' → Intact d name content m' := by
    rintro m' ⟨n, rfl⟩
    exact (h.append hfd _).intact htemp hne
  refine call_bind ⟨h.intact htemp hne, hamid⟩ fun written m₁ hwrite => ?_
  cases written with
  | some err =>
      obtain ⟨n, rfl⟩ := hwrite
      rw [Prog.wp_bind]
      exact close_wp (h.append hfd _) htemp hne fun _ => .inr ⟨nofun, (h.append hfd _).closeFd⟩
  | none =>
      obtain rfl : m₁ = m.append content := hwrite
      have hfilled := h.append hfd content
      have hcontent : (m.append content).data inode = content := by
        rw [Disk.append]
        simp only [if_pos hfd, hempty, List.nil_append]
      refine call_bind ((hfilled.intact htemp hne).watched fun _ => id) fun synced m₂ hsync => ?_
      cases synced with
      | some err =>
          obtain rfl : m₂ = m.append content := hsync
          rw [Prog.wp_bind]
          exact close_wp hfilled htemp hne fun _ => .inr ⟨nofun, hfilled.closeFd⟩
      | none =>
          obtain rfl : m₂ = m.append content := hsync
          rw [Prog.wp_bind]
          refine close_wp hfilled htemp hne fun closed => ?_
          cases closed with
          | some err => exact .inr ⟨nofun, hfilled.closeFd⟩
          | none =>
              refine ⟨(hfilled.closeFd.intact htemp hne).watched fun _ => id, fun renamed m₃ hrename => ?_⟩
              cases renamed with
              | some err =>
                  obtain rfl : m₃ = (m.append content).closeFd := hrename
                  exact .inr ⟨nofun, hfilled.closeFd⟩
              | none =>
                  obtain ⟨-, rfl⟩ := hrename
                  exact .inl ⟨rfl, hfilled.closeFd.rename hne hcontent⟩

/-- The removal of the temporary file, which a renamed file no longer is. -/
theorem unlink_temporary_wp {r : Option GoError} (htemp : Temporary name temporary) (hne : name ≠ temporary)
    (habsent : d.entries temporary = none)
    (h : (r = none ∧ Renamed d name content m) ∨ (r ≠ none ∧ Filling d temporary inode m)) :
    (do let _ ← unlinkat temporary; return r : Files (Option GoError)).wp (DiskStep U) (Watched d name content) m
      (Published U d name content) := by
  rcases h with ⟨rfl, hrenamed⟩ | ⟨hr, hfilling⟩
  · have hgone : m.entries temporary = none := by rw [hrenamed.entries temporary hne.symm, habsent]
    refine call_bind (hrenamed.intact.watched fun _ => id) fun unlinked m₁ hunlink => ?_
    cases unlinked with
    | none =>
        have hthere := hunlink.1
        rw [hgone] at hthere
        cases hthere
    | some err =>
        obtain ⟨-, rfl⟩ := hunlink
        exact ⟨hrenamed.intact, fun _ => hrenamed.seen, fun hnone => absurd rfl hnone, fun _ => hrenamed.entries⟩
  · refine call_bind ((hfilling.intact htemp hne).watched fun _ => id) fun unlinked m₁ hunlink => ?_
    cases unlinked with
    | none =>
        obtain ⟨-, rfl⟩ := hunlink
        have hsee : (m.unlink temporary).see name = d.see name :=
          see_eq_of_entries (hfilling.unlink name) hfilling.keeps
        exact ⟨⟨.inl hsee, fun n _ => .inl (hfilling.unlink n), hfilling.keeps⟩, fun hnone => absurd hnone hr,
          fun _ => ⟨hfilling.unlink name, hsee⟩, fun _ n _ => hfilling.unlink n⟩
    | some err =>
        obtain ⟨hfailed, rfl⟩ := hunlink
        have hentry := hfilling.entries_of_ne hne
        refine ⟨hfilling.intact htemp hne, fun hnone => absurd hnone hr,
          fun _ => ⟨hentry, see_eq_of_entries hentry hfilling.keeps⟩, fun hU => ?_⟩
        have hthere := hfilling.entries temporary
        rw [if_pos rfl, hfailed (.inr hU)] at hthere
        cases hthere

theorem writeAtomic_wp (U : Prop) (name : String) (content : List UInt8) (d : Disk) :
    (writeAtomic name content).wp (DiskStep U) (Watched d name content) d (Published U d name content) := by
  refine call_bind (Intact.refl.watched fun _ => id) fun opened d₁ hopen => ?_
  cases opened with
  | some err =>
      obtain rfl : d₁ = d := hopen
      exact published_unchanged
  | none =>
      obtain rfl : d₁ = d := hopen
      refine call_bind (Intact.refl.watched fun _ => id) fun read d₂ hread => ?_
      cases read with
      | error err =>
          obtain rfl : d₂ = d₁ := hread
          exact published_unchanged
      | ok random =>
          obtain rfl : d₂ = d₁ := hread
          refine call_bind (Intact.refl.watched fun _ => id) fun created d₃ hcreate => ?_
          cases created with
          | some err =>
              obtain rfl : d₃ = d₂ := hcreate
              exact published_unchanged
          | none =>
              obtain ⟨habsent, inode, hfresh, rfl⟩ := hcreate
              have htemp : Temporary name (temporaryName name random) := ⟨random, rfl⟩
              have hne := temporaryName_ne_self name random
              rw [Prog.wp_bind]
              refine (writeTemporary_wp (filling_create habsent hfresh) htemp hne rfl (if_pos rfl)).mono
                fun r m hr => ?_
              exact unlink_temporary_wp htemp hne habsent hr

/-! ## The publication is atomic -/

/-- At every moment of `writeAtomic`, wherever calls fail or the process is killed, a reader finds the old entry or the
whole new file, and nothing else has changed but a temporary file. When it returns an error the name is as it was, when
it returns `nil` the name is the new file, and no temporary file remains unless the removal of one that exists fails. -/
theorem publication_atomic (name : String) (content : List UInt8) (d : Disk) :
    (∀ m, Moment (writeAtomic name content) d m → Intact d name content m) ∧
    (∀ r m, (writeAtomic name content).Exec (DiskStep False) d r m → Published False d name content r m) ∧
    (∀ r m, (writeAtomic name content).Exec (DiskStep True) d r m →
      Published True d name content r m ∧ ∀ n, n ≠ name → m.entries n = d.entries n) := by
  have hwp := writeAtomic_wp False name content d
  refine ⟨?_, fun r m hexec => hwp.exec hexec, fun r m hexec => ?_⟩
  · rintro m (⟨o, hissued⟩ | ⟨o, d₁, hissued, hamid⟩ | ⟨r, hexec⟩)
    · exact (hwp.issued hissued).1
    · exact (hwp.issued hissued).2 m hamid
    · exact (hwp.exec hexec).intact
  · have hpublished := (writeAtomic_wp True name content d).exec hexec
    exact ⟨hpublished, hpublished.tidy trivial⟩

/-- A directory without files. -/
def emptyDisk : Disk := ⟨fun _ => none, fun _ => [], fun _ => False, none, nofun⟩

/-- When neither the write nor the removal of the temporary file succeeds, it remains. -/
theorem remains_of_full (name : String) (content random : List UInt8) (full : GoError)
    (hfull : full.isNotExist = false) :
    ∃ m, (writeAtomic name content).Exec (DiskStep False) emptyDisk (some full) m ∧
      m.entries (temporaryName name random) = some (.file 0) := by
  generalize htemporary : temporaryName name random = temporary
  have hfilling : Filling emptyDisk temporary 0 (emptyDisk.create temporary 0) := filling_create rfl id
  have hfilled := (hfilling.append rfl (content.take 0)).closeFd
  have hwrite : (writeTemporary temporary name content).Exec (DiskStep False) (emptyDisk.create temporary 0) (some full)
      ((emptyDisk.create temporary 0).append (content.take 0)).closeFd := by
    refine Prog.exec_bind.mpr ⟨some full, _, Prog.exec_lift.mpr ⟨0, rfl⟩, ?_⟩
    exact Prog.exec_bind.mpr ⟨none, _, Prog.exec_lift.mpr rfl, rfl, rfl⟩
  refine ⟨((emptyDisk.create temporary 0).append (content.take 0)).closeFd, ?_, ?_⟩
  · refine Prog.exec_bind.mpr ⟨none, _, Prog.exec_lift.mpr rfl, ?_⟩
    refine Prog.exec_bind.mpr ⟨.ok random, _, Prog.exec_lift.mpr rfl, ?_⟩
    simp only [htemporary]
    refine Prog.exec_bind.mpr ⟨none, _, Prog.exec_lift.mpr ⟨rfl, 0, id, rfl⟩, ?_⟩
    refine Prog.exec_bind.mpr ⟨some full, _, hwrite, ?_⟩
    refine Prog.exec_bind.mpr ⟨some full, _, Prog.exec_lift.mpr ⟨?_, rfl⟩, rfl, rfl⟩
    rintro (h | h)
    · rw [hfull] at h
      cases h
    · exact h.elim
  · rw [hfilled.entries, if_pos rfl]

/-- The disk is full, and the temporary file cannot be removed either: it remains. -/
theorem temporary_remains :
    ∃ r m, (writeAtomic "active-profile" (bytesOf "cmp50-1x20gb\n")).Exec (DiskStep False) emptyDisk r m ∧ r ≠ none ∧
      ∃ n, n ≠ "active-profile" ∧ Temporary "active-profile" n ∧ emptyDisk.entries n = none ∧ m.entries n ≠ none := by
  obtain ⟨m, hexec, hremains⟩ := remains_of_full "active-profile" (bytesOf "cmp50-1x20gb\n") (List.replicate 8 0)
    (.ext "no space left on device" false) rfl
  exact ⟨_, m, hexec, Option.some_ne_none _, _, (temporaryName_ne_self _ _).symm, ⟨_, rfl⟩, rfl,
    by rw [hremains]; exact Option.some_ne_none _⟩

end Cmp50Unlock.IdleGovernor
