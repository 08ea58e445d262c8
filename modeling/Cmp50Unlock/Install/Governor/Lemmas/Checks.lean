import Cmp50Unlock.Install.Governor.Spec
import Cmp50Unlock.Lib.Checks
import Cmp50Unlock.Scripts.Lemmas.Installed

/-!
# What the checks of the governor's installer show
-/

namespace Cmp50Unlock.Install.Governor

open Lib
open Lib.Script (shows_pure shows_attempt shows_sh shows_exit shows_fail shows_orFail shows_test
  shows_status shows_when shows_forM)
open Scripts (Signal Qualifies displays profileName substitution governorProfile governorProfile_of_qualifies
  qualifies_of_status substitution_profileName)

variable {h : Host} {α : Type} {P : α → Prop}

/-! ## Rules -/

/-- The checks that return have shown `P`. -/
abbrev Shows (h : Host) (p : Check α) (P : α → Prop) : Prop := Script.Shows h.Says p P

/-! ## The arguments -/

theorem Asked.mono {args args' : List String} {o : Options} (ho : Asked args o) (hsub : ∀ a ∈ args, a ∈ args') :
    Asked args' o where
  dataDir := fun ho' => ⟨hsub _ (ho.dataDir ho').1, hsub _ (ho.dataDir ho').2⟩
  startNow := fun ho' => hsub _ (ho.startNow ho')

theorem asked_default : Asked [] defaultOptions where
  dataDir := fun hne => absurd rfl hne
  startNow := fun hstart => by cases hstart

/-- What the arguments so far have set, and the ones that are left. -/
theorem parseOptions_shows {args done : List String} {o : Options} (ho : Asked done o) :
    Shows h (Check.parseOptions args o) (Asked (done ++ args)) := by
  induction args, o using Check.parseOptions.induct generalizing done with
  | case1 o =>
      rw [Check.parseOptions, List.append_nil]
      exact shows_pure ho
  | case2 o =>
      rw [Check.parseOptions, if_pos rfl]
      exact shows_exit
  | case3 o rest =>
      rw [Check.parseOptions, if_pos rfl, if_pos rfl]
      exact shows_exit
  | case4 o dataDir rest hdir ih =>
      rw [Check.parseOptions, if_pos rfl, if_neg hdir]
      have hasked : Asked (done ++ ["--ai-manager-data-dir", dataDir]) { o with dataDir := dataDir.toList } :=
        { ho.mono fun a ha => List.mem_append_left _ ha with
          dataDir := fun _ => by simp }
      exact (ih hasked).mono fun _ hrest => hrest.mono (by simp)
  | case5 rest o h₁ ih =>
      unfold Check.parseOptions
      rw [if_neg h₁, if_pos rfl]
      have hasked : Asked (done ++ ["--start-now"]) { o with startNow := true } :=
        { ho.mono fun a ha => List.mem_append_left _ ha with
          startNow := fun _ => by simp }
      exact (ih hasked).mono fun _ hrest => hrest.mono (by simp)
  | case6 arg rest o h₁ h₂ hhelp =>
      unfold Check.parseOptions
      rw [if_neg h₁, if_neg h₂, if_pos hhelp]
      exact shows_exit
  | case7 arg rest o h₁ h₂ hhelp =>
      unfold Check.parseOptions
      rw [if_neg h₁, if_neg h₂, if_neg hhelp]
      exact shows_fail

/-! ## The checks of the script -/

theorem checkHost_shows (o : Options) : Shows h (Check.checkHost o) fun _ => h.root ∧ h.machine = "x86_64" ∧
    (o.dataDir.head? = some '/' ∧ Install.Check.dataDirAllowed o.dataDir) ∧
    ∀ tool ∈ Check.requiredTools, h.tools tool := by
  refine (shows_attempt _).bind fun root hroot => shows_orFail.bind fun _ hstatus => ?_
  refine (shows_attempt _).bind fun machine hmachine =>
    shows_orFail.bind fun _ hx86 => shows_orFail.bind fun _ hdir => ?_
  refine (shows_forM (P := fun tool => h.tools tool) (fun tool => ?_) _).mono fun _ htools => ?_
  · refine shows_status.mono fun _ hfound => ?_
    obtain ⟨done, htold, hfound⟩ := hfound
    exact htold.mp hfound
  · rw [Bool.and_eq_true, beq_iff_eq] at hdir
    have houtput : machine.out = h.machine := hmachine
    exact ⟨hroot.mp (beq_iff_eq.mp hstatus), houtput ▸ beq_iff_eq.mp hx86, hdir, htools⟩

theorem takeLock_shows : Shows h Check.takeLock fun _ => True :=
  (shows_sh _).bind fun _ _ => shows_status.mono fun _ _ => trivial

theorem checkProfile_shows : Shows h Check.checkProfile fun profile => ∃ inventory, h.lspci = some inventory ∧
    Qualifies h.sysfs inventory ∧ profile = (profileName (displays inventory).length).toList := by
  refine (shows_sh _).bind fun _ _ => (shows_attempt _).bind fun done htold => shows_orFail.bind fun _ hstatus => ?_
  have hended : done.status = (governorProfile h.lspci h.sysfs).status ∧
      done.out = (governorProfile h.lspci h.sysfs).stdout := htold
  rw [beq_iff_eq, hended.1] at hstatus
  obtain ⟨inventory, hinventory, hqualifies⟩ := qualifies_of_status hstatus
  refine shows_pure ⟨inventory, hinventory, hqualifies, ?_⟩
  rw [hended.2, hinventory, governorProfile_of_qualifies hqualifies]
  exact substitution_profileName _ hqualifies.count

theorem checkBinary_shows : Shows h Check.checkBinary fun _ => h.binary.isSome ∧ h.verified ∧ h.executes := by
  refine (shows_attempt _).bind fun found hfound => shows_orFail.bind fun _ hstatus => ?_
  refine (shows_sh _).bind fun _ hverified => shows_status.mono fun _ hversion => ?_
  obtain ⟨done, -, hdone, htold⟩ := hverified
  obtain ⟨done', htold', hdone'⟩ := hversion
  exact ⟨hfound.mp (beq_iff_eq.mp hstatus), htold hdone, htold' hdone'⟩

theorem checkDriver_shows (o : Options) : Shows h (Check.checkDriver o) fun _ => o.startNow → h.driverReady :=
  shows_when fun _ => shows_status.mono fun _ hdriver => by
    obtain ⟨done, htold, hstatus⟩ := hdriver
    exact htold.mp hstatus

theorem checkLinks_shows (o : Options) : Shows h (Check.checkLinks o) fun _ => h.linked o.dataDir = false := by
  refine shows_status.mono fun _ hlinks => ?_
  obtain ⟨done, htold, hstatus⟩ := hlinks
  exact htold.mp hstatus

/-- The host is ready for the options that have been read, and for the profile. -/
theorem checks_show {args : List String} {A : Options → Prop}
    (hparse : Shows h (Check.parseOptions args defaultOptions) A) :
    Shows h (Check.checks args) fun checked => A checked.1 ∧ Ready h checked.1 checked.2 := by
  refine hparse.bind fun o hasked => (checkHost_shows o).bind fun _ hhost => ?_
  refine takeLock_shows.bind fun _ _ => checkProfile_shows.bind fun profile hcards => ?_
  refine checkBinary_shows.bind fun _ hbinary => (checkDriver_shows o).bind fun _ hdriver => ?_
  refine (checkLinks_shows o).bind fun _ hlinks => shows_pure ⟨hasked, ?_⟩
  obtain ⟨hroot, hmachine, hdir, htools⟩ := hhost
  obtain ⟨hfound, hverified, hexecutes⟩ := hbinary
  exact {
    root := hroot
    machine := hmachine
    dataDir := hdir
    tools := htools
    cards := hcards
    binary := hfound
    verified := hverified
    executes := hexecutes
    driver := hdriver
    links := hlinks }

end Cmp50Unlock.Install.Governor
