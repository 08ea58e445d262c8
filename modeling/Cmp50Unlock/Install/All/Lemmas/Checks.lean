import Cmp50Unlock.Install.All.Spec
import Cmp50Unlock.Scripts.Lemmas.Installed

/-!
# What the checks of the installer of everything show
-/

namespace Cmp50Unlock.Install.All

open Lib
open Lib.Script (shows_pure shows_attempt shows_sh shows_exit shows_fail shows_orFail shows_status shows_ite)
open Scripts (Signal)

variable {h : Host} {α : Type} {P : α → Prop}

/-- The checks that return have shown `P`. -/
abbrev Shows (h : Host) (p : Check α) (P : α → Prop) : Prop := Script.Shows h.Says p P

/-! ## The userspace -/

/-- The loop ends at the first candidate that is a file. -/
theorem selects_shows (library expected : String) (candidates : List (List Char)) :
    Shows h (Check.selects library expected candidates) fun found => found = true ↔
      ∃ path, (candidates.find? h.regular).bind h.resolved = some path ∧
        Check.basename path = (library ++ ".so." ++ expected).toList := by
  induction candidates with
  | nil => exact shows_pure (by simp)
  | cons candidate rest ih =>
      rw [Check.selects]
      refine (shows_attempt _).bind fun found hfound => ?_
      have hregular : found.status = 0 ↔ h.regular candidate := hfound
      refine shows_ite (fun hstatus => ?_) fun hstatus => ?_
      · refine (shows_attempt _).bind fun resolved hresolved => shows_pure ?_
        have hpath : h.resolved candidate = if resolved.status = 0 then some resolved.out else none := hresolved
        rw [List.find?_cons_of_pos (hregular.mp hstatus), Option.bind_some, hpath,
          Bool.and_eq_true, beq_iff_eq, beq_iff_eq]
        by_cases hread : resolved.status = 0
        · simp [hread]
        · simp [hread]
      · rw [List.find?_cons_of_neg (mt hregular.mpr hstatus)]
        exact ih

theorem libraryMatches_shows (expected library : String) :
    Shows h (Check.libraryMatches expected library) fun found => found = true ↔ h.Selects library expected := by
  refine (shows_attempt _).bind fun listing hlisting => ?_
  have hout : listing.out = h.listing := hlisting
  rw [hout]
  exact selects_shows library expected _

theorem toolFound_shows (tool : String) :
    Shows h (Check.toolFound tool) fun found => found = true ↔ h.install.tools tool := by
  refine (shows_attempt _).bind fun found hfound => shows_pure ?_
  rw [beq_iff_eq]
  exact hfound

theorem allOf_shows {test : α → Check Bool} (htest : ∀ a, Shows h (test a) fun holds => holds = true ↔ P a)
    (as : List α) :
    Shows h (Check.allOf test as) fun holds => holds = true ↔ ∀ a ∈ as, P a := by
  induction as with
  | nil => exact shows_pure (by simp)
  | cons a as ih =>
      rw [Check.allOf]
      refine (htest a).bind fun holds hholds => shows_ite (fun htrue => ih.mono fun _ hrest => ?_)
        fun hfalse => shows_pure ?_
      · rw [hrest, List.forall_mem_cons, and_iff_right (hholds.mp htrue)]
      · rw [List.forall_mem_cons, ← hholds]
        simp [hfalse]

theorem userspaceMatches_shows (expected : String) :
    Shows h (Check.userspaceMatches expected) fun found => found = true ↔ h.Userspace expected := by
  refine shows_ite (fun hversion => ?_) fun hversion => shows_pure ?_
  · refine (allOf_shows toolFound_shows _).bind fun tools htools =>
      shows_ite (fun htrue => ?_) fun hfalse => shows_pure ?_
    · refine (allOf_shows (libraryMatches_shows expected) _).mono fun found hfound => ?_
      rw [hfound]
      exact ⟨fun hlibraries => ⟨hversion, htools.mp htrue, hlibraries⟩, fun huserspace => huserspace.libraries⟩
    · exact iff_of_false Bool.false_ne_true fun huserspace => hfalse (htools.mpr huserspace.tools)
  · exact iff_of_false Bool.false_ne_true fun huserspace => hversion huserspace.version

/-! ## The arguments -/

theorem Asked.mono {args args' : List String} {o : Options} (ho : Asked args o) (hsub : ∀ a ∈ args, a ∈ args') :
    Asked args' o where
  dataDir := fun ho' => ⟨hsub _ (ho.dataDir ho').1, hsub _ (ho.dataDir ho').2⟩
  allowGen2 := fun ho' => hsub _ (ho.allowGen2 ho')
  installDeps := fun ho' => hsub _ (ho.installDeps ho')

theorem asked_default : Asked [] defaultOptions where
  dataDir := fun hne => absurd rfl hne
  allowGen2 := fun hallow => by cases hallow
  installDeps := fun hdeps => by cases hdeps

/-- What the arguments so far have set, and the ones that are left. -/
theorem parseOptions_shows {args done : List String} {o : Options} (ho : Asked done o) :
    Shows h (Check.parseOptions args o) (Asked (done ++ args)) := by
  induction args, o using Check.parseOptions.induct generalizing done with
  | case1 o =>
      rw [Check.parseOptions, List.append_nil]
      exact shows_pure ho
  | case2 rest o ih =>
      unfold Check.parseOptions
      rw [if_pos rfl]
      have hasked : Asked (done ++ ["--allow-experimental-gen2"]) { o with allowGen2 := true } :=
        { ho.mono fun a ha => List.mem_append_left _ ha with
          allowGen2 := fun _ => by simp }
      exact (ih hasked).mono fun _ hrest => hrest.mono (by simp)
  | case3 rest o h₁ ih =>
      unfold Check.parseOptions
      rw [if_neg h₁, if_pos rfl]
      have hasked : Asked (done ++ ["--install-deps"]) { o with installDeps := true } :=
        { ho.mono fun a ha => List.mem_append_left _ ha with
          installDeps := fun _ => by simp }
      exact (ih hasked).mono fun _ hrest => hrest.mono (by simp)
  | case4 o h₁ h₂ =>
      rw [Check.parseOptions, if_neg h₁, if_neg h₂, if_pos rfl]
      exact shows_exit
  | case5 o rest h₁ h₂ =>
      rw [Check.parseOptions, if_neg h₁, if_neg h₂, if_pos rfl, if_pos rfl]
      exact shows_exit
  | case6 o dataDir rest hdir h₁ h₂ ih =>
      rw [Check.parseOptions, if_neg h₁, if_neg h₂, if_pos rfl, if_neg hdir]
      have hasked : Asked (done ++ ["--ai-manager-data-dir", dataDir]) { o with dataDir := dataDir.toList } :=
        { ho.mono fun a ha => List.mem_append_left _ ha with
          dataDir := fun _ => by simp }
      exact (ih hasked).mono fun _ hrest => hrest.mono (by simp)
  | case7 arg rest o h₁ h₂ h₃ hhelp =>
      unfold Check.parseOptions
      rw [if_neg h₁, if_neg h₂, if_neg h₃, if_pos hhelp]
      exact shows_exit
  | case8 arg rest o h₁ h₂ h₃ hhelp =>
      unfold Check.parseOptions
      rw [if_neg h₁, if_neg h₂, if_neg h₃, if_neg hhelp]
      exact shows_fail

/-! ## The checks of the script -/

theorem checkHost_shows (o : Options) : Shows h (Check.checkHost o) fun _ =>
    o.allowGen2 ∧ h.install.root ∧ String.ofList h.install.release ∈ Scripts.secondPassKernels ∧
      (o.dataDir.head? = some '/' ∧ Install.Check.dataDirAllowed o.dataDir) ∧ h.install.machine = "x86_64" := by
  refine shows_orFail.bind fun _ hallow => (shows_attempt _).bind fun root hroot =>
    shows_orFail.bind fun _ hstatus => ?_
  refine (shows_attempt _).bind fun kernel hkernel => shows_orFail.bind fun _ hsupported => shows_orFail.bind
    fun _ hdir => ?_
  refine (shows_attempt _).bind fun machine hmachine => shows_orFail.mono fun _ hx86 => ?_
  have hrelease : kernel.out = h.install.release := hkernel
  have houtput : machine.out = h.install.machine := hmachine
  rw [Bool.and_eq_true, beq_iff_eq] at hdir
  rw [hrelease] at hsupported
  rw [houtput] at hx86
  exact ⟨hallow, hroot.mp (beq_iff_eq.mp hstatus), List.contains_iff_mem.mp hsupported, hdir, beq_iff_eq.mp hx86⟩

theorem takeLock_shows : Shows h Check.takeLock fun _ => h.install.tools "flock" = true := by
  refine (shows_attempt _).bind fun found hfound => shows_orFail.bind fun _ hstatus => ?_
  refine (shows_sh _).bind fun _ _ => shows_status.mono fun _ _ => ?_
  exact hfound.mp (beq_iff_eq.mp hstatus)

theorem checkGovernor_shows : Shows h Check.checkGovernor fun _ =>
    (∃ inventory, h.governor.lspci = some inventory ∧ Scripts.Qualifies h.governor.sysfs inventory) ∧
      h.governor.verified ∧ h.governor.executes := by
  refine (shows_sh _).bind fun _ _ => (shows_attempt _).bind fun profile hprofile =>
    shows_orFail.bind fun _ hstatus => ?_
  refine (shows_sh _).bind fun _ hverified => shows_status.mono fun _ hversion => ?_
  have hended : profile.status = (Scripts.governorProfile h.governor.lspci h.governor.sysfs).status := hprofile
  obtain ⟨done, -, hdone, htold⟩ := hverified
  obtain ⟨done', htold', hdone'⟩ := hversion
  exact ⟨Scripts.qualifies_of_status (hended.symm.trans (beq_iff_eq.mp hstatus)), htold hdone, htold' hdone'⟩

/-- The options were given, and the host may have them. -/
theorem checkOptions_shows (args : List String) : Shows h (Check.checkOptions args) fun o => Asked args o ∧
    o.allowGen2 ∧ h.install.root ∧ String.ofList h.install.release ∈ Scripts.secondPassKernels ∧
      (o.dataDir.head? = some '/' ∧ Install.Check.dataDirAllowed o.dataDir) ∧ h.install.machine = "x86_64" :=
  (parseOptions_shows asked_default).bind fun o hasked =>
    (checkHost_shows o).bind fun _ hhost => shows_pure ⟨hasked, hhost⟩

theorem checkStaging_shows : Shows h Check.checkStaging fun userspace => h.install.tools "flock" = true ∧
    ((∃ inventory, h.governor.lspci = some inventory ∧ Scripts.Qualifies h.governor.sysfs inventory) ∧
      h.governor.verified ∧ h.governor.executes) ∧ (userspace = true ↔ h.Userspace driverVersion) := by
  refine takeLock_shows.bind fun _ hflock => checkGovernor_shows.bind fun _ hgovernor => (shows_sh _).bind fun _ _ => ?_
  exact (userspaceMatches_shows _).mono fun userspace huserspace => ⟨hflock, hgovernor, huserspace⟩

end Cmp50Unlock.Install.All
