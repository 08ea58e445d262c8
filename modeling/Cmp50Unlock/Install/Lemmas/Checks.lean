import Cmp50Unlock.Install.Spec
import Cmp50Unlock.Lib.Checks

/-!
# What the checks show
-/

namespace Cmp50Unlock.Install

open Lib
open Lib.Script (shows_pure shows_attempt shows_sh shows_exit shows_fail shows_orFail shows_test shows_when shows_forM)
open Scripts (Signal)

variable {h : Host} {α : Type} {P : α → Prop}

/-! ## Rules -/

/-- The checks that return have shown `P`. -/
abbrev Shows (h : Host) (p : Check α) (P : α → Prop) : Prop := Script.Shows h.Says p P

/-! ## The arguments -/

theorem Asked.mono {args args' : List String} {o : Options} (ho : Asked args o) (hsub : ∀ a ∈ args, a ∈ args') :
    Asked args' o where
  installUserland := fun ho' => hsub _ (ho.installUserland ho')
  rebuildInitramfs := fun ho' => hsub _ (ho.rebuildInitramfs ho')
  enableIdleGovernor := fun ho' => hsub _ (ho.enableIdleGovernor ho')
  disableNouveau := fun ho' => hsub _ (ho.disableNouveau ho')
  allowGen2 := fun ho' => hsub _ (ho.allowGen2 ho')
  stage := fun ho' => ⟨hsub _ (ho.stage ho').1, hsub _ (ho.stage ho').2⟩
  dataDir := fun ho' => ⟨hsub _ (ho.dataDir ho').1, hsub _ (ho.dataDir ho').2⟩

theorem asked_default : Asked [] defaultOptions := by
  constructor <;> simp [defaultOptions]

theorem mem_snoc {done : List String} {arg : String} : arg ∈ done ++ [arg] := List.mem_append_right done (.head [])

theorem Asked.snoc {done : List String} {o : Options} (ho : Asked done o) (arg : String) : Asked (done ++ [arg]) o :=
  ho.mono fun _ => List.mem_append_left [arg]

theorem Asked.value {done : List String} {o : Options} (ho : Asked done o) (arg value : String) :
    Asked (done ++ [arg] ++ [value]) o := (ho.snoc arg).snoc value

theorem shows_rest {args done : List String} {arg : String} {p : Check Options}
    (hp : Shows h p (Asked (done ++ [arg] ++ args))) : Shows h p (Asked (done ++ arg :: args)) := by
  rw [List.append_assoc, List.singleton_append] at hp
  exact hp

/-- What the arguments so far have set, and the ones that are left. -/
theorem parseOptions_shows {args done : List String} {o : Options} (ho : Asked done o) :
    Shows h (Check.parseOptions args o) (Asked (done ++ args)) := by
  induction args, o using Check.parseOptions.induct generalizing done with
  | case1 o =>
      rw [Check.parseOptions, List.append_nil]
      exact shows_pure ho
  | case2 o =>
      rw [Check.parseOptions, if_pos rfl]
      exact shows_exit
  | case3 o rest =>
      rw [Check.parseOptions, if_pos rfl, if_pos rfl]
      exact shows_exit
  | case4 o stage rest hstage ih =>
      rw [Check.parseOptions, if_pos rfl, if_neg hstage]
      refine shows_rest (shows_rest (ih { ho.value "--stage" stage with stage := fun _ => ⟨?_, mem_snoc⟩ }))
      exact List.mem_append_left _ mem_snoc
  | case5 rest o h₁ ih =>
      unfold Check.parseOptions
      rw [if_neg h₁, if_pos rfl]
      exact shows_rest (ih { ho.snoc "--install-userland" with installUserland := fun _ => mem_snoc })
  | case6 rest o h₁ h₂ ih =>
      unfold Check.parseOptions
      rw [if_neg h₁, if_neg h₂, if_pos rfl]
      exact shows_rest (ih { ho.snoc "--initramfs" with rebuildInitramfs := fun _ => mem_snoc })
  | case7 rest o h₁ h₂ h₃ ih =>
      unfold Check.parseOptions
      rw [if_neg h₁, if_neg h₂, if_neg h₃, if_pos rfl]
      exact shows_rest (ih { ho.snoc "--idle-governor" with enableIdleGovernor := fun _ => mem_snoc })
  | case8 rest o h₁ h₂ h₃ h₄ ih =>
      unfold Check.parseOptions
      rw [if_neg h₁, if_neg h₂, if_neg h₃, if_neg h₄, if_pos rfl]
      exact shows_rest (ih { ho.snoc "--disable-nouveau" with disableNouveau := fun _ => mem_snoc })
  | case9 o h₁ h₂ h₃ h₄ h₅ =>
      rw [Check.parseOptions, if_neg h₁, if_neg h₂, if_neg h₃, if_neg h₄, if_neg h₅, if_pos rfl]
      exact shows_exit
  | case10 o rest h₁ h₂ h₃ h₄ h₅ =>
      rw [Check.parseOptions, if_neg h₁, if_neg h₂, if_neg h₃, if_neg h₄, if_neg h₅, if_pos rfl, if_pos rfl]
      exact shows_exit
  | case11 o dataDir rest hdir h₁ h₂ h₃ h₄ h₅ ih =>
      rw [Check.parseOptions, if_neg h₁, if_neg h₂, if_neg h₃, if_neg h₄, if_neg h₅, if_pos rfl, if_neg hdir]
      refine shows_rest (shows_rest (ih { ho.value "--ai-manager-data-dir" dataDir with
        dataDir := fun _ => ⟨List.mem_append_left _ mem_snoc, ?_⟩ }))
      rw [String.ofList_toList]
      exact mem_snoc
  | case12 rest o h₁ h₂ h₃ h₄ h₅ h₆ ih =>
      unfold Check.parseOptions
      rw [if_neg h₁, if_neg h₂, if_neg h₃, if_neg h₄, if_neg h₅, if_neg h₆, if_pos rfl]
      exact shows_rest (ih { ho.snoc "--allow-experimental-gen2" with allowGen2 := fun _ => mem_snoc })
  | case13 arg rest o h₁ h₂ h₃ h₄ h₅ h₆ h₇ hhelp =>
      unfold Check.parseOptions
      rw [if_neg h₁, if_neg h₂, if_neg h₃, if_neg h₄, if_neg h₅, if_neg h₆, if_neg h₇, if_pos hhelp]
      exact shows_exit
  | case14 arg rest o h₁ h₂ h₃ h₄ h₅ h₆ h₇ hhelp =>
      unfold Check.parseOptions
      rw [if_neg h₁, if_neg h₂, if_neg h₃, if_neg h₄, if_neg h₅, if_neg h₆, if_neg h₇, if_neg hhelp]
      exact shows_fail

/-! ## The checks of the script -/

theorem checkOptions_shows (o : Options) : Shows h (Check.checkOptions o) fun _ =>
    o.stage ∈ stages ∧ (o.disableNouveau → o.rebuildInitramfs) ∧ (o.stage = "gen2" → o.allowGen2) := by
  refine shows_orFail.bind fun _ hstage => shows_orFail.bind fun _ hpolicy => shows_orFail.mono fun _ hgen2 => ?_
  refine ⟨List.contains_iff_mem.mp hstage, fun hdisable => ?_, fun hstage' => ?_⟩
  · rw [hdisable] at hpolicy
    simpa using hpolicy
  · rw [hstage'] at hgen2
    simpa using hgen2

theorem checkGen2_shows (release : Release) : Shows h (Check.checkGen2 release) fun _ =>
    String.ofList release ∈ Scripts.secondPassKernels ∧ ∀ tool ∈ Check.gen2Tools, h.tools tool := by
  refine shows_orFail.bind fun _ hkernel => (shows_forM (P := fun tool => h.tools tool) (fun tool => ?_) _).mono ?_
  · refine shows_test.mono ?_
    rintro _ ⟨done, htold, hfound⟩
    exact htold.mp (beq_iff_eq.mp hfound)
  · exact fun _ htools => ⟨List.contains_iff_mem.mp hkernel, htools⟩

theorem checkDataDir_shows (dataDir : List Char) : Shows h (Check.checkDataDir dataDir) fun _ =>
    dataDir.head? = some '/' ∧ Check.dataDirAllowed dataDir :=
  shows_orFail.bind fun _ habsolute => shows_orFail.mono fun _ hallowed => ⟨beq_iff_eq.mp habsolute, hallowed⟩

theorem checkRepoFile_shows (path message : String) : Shows h (Check.checkRepoFile path message) fun _ => True :=
  shows_test.mono fun _ _ => trivial

theorem checkFiles_shows (o : Options) (release : Release) :
    Shows h (Check.checkFiles o release) fun _ => h.headers = true := by
  refine (checkRepoFile_shows _ _).bind fun _ _ => (shows_attempt _).bind fun headers hheaders => ?_
  refine shows_orFail.bind fun _ hfound => (shows_when (P := True) fun _ => ?_).bind fun _ _ => ?_
  · exact shows_test.mono fun _ _ => trivial
  · refine (shows_when (P := True) fun _ => checkRepoFile_shows _ _).bind fun _ _ => ?_
    exact (checkRepoFile_shows _ _).mono fun _ _ => hheaders.mp (beq_iff_eq.mp hfound)

theorem checkGovernor_shows : Shows h Check.checkGovernor fun _ => True := by
  refine (checkRepoFile_shows _ _).bind fun _ _ => (shows_attempt _).bind fun _ _ => shows_orFail.bind fun _ _ => ?_
  refine (shows_sh _).bind fun _ _ => (shows_attempt _).bind fun _ _ => shows_orFail.bind fun _ _ => ?_
  exact (shows_sh _).bind fun _ _ => shows_test.mono fun _ _ => trivial

/-- The card has a supported subsystem, and nouveau does not own it unless that is to change. -/
def DeviceReady (h : Host) (o : Options) (bdf : String) : Prop :=
  (∃ vendor device, h.subsystem bdf = some (vendor, device) ∧
    Scripts.dropHex vendor.toList ++ ':' :: Scripts.dropHex device.toList ∈ Scripts.secondPassSubsystems) ∧
  (h.nouveau bdf → o.disableNouveau)

theorem checkDevice_shows (o : Options) (bdf : String) :
    Shows h (Check.checkDevice o bdf) fun _ => DeviceReady h o bdf := by
  refine (shows_attempt _).bind fun _ _ => shows_orFail.bind fun _ _ => (shows_sh _).bind fun vendor hvendor => ?_
  refine (shows_sh _).bind fun device hdevice => shows_orFail.bind fun _ hsupported => ?_
  refine (shows_attempt _).bind fun owned howned => shows_orFail.mono fun _ hdriver => ⟨⟨vendor, device, ?_, ?_⟩, ?_⟩
  · obtain ⟨done, rfl, hstatus, htold⟩ := hvendor
    obtain ⟨done', rfl, hstatus', htold'⟩ := hdevice
    have hfirst := htold hstatus
    have hsecond := htold' hstatus'
    cases hsubsystem : h.subsystem bdf with
    | none => simp [hsubsystem] at hfirst
    | some subsystem =>
        simp only [hsubsystem, Option.map_some, Option.some.injEq] at hfirst hsecond
        rw [← hfirst, ← hsecond]
  · exact List.contains_iff_mem.mp hsupported
  · intro hnouveau
    rw [beq_iff_eq.mpr (howned.mpr hnouveau)] at hdriver
    simpa using hdriver

theorem checkDevices_shows (o : Options) : Shows h (Check.checkDevices o) fun _ =>
    h.devices ≠ [] ∧ (∀ bdf ∈ h.devices, DeviceReady h o bdf) ∧ h.secureBoot = false := by
  refine (shows_attempt _).bind fun _ _ => shows_orFail.bind fun _ _ => (shows_sh _).bind fun devices hdevices => ?_
  obtain ⟨done, rfl, -, htold⟩ := hdevices
  have hlist : done.out = h.devices := htold
  refine shows_orFail.bind fun _ hfound => (shows_forM (checkDevice_shows o) _).bind fun _ hready => ?_
  refine (shows_sh _).bind fun _ _ => (shows_attempt _).bind fun secure hsecure => shows_orFail.mono fun _ hoff => ?_
  rw [hlist] at hfound hready
  refine ⟨?_, hready, ?_⟩
  · exact List.ne_nil_of_length_pos (of_decide_eq_true hfound)
  · have hstatus : secure.status = 0 ↔ h.secureBoot := hsecure
    rw [← Bool.not_eq_true, ← hstatus]
    simpa using hoff

/-- The host is ready for the options that have been read. -/
theorem checks_show_of {args : List String} {A : Options → Prop}
    (hparse : Shows h (Check.parseOptions args defaultOptions) A) :
    Shows h (Check.checks h.release args) fun o => A o ∧ Ready h o := by
  refine hparse.bind fun o hasked => ?_
  refine (checkOptions_shows o).bind fun _ hoptions => (shows_when fun _ => checkGen2_shows h.release).bind
    fun _ hgen2 => ?_
  refine (shows_attempt _).bind fun root hroot => shows_orFail.bind fun _ hstatus => ?_
  refine (checkDataDir_shows _).bind fun _ hdir => (checkFiles_shows _ _).bind fun _ hheaders => ?_
  refine (shows_when fun _ => checkGovernor_shows).bind fun _ _ => (checkDevices_shows o).bind fun _ hdevices => ?_
  obtain ⟨hstage, hpolicy, hallow⟩ := hoptions
  obtain ⟨hsome, hready, hsecure⟩ := hdevices
  refine shows_pure ⟨hasked, ?_⟩
  exact {
    stage := hstage
    policy := hpolicy
    gen2 := fun ho => ⟨hallow ho, hgen2 ho⟩
    root := hroot.mp (beq_iff_eq.mp hstatus)
    dataDir := hdir
    headers := hheaders
    devices := hsome
    supported := fun bdf hmem => (hready bdf hmem).1
    driver := fun bdf hmem => (hready bdf hmem).2
    secureBoot := hsecure }

/-- The options that the script goes on with were given. -/
theorem checks_show (args : List String) :
    Shows h (Check.checks h.release args) fun o => Asked args o ∧ Ready h o :=
  checks_show_of (parseOptions_shows asked_default)

end Cmp50Unlock.Install
