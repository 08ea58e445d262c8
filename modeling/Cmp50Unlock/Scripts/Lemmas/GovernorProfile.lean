import Cmp50Unlock.Scripts.GovernorProfile

/-!
# The script accepts what qualifies
-/

namespace Cmp50Unlock.Scripts

variable {sysfs : Sysfs} {f : PciFunction}

/-! ## One function -/

/-- Two words without a colon meet at the colon. -/
theorem append_colon_inj {a b a' b' : List Char} (ha' : ':' ∉ a') (hb' : ':' ∉ b') :
    a ++ ':' :: b = a' ++ ':' :: b' ↔ a = a' ∧ b = b' := by
  constructor
  · intro h
    rcases List.append_eq_append_iff.mp h with ⟨m, heq, hrest⟩ | ⟨m, heq, hrest⟩
    · cases m with
      | nil => simpa [eq_comm] using And.intro heq hrest
      | cons c m =>
          cases hrest
          simp [heq] at ha'
    · cases m with
      | nil => simpa [eq_comm] using And.intro heq hrest
      | cons c m =>
          cases hrest
          simp at hb'
  · rintro ⟨rfl, rfl⟩
    rfl

theorem mem_supportedSubsystems {vendor subsystem : List Char} :
    vendor ++ ':' :: subsystem ∈ supportedSubsystems ↔ (vendor, subsystem) ∈ subsystems := by
  simp only [supportedSubsystems, subsystems, List.mem_cons, List.not_mem_nil, or_false, Prod.mk.injEq]
  apply or_congr
  · exact @append_colon_inj _ _ "0x10de".toList "0x1554".toList (by decide) (by decide)
  · exact @append_colon_inj _ _ "0x1462".toList "0x371f".toList (by decide) (by decide)

theorem checkFunction_eq_none : checkFunction sysfs f = none ↔ f.Supported sysfs := by
  constructor
  · intro h
    unfold checkFunction at h
    split at h
    next => cases h
    next hdevice =>
      split at h
      next => cases h
      next vendor hvendor =>
        split at h
        next => cases h
        next subsystem hsubsystem =>
          split at h
          next hmem =>
            exact ⟨not_not.mp hdevice, vendor, subsystem, hvendor, hsubsystem, mem_supportedSubsystems.mp hmem⟩
          next => cases h
  · intro h
    obtain ⟨vendor, subsystem, hvendor, hsubsystem, hmem⟩ := h.subsystem
    simp [checkFunction, h.device, hvendor, hsubsystem, mem_supportedSubsystems.mpr hmem]

theorem exists_refuse_of_checkFunction {ended : Ended} (h : checkFunction sysfs f = some ended) :
    ∃ message, ended = refuse message := by
  unfold checkFunction at h
  split at h
  next => exact ⟨_, (Option.some.inj h).symm⟩
  next =>
    split at h
    next => exact ⟨_, (Option.some.inj h).symm⟩
    next =>
      split at h
      next => exact ⟨_, (Option.some.inj h).symm⟩
      next =>
        split at h
        next => cases h
        next => exact ⟨_, (Option.some.inj h).symm⟩

/-! ## The loop -/

/-- One more card, if it passes the checks. -/
def countCard (sysfs : Sysfs) (count : Nat) (f : PciFunction) : Except Ended Nat :=
  match checkFunction sysfs f with
  | some ended => .error ended
  | none => .ok (count + 1)

theorem countCard_of_supported (h : f.Supported sysfs) (count : Nat) : countCard sysfs count f = .ok (count + 1) := by
  rw [countCard, checkFunction_eq_none.mpr h]

theorem countCard_of_not_supported (h : ¬f.Supported sysfs) (count : Nat) :
    ∃ ended, countCard sysfs count f = .error ended := by
  cases hcheck : checkFunction sysfs f with
  | none => exact absurd (checkFunction_eq_none.mp hcheck) h
  | some ended => exact ⟨ended, by rw [countCard, hcheck]⟩

/-- The loop sees nothing but the display functions of the vendor. -/
theorem countCards_eq_foldlM (lines : List (List Char)) (count : Nat) :
    countCards sysfs lines count =
      ((lines.map readFunction).filter PciFunction.isNvidiaDisplay).foldlM (countCard sysfs) count := by
  induction lines generalizing count with
  | nil => rfl
  | cons line lines ih =>
      rw [countCards, List.map_cons]
      by_cases hdisplay : (readFunction line).isNvidiaDisplay = true
      · rw [if_neg (not_not.mpr hdisplay), List.filter_cons_of_pos hdisplay, List.foldlM_cons, countCard]
        cases checkFunction sysfs (readFunction line) with
        | some ended => rfl
        | none => exact ih (count + 1)
      · rw [if_pos hdisplay, List.filter_cons_of_neg hdisplay, ih]

/-- The count succeeds if and only if every function is supported. -/
theorem foldlM_countCard {functions : List PciFunction} {count n : Nat} :
    functions.foldlM (countCard sysfs) count = .ok n ↔
      (∀ f ∈ functions, f.Supported sysfs) ∧ n = count + functions.length := by
  induction functions generalizing count with
  | nil => simp [pure, Except.pure, eq_comm]
  | cons f functions ih =>
      rw [List.foldlM_cons, List.forall_mem_cons, List.length_cons]
      by_cases hf : f.Supported sysfs
      · rw [countCard_of_supported hf, iff_true_intro hf, true_and]
        exact ih.trans (and_congr_right fun _ => by omega)
      · obtain ⟨ended, herror⟩ := countCard_of_not_supported hf count
        rw [herror]
        simp [hf, bind, Except.bind]

theorem exists_refuse_of_countCards {lines : List (List Char)} {count : Nat} {ended : Ended}
    (h : countCards sysfs lines count = .error ended) : ∃ message, ended = refuse message := by
  induction lines generalizing count with
  | nil => cases h
  | cons line lines ih =>
      rw [countCards] at h
      split at h
      next => exact ih h
      next =>
        split at h
        next hcheck =>
          cases h
          exact exists_refuse_of_checkFunction hcheck
        next => exact ih h

/-! ## The whole function -/

variable {inventory : String}

/-- The text of a profile. -/
def profileName (n : Nat) : String := s!"cmp50-{n}x20gb"

theorem profileName_line (n : Nat) : profileName n ++ "\n" = s!"cmp50-{n}x20gb\n" := by
  rw [profileName, String.append_assoc]
  rfl

theorem governorProfile_of_qualifies (h : Qualifies sysfs inventory) :
    governorProfile (some inventory) sysfs = ⟨0, profileName (displays inventory).length ++ "\n", ""⟩ := by
  have hcount : countCards sysfs (inventoryLines inventory) 0 = .ok (displays inventory).length := by
    rw [countCards_eq_foldlM, foldlM_countCard]
    exact ⟨h.supported, (Nat.zero_add _).symm⟩
  simp only [governorProfile, hcount, if_pos h.count, profileName_line]

theorem governorProfile_of_not_qualifies (h : ¬Qualifies sysfs inventory) :
    ∃ message, governorProfile (some inventory) sysfs = refuse message := by
  simp only [governorProfile]
  split
  next hcount => exact exists_refuse_of_countCards hcount
  next count hcount =>
    rw [countCards_eq_foldlM, foldlM_countCard, Nat.zero_add] at hcount
    obtain ⟨hsupported, hlength⟩ := hcount
    split
    next hmem => exact absurd ⟨hsupported, hlength ▸ hmem⟩ h
    next => exact ⟨_, rfl⟩

theorem qualifies_of_status {lspci : Option String} (hstatus : (governorProfile lspci sysfs).status = 0) :
    ∃ inventory, lspci = some inventory ∧ Qualifies sysfs inventory := by
  cases lspci with
  | none => exact absurd hstatus one_ne_zero
  | some inventory =>
      by_cases hq : Qualifies sysfs inventory
      · exact ⟨inventory, rfl, hq⟩
      · obtain ⟨message, hended⟩ := governorProfile_of_not_qualifies hq
        rw [hended] at hstatus
        exact absurd hstatus one_ne_zero

end Cmp50Unlock.Scripts
