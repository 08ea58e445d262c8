import Cmp50Unlock.Scripts.Lemmas.Installed

/-!
# The installer and the daemon
-/

namespace Cmp50Unlock.Scripts

open Lib
open IdleGovernor

/-- What one line of output is for the daemon on the host of the inventory: a profile that it knows, whose document it
loads and whose request it accepts. -/
structure Installs (sysfs : Sysfs) (inventory : String) (ended : Ended) (profile document : String) : Prop where
  prints : ended.stdout = profile ++ "\n"
  known : profiles.lookup profile = some (displays inventory).length
  installed : installedDocument ended = some document
  loads : ∀ r, loadControl.Exec (RequestStep document) () r () ↔ r = .ok ⟨true, profile, 0⟩
  host : ∃ gpus, Finds sysfs inventory gpus
  accepts : ∀ c : Config, Finds sysfs inventory c.gpus → validate c ⟨true, profile, 0⟩ = none

theorem installs_of_qualifies {sysfs : Sysfs} {inventory : String} (h : Qualifies sysfs inventory) :
    Installs sysfs inventory (governorProfile (some inventory) sysfs) (profileName (displays inventory).length)
      (controlDocument (profileName (displays inventory).length).toList) := by
  rw [governorProfile_of_qualifies h]
  exact {
    prints := rfl
    known := lookup_profileName _ h.count
    installed := by rw [installedDocument, if_pos rfl, substitution_profileName _ h.count]
    loads := fun r => by rw [loadControl_iff (holds_controlDocument h.count), acceptControl_profileName h.count]
    host := exists_finds h
    accepts := fun c hc => validate_eq_none h hc }

/-- The script succeeds if and only if what it is given qualifies, and prints nothing otherwise; other functions of the
inventory do not matter. When it succeeds, the daemon accepts what is installed. -/
theorem installer_agrees (lspci : Option String) (sysfs : Sysfs) :
    ((governorProfile lspci sysfs).status = 0 ↔ ∃ inventory, lspci = some inventory ∧ Qualifies sysfs inventory) ∧
    ((governorProfile lspci sysfs).status ≠ 0 → (governorProfile lspci sysfs).stdout = "") ∧
    (∀ inventory inventory', displays inventory = displays inventory' →
      governorProfile (some inventory) sysfs = governorProfile (some inventory') sysfs) ∧
    ∀ inventory, lspci = some inventory → (governorProfile lspci sysfs).status = 0 →
      ∃ profile document, Installs sysfs inventory (governorProfile lspci sysfs) profile document := by
  have hothers : ∀ inventory inventory', displays inventory = displays inventory' →
      governorProfile (some inventory) sysfs = governorProfile (some inventory') sysfs := by
    intro inventory inventory' h
    have hcount : countCards sysfs (inventoryLines inventory) 0 = countCards sysfs (inventoryLines inventory') 0 := by
      rw [countCards_eq_foldlM, countCards_eq_foldlM]
      exact congrArg (List.foldlM (countCard sysfs) 0) h
    simp only [governorProfile, hcount]
  cases lspci with
  | none => exact ⟨by simp [governorProfile, refuse], fun _ => rfl, hothers, fun _ h => by cases h⟩
  | some inventory =>
      by_cases hq : Qualifies sysfs inventory
      · have hstatus : (governorProfile (some inventory) sysfs).status = 0 := by rw [governorProfile_of_qualifies hq]
        refine ⟨iff_of_true hstatus ⟨inventory, rfl, hq⟩, fun h => absurd hstatus h, hothers, ?_⟩
        rintro _ ⟨⟩ -
        exact ⟨_, _, installs_of_qualifies hq⟩
      · obtain ⟨message, hended⟩ := governorProfile_of_not_qualifies hq
        have hstatus : (governorProfile (some inventory) sysfs).status ≠ 0 := by
          rw [hended]
          exact one_ne_zero
        refine ⟨iff_of_false hstatus ?_, fun _ => by rw [hended]; rfl, hothers, fun _ _ h => absurd h hstatus⟩
        rintro ⟨_, ⟨⟩, h⟩
        exact hq h

end Cmp50Unlock.Scripts
