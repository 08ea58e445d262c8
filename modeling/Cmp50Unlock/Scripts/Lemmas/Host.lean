import Cmp50Unlock.Scripts.Host
import Cmp50Unlock.Scripts.Lemmas.VerifyLive
import Cmp50Unlock.Verify.Theorems

/-!
# The live verification on a host
-/

namespace Cmp50Unlock.Scripts

open Lib
open Verify (HostRm Answers IsReport parseDeviceIndex passed verify)

variable {host : Host} {readings : Readings} {m : Machine} {g : Gpu} {n : Nat}

/-! ## Indices and minors -/

theorem digits_injective {n n' : Nat} (h : digits n = digits n') : n = n' := by
  rw [← (decimal_toString n).value, ← (decimal_toString n').value]
  exact congrArg _ h

theorem digit_of_mem_digits {c : Char} (hc : c ∈ digits n) : c.isDigit := (decimal_toString n).digits c hc

theorem not_mem_digits {c : Char} (hc : c.isDigit = false) : c ∉ digits n := by
  intro hmem
  rw [digit_of_mem_digits hmem] at hc
  cases hc

theorem isSpace_of_isDigit {c : Char} (hc : c.isDigit) : Verify.isSpace c = false := by
  have hlo : 48 ≤ c.toNat := Char.isDigit_iff_toNat.mp hc |>.1
  have hspace : c ≠ ' ' := by
    rintro rfl
    exact absurd hc (by decide)
  simp [Verify.isSpace, hspace]
  omega

theorem trim_digits : (String.ofList (digits n)).toList.dropWhile Verify.isSpace = digits n := by
  rw [String.toList_ofList, List.dropWhile_eq_self_iff]
  intro hlength
  rw [isSpace_of_isDigit (digit_of_mem_digits (List.getElem_mem hlength))]
  decide

/-- The probe reads a number below 128 as a minor. -/
theorem parseDeviceIndex_digits {k : Int} :
    parseDeviceIndex (String.ofList (digits n)) = some k ↔ n < 128 ∧ k = n := by
  rw [parseDeviceIndex, trim_digits]
  constructor
  · intro h
    cases hparse : parseInt 64 (digits n) with
    | none =>
        rw [hparse] at h
        cases h
    | some z =>
        have hdecimal : Decimal (digits n) n := decimal_toString n
        rw [hdecimal.parseInt_eq] at hparse
        obtain ⟨n', hn', -, rfl⟩ := half_of_parseInt_plain hparse
        have heq : n' = n := hn'.value.symm.trans hdecimal.value
        rw [hdecimal.parseInt_eq, hparse] at h
        simp only [Option.ite_none_left_eq_some, not_or, Option.some.injEq] at h
        omega
  · rintro ⟨hlt, rfl⟩
    have hparse : parseInt 64 (digits n) = some n :=
      parseInt_complete (.plain (decimal_toString n)) (by omega) (by omega) (by decide)
    rw [hparse]
    exact if_neg (by omega)

/-! ## The cards that are listed -/

/-- The digits of a CMP 50HX are found nowhere but in their own place. -/
theorem infix_iff {d : List Char} (hlength : d.length = 8) :
    "1E0910DE".toList <:+: ' ' :: '0' :: 'X' :: d ↔ d = "1E0910DE".toList := by
  constructor
  · rintro ⟨before, after, h⟩
    have hlengths := congrArg List.length h
    simp only [List.length_append, List.length_cons, hlength] at hlengths
    match before, h with
    | [], h => simp at h
    | [_], h => simp at h
    | [_, _], h => simp at h
    | [_, _, _], h =>
        have hafter : after = [] := by simpa using hlengths
        subst hafter
        simp only [List.append_nil, List.cons_append, List.nil_append, List.cons.injEq] at h
        exact h.2.2.2.symm
    | _ :: _ :: _ :: _ :: before, h => simp at hlengths; omega
  · rintro rfl
    exact ⟨[' ', '0', 'X'], [], rfl⟩

theorem not_comma_of_hexadecimal : ',' ∉ " 0x".toList ++ g.deviceId := by
  intro hmem
  rcases List.mem_append.mp hmem with hmem | hmem
  · revert hmem
    decide
  · exact absurd (g.hexadecimal ',' hmem) (by decide)

theorem awkIndex_line : awkIndex g.line = if g.isCmp then some (digits g.index) else none := by
  have hsplit : g.line.splitOn ',' = [digits g.index, " 0x".toList ++ g.deviceId] := by
    rw [Gpu.line, List.splitOn_append_cons_self_of_not_mem (not_mem_digits (by decide)),
      List.splitOn_eq_singleton not_comma_of_hexadecimal]
  have hfilter : (digits g.index).filter (· != ' ') = digits g.index := by
    rw [List.filter_eq_self]
    intro c hc
    apply bne_iff_ne.mpr
    rintro rfl
    exact not_mem_digits (by decide) hc
  have hinfix : "1E0910DE".toList <:+: (" 0x".toList ++ g.deviceId).map Char.toUpper ↔ g.isCmp := by
    rw [Gpu.isCmp, beq_iff_eq, ← infix_iff (by rw [List.length_map, g.eight]), List.map_append]
    rfl
  rw [awkIndex, hsplit]
  simp only [hfilter, hinfix]

theorem gpuIndices_eq (h : readings.On host m) : m.gpuIndices = host.cmps.map fun g => digits g.index := by
  rw [Machine.gpuIndices, h.lines, Host.cmps]
  induction host.gpus with
  | nil => rfl
  | cons g gpus ih =>
      rw [List.map_cons, List.filterMap_cons, awkIndex_line]
      cases hcmp : g.isCmp with
      | true => simp [hcmp, ih]
      | false => simp [hcmp, ih]

theorem mem_gpus_of_mem_cmps (hg : g ∈ host.cmps) : g ∈ host.gpus := (List.mem_filter.mp hg).1

theorem eq_of_minor {g' : Gpu} (hg : g ∈ host.gpus) (hg' : g' ∈ host.gpus) (h : g.minor = g'.minor) : g = g' :=
  List.inj_on_of_nodup_map host.minors hg hg' h

/-! ## Reports -/

/-- The probe succeeds only with the report of the GPU that has its argument as the minor. -/
theorem report_of_probe (h : readings.On host m) {report : String} (hprobe : m.probe (digits n) = some (0, report)) :
    ∃ g ∈ host.gpus, g.minor = n ∧ IsReport (readings.answers g) report := by
  obtain ⟨log, hexec⟩ := h.probe (digits n)
  obtain ⟨minor, instances, hparse, hresolves, hreport⟩ := Verify.main_reports.exec hexec report hprobe
  rw [List.map_singleton, List.singleton_inj, parseDeviceIndex_digits] at hparse
  obtain ⟨hlt, rfl⟩ := hparse
  obtain ⟨g, hg, hminor, hanswers⟩ := h.gpus n hlt instances hresolves
  rw [hanswers] at hreport
  exact ⟨g, hg, hminor, hreport⟩

/-- The verdict on the report of a GPU. -/
theorem verify_report {answers : Answers} {report : String} (hkeeps : answers.KeepsIndices)
    (h : IsReport answers report) :
    verify report = .ok passed ↔ answers.Passes := by
  obtain ⟨deviceIndex, hloads⟩ := h
  rw [Verify.verify_iff hloads, Verify.checkReport_succeeds deviceIndex (Verify.controlsOf_named answers),
    Verify.passes_iff hkeeps]

theorem probe_minor (h : readings.On host m) (hg : g ∈ host.gpus) {report : String}
    (hprobe : m.probe (digits g.minor) = some (0, report)) : IsReport (readings.answers g) report := by
  obtain ⟨g', hg', hminor, hreport⟩ := report_of_probe h hprobe
  rwa [eq_of_minor hg hg' hminor.symm]

theorem accepts_minor (h : readings.On host m) (hg : g ∈ host.gpus) :
    m.Accepts (digits g.minor) ↔ PassesRm readings m g := by
  constructor
  · rintro ⟨report, hprobe, hverdict⟩
    have hreport := probe_minor h hg hprobe
    exact ⟨⟨report, hprobe⟩, (verify_report (h.indices g hg) hreport).mp hverdict⟩
  · rintro ⟨⟨report, hprobe⟩, hpasses⟩
    have hreport := probe_minor h hg hprobe
    exact ⟨report, hprobe, (verify_report (h.indices g hg) hreport).mpr hpasses⟩

/-! ## The totals and the links -/

theorem enough_iff {totals : List Word} {least : Nat} {reading : Gpu → Nat} (h : readings.On host m)
    (htotals : (totals.map Word.number).Perm (host.cmps.map fun g => some (reading g))) :
    m.Enough least totals ↔ ∀ g ∈ host.cmps, least ≤ reading g := by
  have hlength : totals.length = m.gpuIndices.length := by
    simpa [gpuIndices_eq h] using htotals.length_eq
  have hnumbers : (∀ total ∈ totals, total.atLeast least) ↔
      ∀ number ∈ totals.map Word.number, number.elim false (fun k => decide (least ≤ k)) = true := by
    rw [List.forall_mem_map]
    rfl
  unfold Machine.Enough
  rw [hnumbers]
  simp [hlength, htotals.mem_iff]

theorem gen2At_iff (h : readings.On host m) {round : Nat} : (∀ bdf ∈ m.cmpBdfs, m.Gen2At round bdf) ↔
    ∀ g ∈ host.cmps, readings.speed round g = gen2Speed.toList := by
  have hcmps : (∀ bdf ∈ m.cmpBdfs, m.Gen2At round bdf) ↔ ∀ g ∈ host.cmps, m.Gen2At round g.bdf := by
    simp only [h.bdfs.mem_iff, List.forall_mem_map]
  rw [hcmps]
  constructor
  · intro hgen2 g hg
    have hspeed := hgen2 g hg
    rw [Machine.Gen2At, h.speed round g hg] at hspeed
    exact Option.some.inj hspeed
  · intro hspeed g hg
    rw [Machine.Gen2At, h.speed round g hg, hspeed g hg]

theorem readsSpeeds (h : readings.On host m) : m.ReadsSpeeds := by
  intro round bdf hbdf
  obtain ⟨g, hg, rfl⟩ := List.mem_map.mp (h.bdfs.mem_iff.mp hbdf)
  exact ⟨_, h.speed round g hg⟩

end Cmp50Unlock.Scripts
