import Cmp50Unlock.Scripts.Lemmas.Passed
import Cmp50Unlock.Scripts.Udev

/-!
# Resets by a second pass
-/

namespace Cmp50Unlock.Scripts

open Lib

variable {w : PassWorld} {status : Nat} {bdf : String} {d : Done Signal Unit} {later earlier events l : List PassEvent}
  {devices : List String} {stopped : Bool} {r : Except Nat Unit}

/-! ## The log of the handler -/

theorem HandlerRun.only (h : HandlerRun stopped events r) (hST : ∀ o : PassOp, o.ofHandler = true → S o = true) :
    Only S events := fun event hmem => hST _ (h.ofHandler event hmem)

theorem log_step {o : PassOp} {d : Done Signal o.Out} {w' : PassWorld} (h : PassStep o w d w') :
    w'.log = ⟨o, d⟩ :: w.log := by
  obtain ⟨-, rfl⟩ := h
  rfl

/-- The log of the script, with what the script shows of it. -/
theorem exec_body_traces {r : Except Nat Unit} (h : body.run.Exec PassStep .start r w) :
    Script.Outcome (fun _ l => Phased l ∧ ∃ devices, SecondPassDone devices l)
      (fun n l => Phased l ∧ (n = 0 → ∃ devices, FirstPassEnough devices l)) r w.log := by
  have hstep : ∀ (o : PassOp) (w : PassWorld) (d : Done Signal o.Out) (w' : PassWorld), PassStep o w d w' →
      w'.log = ⟨o, d⟩ :: w.log := fun _ _ _ _ => log_step
  obtain ⟨events, hlog, houtcome⟩ := body_traces.exec hstep h
  have hevents : w.log = events := hlog.trans (List.append_nil events)
  rw [hevents]
  exact houtcome

theorem FirstPassEnough.handler (h : FirstPassEnough devices l) (hrun : HandlerRun stopped events r) :
    FirstPassEnough devices (events ++ l) where
  first := h.first.sub (List.subset_append_right events l)
  speeds := fun bdf hbdf => (h.speeds bdf hbdf).earlier
  bar1 := h.bar1.earlier
  harmless := h.harmless.append (hrun.only fun o ho => by cases o <;> first | rfl | cases ho)

theorem SecondPassDone.handler (h : SecondPassDone devices l) (events : List PassEvent) :
    SecondPassDone devices (events ++ l) := by
  obtain ⟨after, resets, before, rfl, hready, hresets, hreset, hcount, hback⟩ := h
  refine ⟨events ++ after, resets, before, (List.append_assoc ..).symm, hready, hresets, hreset, hcount.earlier, ?_⟩
  exact fun bdf hbdf => (hback bdf hbdf).sub (List.subset_append_right events after)

/-! ## A card that comes back -/

/-- The answers on a host with one card that is at Gen2 after its reset. -/
def resetAnswers (w : PassWorld) : (o : PassOp) → Done Signal o.Out
  | .stop => ⟨0, (), none⟩
  | .grepModules => ⟨1, (), none⟩
  | .readSpeed bdf => ⟨0, if w.log.any (fun event => event.1 == .reset bdf) then gen2Speed else "2.5 GT/s PCIe", none⟩
  | .setpci _ => ⟨0, ⟨"00000e00", some 0xE00⟩, none⟩
  | o => answers none w.stopped o

def resetRespond (o : PassOp) (w : PassWorld) : Done Signal o.Out × PassWorld :=
  (resetAnswers w o, w.after o (resetAnswers w o))

/-- The run on that host. -/
def resetRun : Nat × PassWorld := secondPass.interp resetRespond .start

theorem resetRun_exec : secondPass.Exec PassStep .start resetRun.1 resetRun.2 := by
  have hrun : ∀ (o : PassOp) (w : PassWorld), PassStep o w (resetRespond o w).1 (resetRespond o w).2 :=
    fun o w => ⟨by cases o <;> trivial, rfl⟩
  exact Prog.exec_interp id hrun secondPass .start

/-! ## The theorems -/

/-- Before any card is reset, all checks have been passed: all cards are supported and initialized, one of them is
behind, no other device uses the driver and nobody has it open, udev is masked and stopped and not yet restored, no card
is bound, and the module is not loaded. -/
theorem reset_guarded (h : secondPass.Exec PassStep .start status w)
    (hlog : w.log = later ++ ⟨.reset bdf, d⟩ :: earlier) :
    (∃ devices, bdf ∈ devices ∧ ResetReady devices earlier) ∧ ∀ event ∈ earlier, event.1.ofHandler = false := by
  obtain ⟨r, w₁, r', events, hbody, hhandler, hevents, -⟩ := exec_secondPass h
  have hnot : (⟨.reset bdf, d⟩ : PassEvent) ∉ events := fun hmem => by cases hhandler.ofHandler _ hmem
  obtain ⟨later', hsplit⟩ := split_of_not_mem (hevents.symm.trans hlog) hnot
  have hphased : Phased w₁.log := by
    have houtcome := exec_body_traces hbody
    cases r with
    | ok _ => exact houtcome.1
    | error n => exact houtcome.1
  refine ⟨ready_of_phased hphased hsplit, fun event hmem => (exec_body hbody).mine event ?_⟩
  rw [hsplit]
  exact List.mem_append_right later' (.tail _ hmem)

theorem reset_guarded_example : ∃ (later earlier : List PassEvent) (d : Done Signal Unit),
    resetRun.2.log = later ++ ⟨.reset "0000:01:00.0", d⟩ :: earlier ∧
      (∃ devices, "0000:01:00.0" ∈ devices ∧ ResetReady devices earlier) ∧
      ∀ event ∈ earlier, event.1.ofHandler = false := by
  have hreset : PassOp.reset "0000:01:00.0" ∈ resetRun.2.log.map Sigma.fst := by decide +kernel
  obtain ⟨⟨_, d⟩, hmem, rfl⟩ := List.mem_map.mp hreset
  obtain ⟨later, earlier, hlog⟩ := List.append_of_mem hmem
  exact ⟨later, earlier, d, hlog, reset_guarded resetRun_exec hlog⟩

end Cmp50Unlock.Scripts
