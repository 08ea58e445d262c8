import Cmp50Unlock.IdleGovernor.Lemmas.Card

/-!
# What `Cleanup` does

The commands of a `Cleanup` in the order of the GPU list, and what they leave of the cards and of the memory.
-/

namespace Cmp50Unlock.IdleGovernor

open Lib

/-! ## Commands in order -/

/-- The commands to card `i`, the first one first, applied to it. -/
def applyCalls (i : Int) (calls : Calls) (card : Card) : Card :=
  calls.foldl (fun card x => if x.1.index = i then card.step x.1 x.2 else card) card

/-- From `w` to `w'`, exactly these commands are issued, the first one first. -/
structure Commanded (calls : Calls) (w w' : World) : Prop where
  commands : commands w'.log = calls.reverse ++ commands w.log
  cards : ∀ i, w'.cards i = applyCalls i calls (w.cards i)
  dir : w'.dir = w.dir

section
variable {calls calls' : Calls} {w w₁ w₂ : World}

theorem Commanded.nil : Commanded [] w w := ⟨rfl, fun _ => rfl, rfl⟩

theorem Commanded.append (h : Commanded calls w w₁) (h' : Commanded calls' w₁ w₂) :
    Commanded (calls ++ calls') w w₂ where
  commands := by rw [h'.commands, h.commands, List.reverse_append, List.append_assoc]
  cards i := by rw [h'.cards, h.cards]; simp [applyCalls]
  dir := h'.dir.trans h.dir

theorem Commanded.call (cmd : Call) (err : Option GoError) : Commanded [(cmd, err)] w (w.next (.call cmd) err) :=
  ⟨rfl, fun _ => rfl, rfl⟩

theorem Commanded.assign (a : Assign) : Commanded [] w (w.next (.assign a) ()) := ⟨rfl, fun _ => rfl, rfl⟩

end

/-! ## The cards that are covered -/

/-- The commands of a `Cleanup` of these GPUs. -/
def cleanupCalls (c : Config) (gpus : List GPU) : List Call :=
  (gpus.filter fun gpu => gpu.Supported).flatMap fun gpu => releaseCalls c gpu.index true

/-- One of these GPUs is supported and has the index `i`. -/
def Covers (gpus : List GPU) (i : Int) : Prop := ∃ gpu ∈ gpus, gpu.index = i ∧ gpu.Supported

/-- The entries of the supported GPUs are cleared, and nothing else of the memory changes. -/
structure Clears (gpus : List GPU) (g g' : Governor) : Prop where
  cleared : ∀ i, Covers gpus i → g'.states i = (g.states i).map fun _ => .zero
  kept : ∀ i, ¬ Covers gpus i → g'.states i = g.states i
  control : g'.control = g.control
  active : g'.active = g.active

section
variable {gpu : GPU} {gpus : List GPU} {i : Int} {g g₁ g₂ : Governor}

theorem covers_cons : Covers (gpu :: gpus) i ↔ (gpu.index = i ∧ gpu.Supported) ∨ Covers gpus i := by
  simp [Covers]

theorem not_covers_nil : ¬ Covers [] i := by simp [Covers]

theorem Clears.nil : Clears [] g g :=
  ⟨fun _ h => absurd h not_covers_nil, fun _ _ => rfl, rfl, rfl⟩

theorem Clears.skip (hgpu : ¬ gpu.Supported) (h : Clears gpus g g₁) : Clears (gpu :: gpus) g g₁ where
  cleared i hi := by
    rcases covers_cons.1 hi with hi | hi
    · exact absurd hi.2 hgpu
    · exact h.cleared i hi
  kept i hi := h.kept i fun hc => hi (covers_cons.2 (.inr hc))
  control := h.control
  active := h.active

theorem Clears.cons (hgpu : gpu.Supported) (h : Clears gpus (g.update gpu.index fun _ => .zero) g₁) :
    Clears (gpu :: gpus) g g₁ where
  cleared i hi := by
    by_cases hc : Covers gpus i
    · rw [h.cleared i hc]
      by_cases hindex : gpu.index = i <;> simp [Governor.update, hindex, Function.comp_def]
    · have hindex : gpu.index = i := ((covers_cons.1 hi).resolve_right hc).1
      rw [h.kept i hc]
      simp [Governor.update, hindex]
  kept i hi := by
    have hc : ¬ Covers gpus i := fun hc => hi (covers_cons.2 (.inr hc))
    have hindex : gpu.index ≠ i := fun hindex => hi (covers_cons.2 (.inl ⟨hindex, hgpu⟩))
    rw [h.kept i hc]
    simp [Governor.update, hindex]
  control := h.control
  active := h.active

end

/-! ## The loop -/

section
variable {A : Answers} {c : Config} {w : World} {index : Int} {gpu : GPU} {gpus : List GPU} {result : Option GoError}

theorem restoreCoreOffset_commands : (restoreCoreOffset c index).wp (Step A) always w fun r w' =>
    ∃ calls, Attempts A (offsetCalls c index) calls ∧ (r = none ↔ AllSucceed calls) ∧ Commanded calls w w' ∧
      w'.gov = w.gov := by
  simp only [restoreCoreOffset, Prog.wp_ite, Prog.wp_pure, wp_call, true_and]
  constructor
  · intro h
    rw [offsetCalls, if_neg h]
    exact ⟨[], .nil, by simp, .nil, trivial⟩
  · intro h err herr
    rw [offsetCalls, if_pos (Decidable.not_not.mp h)]
    exact ⟨[(_, err)], Attempts.nil.cons herr, by simp, .call _ err, rfl⟩

theorem restore_commands : (restore c index result).wp (Step A) always w fun r w' =>
    ∃ calls, Attempts A (restoreCalls c index) calls ∧ (r = none ↔ result = none ∧ AllSucceed calls) ∧
      Commanded calls w w' ∧ w'.gov = w.gov.update index fun _ => .zero := by
  rw [restore, Prog.wp_bind, wp_call]
  refine ⟨trivial, fun err herr => ?_⟩
  rw [Prog.wp_bind]
  refine restoreCoreOffset_commands.mono fun offErr w₁ hpost => ?_
  obtain ⟨calls, hcalls, hoff, hcmd, hgov⟩ := hpost
  rw [Prog.wp_bind, wp_restoreClocks]
  refine ⟨trivial, fun clockErr hclock => ?_⟩
  simp only [Prog.wp_bind, wp_assign, Prog.wp_pure, true_and]
  intro _
  refine ⟨(.setPState index autoPState, err) :: (calls ++ [(c.clockCall index, clockErr)]),
    (hcalls.append (Attempts.nil.cons hclock)).cons herr, ?_, ?_, congrArg (Governor.update · index _) hgov⟩
  · simp only [joinErrors_eq_none, hoff, allSucceed_cons, allSucceed_append, allSucceed_nil, and_true, and_assoc]
  · have hclocks := hcmd.append (Commanded.call (c.clockCall index) clockErr)
    have hend := hclocks.append (Commanded.assign (.clear index))
    rw [List.append_nil] at hend
    exact (Commanded.call _ err).append hend

/-- One GPU of the list. -/
theorem cleanupGPU_commands (hgpu : gpu.Supported) : (cleanupGPU c result gpu).wp (Step A) always w fun r w' =>
    ∃ calls, Attempts A (releaseCalls c gpu.index true) calls ∧ (r = none ↔ result = none ∧ AllSucceed calls) ∧
      Commanded calls w w' ∧ w'.gov = w.gov.update gpu.index fun _ => .zero := by
  rw [cleanupGPU, if_neg (not_not_intro hgpu), Prog.wp_bind, wp_call]
  refine ⟨trivial, fun err herr => restore_commands.mono fun r w' hpost => ?_⟩
  obtain ⟨calls, hcalls, hr, hcmd, hgov⟩ := hpost
  refine ⟨(.setFanAuto gpu.index, err) :: calls, hcalls.cons herr, ?_, (Commanded.call _ err).append hcmd, hgov⟩
  simp only [hr, joinErrors_eq_none, allSucceed_cons, and_assoc]

theorem cleanup_commands : (gpus.foldlM (cleanupGPU c) result).wp (Step A) always w fun r w' =>
    ∃ calls, Attempts A (cleanupCalls c gpus) calls ∧ (r = none ↔ result = none ∧ AllSucceed calls) ∧
      Commanded calls w w' ∧ Clears gpus w.gov w'.gov := by
  induction gpus generalizing w result with
  | nil => exact ⟨[], .nil, by simp, .nil, .nil⟩
  | cons gpu gpus ih =>
      rw [List.foldlM, Prog.wp_bind]
      by_cases hgpu : gpu.Supported
      · refine (cleanupGPU_commands hgpu).mono fun r w₁ hpost => ?_
        obtain ⟨calls, hcalls, hr, hcmd, hgov⟩ := hpost
        refine ih.mono fun r' w₂ hpost => ?_
        obtain ⟨calls', hcalls', hr', hcmd', hclear⟩ := hpost
        refine ⟨calls ++ calls', ?_, ?_, hcmd.append hcmd', .cons hgpu (hgov ▸ hclear)⟩
        · simpa [cleanupCalls, hgpu] using hcalls.append hcalls'
        · rw [hr', hr, allSucceed_append, and_assoc]
      · rw [cleanupGPU, if_pos hgpu, Prog.wp_pure]
        refine ih.mono fun r' w₂ hpost => ?_
        obtain ⟨calls, hcalls, hr, hcmd, hclear⟩ := hpost
        refine ⟨calls, ?_, hr, hcmd, hclear.skip hgpu⟩
        simpa [cleanupCalls, hgpu] using hcalls

end

/-! ## What the commands settle -/

section
variable {c : Config} {i : Int} {cmd cmd' : Call} {card : Card} {calls : Calls}

theorem settled_apply (card : Card) (cmd : Call) : (card.apply cmd).Settled cmd := by
  cases cmd <;> rfl

theorem Card.Settled.apply_eq (h : card.Settled cmd) : card.apply cmd = card := by
  obtain ⟨pstate, fan, clocks, offset⟩ := card
  cases cmd <;> cases h <;> rfl

theorem index_releaseCalls (h : cmd ∈ releaseCalls c i true) : cmd.index = i := by
  rcases mem_releaseCalls.1 h with rfl | rfl | ⟨-, rfl⟩ | rfl
  · rfl
  · rfl
  · rfl
  · exact clockCall_index i

/-- The commands of a release do not undo each other. -/
theorem Card.Settled.apply (h : card.Settled cmd) (hcmd : cmd ∈ releaseCalls c i true)
    (hcmd' : cmd' ∈ releaseCalls c i true) : (card.apply cmd').Settled cmd := by
  have hclock : c.clockCall i = .setLockedClocks i c.clockMin c.clockMax ∨ c.clockCall i = .resetLockedClocks i := by
    unfold Config.clockCall
    split <;> simp
  rcases mem_releaseCalls.1 hcmd with rfl | rfl | ⟨-, rfl⟩ | rfl <;>
    rcases mem_releaseCalls.1 hcmd' with rfl | rfl | ⟨-, rfl⟩ | rfl <;>
    rcases hclock with hclock | hclock <;> simp_all [Card.Settled, Card.apply]

/-- The commands to card `i` are commands of its release. -/
def OnlyReleases (c : Config) (i : Int) (calls : Calls) : Prop :=
  ∀ x ∈ calls, x.1.index = i → x.1 ∈ releaseCalls c i true

theorem OnlyReleases.tail {x : Call × Option GoError} (h : OnlyReleases c i (x :: calls)) : OnlyReleases c i calls :=
  fun y hy => h y (.tail x hy)

theorem applyCalls_keeps (h : OnlyReleases c i calls) (hcmd : cmd ∈ releaseCalls c i true) (hs : card.Settled cmd) :
    (applyCalls i calls card).Settled cmd := by
  induction calls generalizing card with
  | nil => exact hs
  | cons x calls ih =>
      obtain ⟨cmd', err⟩ := x
      refine ih h.tail ?_
      by_cases hi : cmd'.index = i
      · cases err with
        | none => simpa [hi, Card.step] using hs.apply hcmd (h _ (.head _) hi)
        | some e => simpa [hi, Card.step] using hs
      · simpa [hi] using hs

/-- What a command that succeeded sets is set in the end. -/
theorem applyCalls_settled (h : OnlyReleases c i calls) (hmem : (cmd, none) ∈ calls) (hi : cmd.index = i) :
    (applyCalls i calls card).Settled cmd := by
  induction calls generalizing card with
  | nil => cases hmem
  | cons x calls ih =>
      cases hmem with
      | head =>
          have hrest := applyCalls_keeps h.tail (h _ (.head _) hi) (settled_apply card cmd)
          simpa [applyCalls, hi, Card.step] using hrest
      | tail _ hmem => exact ih h.tail hmem

/-- Commands that set what is set already change nothing. -/
theorem applyCalls_of_settled (h : ∀ x ∈ calls, x.1.index = i → x.2 = none → card.Settled x.1) :
    applyCalls i calls card = card := by
  induction calls with
  | nil => rfl
  | cons x calls ih =>
      obtain ⟨cmd, err⟩ := x
      have hstep : (if cmd.index = i then card.step cmd err else card) = card := by
        by_cases hi : cmd.index = i
        · cases err with
          | none => simpa [hi, Card.step] using (h _ (.head _) hi rfl).apply_eq
          | some e => simp [Card.step]
        · simp [hi]
      have hrest := ih fun y hy => h y (.tail _ hy)
      simpa [applyCalls, hstep] using hrest

theorem applyCalls_coreOffset (hoff : c.hasCoreOffset = false) (h : OnlyReleases c i calls) :
    (applyCalls i calls card).coreOffset = card.coreOffset := by
  induction calls generalizing card with
  | nil => rfl
  | cons x calls ih =>
      obtain ⟨cmd, err⟩ := x
      refine (ih h.tail).trans ?_
      by_cases hi : cmd.index = i
      · cases err with
        | none =>
            have hcmd : cmd ∈ releaseCalls c i true := h _ (.head _) hi
            have hclock : (card.apply (c.clockCall i)).coreOffset = card.coreOffset := by
              unfold Config.clockCall
              split <;> rfl
            rcases mem_releaseCalls.1 hcmd with rfl | rfl | ⟨hoff', rfl⟩ | rfl
            · simp [Card.step, Card.apply]
            · simp [Card.step, Card.apply]
            · rw [hoff] at hoff'
              cases hoff'
            · simpa [Card.step] using hclock
        | some e => simp [Card.step]
      · simp [hi]

end

/-! ## Who is commanded -/

section
variable {c : Config} {gpus : List GPU} {cmd : Call} {i : Int} {A : Answers} {calls : Calls}

theorem mem_cleanupCalls :
    cmd ∈ cleanupCalls c gpus ↔ ∃ gpu ∈ gpus, gpu.Supported ∧ cmd ∈ releaseCalls c gpu.index true := by
  simp [cleanupCalls, and_assoc]

theorem onlyReleases_cleanup (h : Attempts A (cleanupCalls c gpus) calls) (i : Int) : OnlyReleases c i calls := by
  intro x hx hi
  have hmem : x.1 ∈ cleanupCalls c gpus := h.cmds ▸ List.mem_map_of_mem hx
  obtain ⟨gpu, -, -, hcmd⟩ := mem_cleanupCalls.1 hmem
  rwa [← index_releaseCalls hcmd, hi] at hcmd

/-- Every command of the release of a supported card is attempted. -/
theorem attempted_of_covers (h : Attempts A (cleanupCalls c gpus) calls) (hi : Covers gpus i)
    (hcmd : cmd ∈ releaseCalls c i true) : ∃ err, (cmd, err) ∈ calls := by
  obtain ⟨gpu, hmem, rfl, hgpu⟩ := hi
  have hcleanup : cmd ∈ calls.map Prod.fst := h.cmds ▸ mem_cleanupCalls.2 ⟨gpu, hmem, hgpu, hcmd⟩
  obtain ⟨⟨cmd', err⟩, hx, rfl⟩ := List.mem_map.1 hcleanup
  exact ⟨err, hx⟩

theorem covers_of_mem (h : Attempts A (cleanupCalls c gpus) calls) {x : Call × Option GoError} (hx : x ∈ calls) :
    Covers gpus x.1.index := by
  have hmem : x.1 ∈ cleanupCalls c gpus := h.cmds ▸ List.mem_map_of_mem hx
  obtain ⟨gpu, hgpu, hs, hcmd⟩ := mem_cleanupCalls.1 hmem
  exact ⟨gpu, hgpu, (index_releaseCalls hcmd).symm, hs⟩

/-- A card whose release succeeded is released. -/
theorem released_of_settled {card : Card} {offset : Int} (h : ∀ cmd ∈ releaseCalls c i true, card.Settled cmd)
    (hoff : c.hasCoreOffset = false → card.coreOffset = offset) : Released c offset card where
  pstate := by
    have hset := h (.setPState i autoPState) (mem_releaseCalls.2 (.inr (.inl rfl)))
    exact hset
  fan := by
    have hset := h (.setFanAuto i) (mem_releaseCalls.2 (.inl rfl))
    exact hset
  clocks := by
    have hset := h (c.clockCall i) (mem_releaseCalls.2 (.inr (.inr (.inr rfl))))
    unfold Config.clockCall at hset
    unfold Config.loadClocks
    cases hclock : c.hasClock <;> simpa [hclock, Card.Settled] using hset
  coreOffset := by
    cases hc : c.hasCoreOffset with
    | false => exact hoff hc
    | true =>
        have hset := h (.setCoreOffset i c.coreOffset) (mem_releaseCalls.2 (.inr (.inr (.inl ⟨hc, rfl⟩))))
        exact hset

end

/-! ## A second `Cleanup` -/

section
variable {A : Answers} {c : Config} {gpus : List GPU} {g g₁ g₂ : Governor} {w w' : World} {r : Option GoError} {i : Int}
  {card : Card} {calls calls' : Calls}

theorem Clears.again (h : Clears gpus g g₁) (h' : Clears gpus g₁ g₂) : g₂ = g₁ := by
  have hstates : g₂.states = g₁.states := by
    funext i
    by_cases hi : Covers gpus i
    · rw [h'.cleared i hi, h.cleared i hi]
      simp [Function.comp_def]
    · exact h'.kept i hi
  obtain ⟨states, control, active⟩ := g₂
  exact Governor.mk.injEq .. ▸ ⟨hstates, h'.control, h'.active⟩

theorem Commanded.keeps (h : Commanded calls w w') (hi : ∀ x ∈ calls, x.1.index ≠ i) : w'.cards i = w.cards i :=
  (h.cards i).trans (applyCalls_of_settled fun x hx hindex => absurd hindex (hi x hx))

theorem settled_of_commanded (h : Attempts A (cleanupCalls c gpus) calls) (hw : Commanded calls w w') {cmd : Call}
    (hmem : (cmd, none) ∈ calls) : (w'.cards cmd.index).Settled cmd := by
  rw [hw.cards]
  exact applyCalls_settled (onlyReleases_cleanup h cmd.index) hmem rfl

theorem released_of_commanded (h : Attempts A (cleanupCalls c gpus) calls) (hw : Commanded calls w w')
    (hi : Covers gpus i) (hsucceed : ∀ x ∈ calls, x.1.index = i → x.2 = none) :
    Released c (w.cards i).coreOffset (w'.cards i) := by
  refine released_of_settled (i := i) ?_ ?_
  · intro cmd hcmd
    obtain ⟨err, hmem⟩ := attempted_of_covers h hi hcmd
    have hindex : cmd.index = i := index_releaseCalls hcmd
    obtain rfl : err = none := hsucceed _ hmem hindex
    exact hindex ▸ settled_of_commanded h hw hmem
  · intro hoff
    rw [hw.cards]
    exact applyCalls_coreOffset hoff (onlyReleases_cleanup h i)

/-- A card whose release succeeded is set already to what the commands of another release set. -/
theorem applyCalls_again (h : Attempts A (cleanupCalls c gpus) calls) (hw : Commanded calls w w')
    (h' : Attempts A (cleanupCalls c gpus) calls') (hsucceed : ∀ x ∈ calls, x.1.index = i → x.2 = none) :
    applyCalls i calls' (w'.cards i) = w'.cards i := by
  refine applyCalls_of_settled fun x hx hindex _ => ?_
  have hi : Covers gpus i := hindex ▸ covers_of_mem h' hx
  obtain ⟨err, hmem⟩ := attempted_of_covers h hi (onlyReleases_cleanup h' i x hx hindex)
  obtain rfl : err = none := hsucceed _ hmem hindex
  exact hindex ▸ settled_of_commanded h hw hmem

end

end Cmp50Unlock.IdleGovernor
