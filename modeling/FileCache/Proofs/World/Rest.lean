import FileCache.Proofs.World.Load
import FileCache.Proofs.World.Sound

/-!
A world that is left alone comes to rest.

At rest no lookup is waiting and no sweep is on its way: whoever keeps a gate locked, or
has an entry to visit, could take a turn.
-/

namespace FileCache

/-- A sweep that has an entry to visit can go on with it. -/
theorem Sweep.visit_isSome {now : Nat} {disk : Disk} {s : Store} {sw : Sweep} {id : EntryId}
    {e : Entry} {rest : List EntryId} (hlisting : sw.phase ≠ .listing)
    (hfinished : sw.phase ≠ .finished) : (sw.visit now disk s id e rest).isSome = true := by
  cases hphase : sw.phase with
  | listing => exact absurd hphase hlisting
  | finished => exact absurd hphase hfinished
  | checking =>
    simp only [visit, hphase]
    split
    · split <;> rfl
    · rfl
    · rfl
  | weighing seen old =>
    simp only [visit, hphase]
    split
    · rfl
    · split <;> rfl
  | comparing seen =>
    simp only [visit, hphase]
    split
    · split <;> rfl
    · rfl
  | _ =>
    simp only [visit, hphase]
    try split
    all_goals rfl

namespace World

/-- Nobody can take a turn. -/
def AtRest (w : World) : Prop := w.next? [] = none

instance (w : World) : Decidable w.AtRest := inferInstanceAs (Decidable (w.next? [] = none))

theorem ready_of_next? {w : World} {agent : Agent} (h : w.next? [] = some agent) :
    ∃ r, w.step agent = some r := by
  have hmem : agent ∈ w.agents.filter fun agent => !List.contains [] agent && w.canTurn agent := by
    rcases Option.or_eq_some_iff.mp h with hfind | ⟨-, hhead⟩
    · exact List.mem_of_find?_eq_some hfind
    · exact List.mem_of_mem_head? hhead
  have hcan := (List.mem_filter.mp hmem).2
  rw [List.contains_nil, Bool.not_false, Bool.true_and, canTurn] at hcan
  exact Option.isSome_iff_exists.mp hcan

theorem mem_agents_of_step {w : World} {agent : Agent} {r : World × List Notice}
    (h : w.step agent = some r) : agent ∈ w.agents := by
  cases agent with
  | call id =>
    obtain ⟨call, hcall, -⟩ := Option.bind_eq_some_iff.mp h
    exact call_mem_agents hcall
  | scanner id =>
    obtain ⟨sc, hsc, -⟩ := Option.bind_eq_some_iff.mp h
    exact scanner_mem_agents hsc

theorem AtRest.step {w : World} (h : w.AtRest) (agent : Agent) : w.step agent = none := by
  refine Option.eq_none_iff_forall_ne_some.mpr fun r hstep => ?_
  have hready : agent ∈
      w.agents.filter fun agent => !List.contains [] agent && w.canTurn agent := by
    refine List.mem_filter.mpr ⟨mem_agents_of_step hstep, ?_⟩
    rw [List.contains_nil, Bool.not_false, Bool.true_and, canTurn, hstep]
    rfl
  have hnone := (Option.or_eq_none_iff.mp h).2
  rw [List.head?_eq_none_iff.mp hnone] at hready
  cases hready

theorem atRest_of_step {w : World} (h : ∀ agent, w.step agent = none) : w.AtRest := by
  have hready : w.agents.filter (fun agent => !List.contains [] agent && w.canTurn agent) = [] := by
    refine List.filter_eq_nil_iff.mpr fun agent _ hcan => ?_
    rw [List.contains_nil, Bool.not_false, Bool.true_and, canTurn, h] at hcan
    cases hcan
  rw [AtRest, next?, hready]
  rfl

theorem AtRest.settle {w : World} (h : w.AtRest) (turns : Nat) : w.settle turns = (w, []) := by
  cases turns with
  | zero => rfl
  | succ turns =>
    rw [World.settle, h]
    rfl

/-- Once a world is at rest, more turns change nothing. -/
theorem settle_of_le {w : World} {turns more : Nat} (hrest : (w.settle turns).1.AtRest)
    (hle : turns ≤ more) : w.settle more = w.settle turns := by
  induction turns generalizing w more with
  | zero => exact hrest.settle more
  | succ turns ih =>
    cases more with
    | zero => exact absurd hle (Nat.not_succ_le_zero turns)
    | succ more =>
      rw [World.settle] at hrest
      rw [World.settle, World.settle]
      cases hturn : (w.next? []).bind w.step with
      | none => rfl
      | some r =>
        rw [hturn] at hrest
        simp only [ih hrest (Nat.le_of_succ_le_succ hle)]

/-- Left alone, a world comes to rest after some number of turns and stays there. -/
theorem exists_rest (w : World) :
    ∃ enough, ∀ turns, enough ≤ turns → (w.settle turns).1.AtRest := by
  cases hnext : w.next? [] with
  | none =>
    refine ⟨0, fun turns _ => ?_⟩
    rw [AtRest.settle hnext]
    exact hnext
  | some agent =>
    obtain ⟨⟨w', notices⟩, hstep⟩ := ready_of_next? hnext
    have hload := step_load hstep
    obtain ⟨enough, hrest⟩ := exists_rest w'
    refine ⟨enough + 1, fun turns hle => ?_⟩
    cases turns with
    | zero => omega
    | succ turns =>
      rw [settle, hnext, Option.bind_some, hstep]
      exact hrest turns (by omega)
termination_by (w.callLoad, w.sweepLoad)
decreasing_by
  rcases hload with hlt | ⟨heq, hlt⟩
  · exact Prod.Lex.left _ _ hlt
  · rw [heq]
    exact Prod.Lex.right _ hlt

/-- What every turn keeps, a world keeps while it is left alone. -/
theorem settle_induction {P : World → Prop}
    (hstep : ∀ w agent w' notices, P w → w.step agent = some (w', notices) → P w') {w : World}
    (hw : P w) (turns : Nat) : P (w.settle turns).1 := by
  induction turns generalizing w with
  | zero => exact hw
  | succ turns ih =>
    rw [settle]
    cases hnext : w.next? [] with
    | none => exact hw
    | some agent =>
      obtain ⟨⟨w', notices⟩, happly⟩ := ready_of_next? hnext
      rw [Option.bind_some, happly]
      exact ih (hstep w agent w' notices hw happly)

theorem disk_settle (w : World) (turns : Nat) : (w.settle turns).1.disk = w.disk :=
  settle_induction (P := fun v => v.disk = w.disk)
    (fun _ _ _ _ hv hstep => (step_disk hstep).trans hv) rfl turns

theorem Sound.settle {w : World} (hw : w.Sound) (turns : Nat) : (w.settle turns).1.Sound :=
  settle_induction (fun _ _ _ _ hw hstep => hw.move (step_move hstep)) hw turns

theorem stepLookup_none {w : World} {id : CallId} {path : Path} {phase : Lookup}
    (hat : w.lookup? id = some (path, phase)) (h : w.step (.call id) = none) :
    phase.step w.now w.disk path w.store = none := by
  rw [World.step, lookup?_eq_some_iff.mp hat, Option.bind_some, stepCall,
    Option.map_eq_none_iff] at h
  exact h

/-- A lookup that has passed its gate never waits. -/
theorem step_of_held {w : World} (hw : w.Sound) {id : CallId} {path : Path} {phase : Lookup}
    {g : GateId} (hat : w.lookup? id = some (path, phase)) (hheld : phase.held? = some g) :
    phase.step w.now w.disk path w.store ≠ none := by
  cases phase with
  | found gate entry =>
    have hlt := hw.found id path gate entry hat
    simp [Lookup.step, Store.entry?, hlt]
  | rechecking gate =>
    simp only [Lookup.step]
    split <;> exact Option.some_ne_none _
  | loading gate reading =>
    simp only [Lookup.step]
    split <;> exact Option.some_ne_none _
  | storing gate copy =>
    simp only [Lookup.step]
    split <;> exact Option.some_ne_none _
  | bypassing gate reading =>
    simp only [Lookup.step]
    split <;> exact Option.some_ne_none _
  | _ => cases hheld

/-- Only a lookup whose gate another keeps locked has to wait. -/
theorem Sound.lookup_stuck {w : World} (hw : w.Sound) {id : CallId} {path : Path} {phase : Lookup}
    (hat : w.lookup? id = some (path, phase)) (hnone : w.step (.call id) = none) :
    (∃ answer, phase = .done answer) ∨
      ∃ gate, phase = .waiting gate ∧ w.store.isLocked gate = true := by
  have hnone := stepLookup_none hat hnone
  cases phase with
  | done answer => exact .inl ⟨answer, rfl⟩
  | waiting gate =>
    simp only [Lookup.step] at hnone
    split at hnone
    · rename_i hlocked
      exact .inr ⟨gate, rfl, hlocked⟩
    · cases hnone
  | starting =>
    simp only [Lookup.step] at hnone
    split at hnone <;> cases hnone
  | probing =>
    simp only [Lookup.step] at hnone
    split at hnone <;> cases hnone
  | arriving =>
    simp only [Lookup.step] at hnone
    cases hnone
  | found gate entry =>
    have hlt := hw.found id path gate entry hat
    simp [Lookup.step, Store.entry?, hlt] at hnone
  | leaving gate answer =>
    simp only [Lookup.step] at hnone
    cases hnone
  | rechecking gate => exact absurd hnone (step_of_held hw hat rfl)
  | loading gate reading => exact absurd hnone (step_of_held hw hat rfl)
  | storing gate copy => exact absurd hnone (step_of_held hw hat rfl)
  | bypassing gate reading =>
    simp only [Lookup.step] at hnone
    split at hnone <;> cases hnone

/-- Whoever keeps a gate locked can go on. -/
theorem Sound.owner_goes {w : World} (hw : w.Sound) {gate : GateId}
    (hlocked : w.store.isLocked gate = true) : ∃ owner path phase,
    w.lookup? owner = some (path, phase) ∧ phase.held? = some gate ∧
      w.step (.call owner) ≠ none := by
  obtain ⟨owner, path, phase, howner, hheld⟩ := hw.gates gate hlocked
  exact ⟨owner, path, phase, howner, hheld, fun hnone =>
    step_of_held hw howner hheld (stepLookup_none howner hnone)⟩

/-- At rest, every lookup has its answer. -/
theorem AtRest.lookup_done {w : World} (h : w.AtRest) (hw : w.Sound) {id : CallId} {path : Path}
    {phase : Lookup} (hat : w.lookup? id = some (path, phase)) :
    ∃ answer, phase = .done answer := by
  rcases hw.lookup_stuck hat (h.step (.call id)) with hdone | ⟨gate, -, hlocked⟩
  · exact hdone
  · obtain ⟨owner, -, -, -, -, hgoes⟩ := hw.owner_goes hlocked
    exact absurd (h.step (.call owner)) hgoes

theorem Move.keeps_lookup {w w' : World} {event : Event} (h : Move w event w') {id : CallId}
    {path : Path} (hat : ∃ phase, w.lookup? id = some (path, phase)) :
    ∃ phase, w'.lookup? id = some (path, phase) := by
  obtain ⟨phase, hat⟩ := hat
  cases h with
  | idle _ _ hkept _ => exact ⟨phase, hkept id path phase hat⟩
  | lookup other p q st _ hother _ _ hnext hlookups _ =>
    by_cases hid : id = other
    · subst hid
      rw [hat, Option.some.injEq, Prod.mk.injEq] at hother
      exact ⟨st.next, hother.1 ▸ hnext⟩
    · exact ⟨phase, (hlookups id hid).trans hat⟩
  | sweep _ _ _ _ _ hturn => exact ⟨phase, hturn.lookups ▸ hat⟩
  | clear _ hsame => exact ⟨phase, hsame.lookup? ▸ hat⟩
  | switch _ _ hsame => exact ⟨phase, hsame.lookup? ▸ hat⟩
  | shuffle _ _ _ hsame => exact ⟨phase, hsame.lookup? ▸ hat⟩

/-- A lookup stays what it is while the world is left alone. -/
theorem settle_lookup {w : World} {id : CallId} {path : Path} {phase : Lookup}
    (hat : w.lookup? id = some (path, phase)) (turns : Nat) :
    ∃ phase', (w.settle turns).1.lookup? id = some (path, phase') :=
  settle_induction (P := fun v => ∃ phase, v.lookup? id = some (path, phase))
    (fun _ _ _ _ hv hstep => (step_move hstep).keeps_lookup hv)
    ⟨phase, hat⟩ turns

theorem stepSweep_none {w : World} {agent : Agent} {sw : Sweep}
    (hat : w.sweep? agent = some sw) (h : w.step agent = none) :
    sw.step w.now w.disk w.store = none := by
  cases agent with
  | call id =>
    rw [World.step, sweep?_call_eq_some_iff.mp hat, Option.bind_some, stepCall,
      Option.map_eq_none_iff] at h
    exact h
  | scanner id =>
    obtain ⟨sc, cause, hsc, hphase⟩ := sweep?_scanner_eq_some_iff.mp hat
    rw [World.step, hsc, Option.bind_some, stepScanner, Option.map_eq_none_iff] at h
    simp only [Scanner.step, hphase, Option.map_eq_none_iff] at h
    exact h

/-- A sweep that is not over can go on. -/
theorem Sound.sweep_goes {w : World} (hw : w.Sound) {agent : Agent} {sw : Sweep}
    (hat : w.sweep? agent = some sw) (hfinished : sw.phase ≠ .finished) :
    (sw.step w.now w.disk w.store).isSome = true := by
  by_cases hlisting : sw.phase = .listing
  · simp [Sweep.step, hlisting]
  · have hunderway : sw.isUnderway = true := by simp [Sweep.isUnderway, hlisting, hfinished]
    obtain ⟨id, rest, htodo⟩ := List.exists_cons_of_ne_nil (hw.visits agent sw hat hunderway)
    have hlt := hw.todo agent sw hat id (by rw [htodo]; exact List.mem_cons_self)
    obtain ⟨e, he⟩ : ∃ e, w.store.entry? id = some e := ⟨_, List.getElem?_eq_getElem hlt⟩
    have hvisit : (sw.visit w.now w.disk w.store id e rest).isSome = true :=
      Sweep.visit_isSome hlisting hfinished
    simpa only [Sweep.step, htodo, he, Option.bind_some] using hvisit

/-- At rest, every sweep is over. -/
theorem AtRest.sweep_over {w : World} (h : w.AtRest) (hw : w.Sound) {agent : Agent} {sw : Sweep}
    (hat : w.sweep? agent = some sw) : sw.phase = .finished := by
  have hnone := stepSweep_none hat (h.step agent)
  refine Classical.byContradiction fun hfinished => ?_
  have hgoes := hw.sweep_goes hat hfinished
  rw [hnone] at hgoes
  cases hgoes

theorem AtRest.scanner_idle {w : World} (h : w.AtRest) (hw : w.Sound) (id : ScannerId) :
    w.sweep? (.scanner id) = none := by
  refine Option.eq_none_iff_forall_ne_some.mpr fun sw hat => ?_
  exact hw.unfinished id sw hat (h.sweep_over hw hat)

end World
end FileCache
