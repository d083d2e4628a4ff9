import FileCache.Proofs.Accounting.Ledger
import FileCache.Proofs.Store.Outcome
import FileCache.Proofs.Transparency.Agreement
import FileCache.Proofs.World.History
import FileCache.Proofs.World.Rest

/-!
An entry that is being reloaded is in somebody's hands.

A swap gives up the content of an entry before it reads the new one.  Other sweeps may meanwhile
visit the entry, refill it, forget it or take it out of the map, and the file may vanish or
refuse to be read.  Yet as long as the entry is in the map without a content, the sweep that
gave it up last is on its way to a turn that refills the entry, makes it a placeholder or takes
it out of the map.
-/

namespace FileCache

open Store (Alike Orderly)

namespace Sweep

/-- The phases of a swap from the release of the entry up to the turn that ends the visit. -/
def Phase.followsRelease : Phase → Bool
  | .reloading _ => true
  | .refilling _ => true
  | .forgetting => true
  | .discarding .failed => true
  | _ => false

variable {now : Nat} {disk : Disk} {s t : Store} {sw : Sweep} {st : Step Sweep} {id : EntryId}
  {e e' : Entry}

theorem ne_finished_of_followsRelease {phase : Phase} (h : phase.followsRelease = true) :
    phase ≠ .finished := by
  rintro rfl
  cases h

/-! ## The ways out of a swap -/

/-- Every turn that ends a visit after the release takes the entry out of the map or gives it
a content. -/
theorem Ending.commits {phase : Phase} {verdict : Verdict}
    (h : Ending now disk s id e phase verdict t) (hs : s.Orderly) (he : s.entry? id = some e)
    (hphase : phase.followsRelease = true) (hid : id ∈ t.mapped) (he' : t.entry? id = some e') :
    e'.content ≠ .reloading := by
  have hgiven {t : Store} {new : Entry} (h : id ∉ t.mapped ∨ t.entry? id = some new)
      (hid : id ∈ t.mapped) (he' : t.entry? id = some e') (hnew : new.content ≠ .reloading) :
      e'.content ≠ .reloading := by
    rcases h with hgone | hentry
    · exact absurd hid hgone
    · rw [he', Option.some.injEq] at hentry
      exact hentry ▸ hnew
  cases h with
  | discard => exact absurd hid hs.not_mem_discard
  | @refill copy => exact hgiven (hs.refill_leaves he now copy) hid he' nofun
  | forget => exact hgiven (Store.forget_leaves he) hid he' nofun
  | _ => cases hphase

/-- After the release a visit goes on with the reading of the new content. -/
theorem Course.released {phase next : Phase} (h : Course now disk s id e phase next t)
    (hphase : phase.followsRelease = true) :
    (∃ reading, phase = .reloading reading) ∧ next.followsRelease = true := by
  cases h with
  | reread => exact ⟨⟨_, rfl⟩, rfl⟩
  | reloaded => exact ⟨⟨_, rfl⟩, rfl⟩
  | vanishLate => exact ⟨⟨_, rfl⟩, rfl⟩
  | failLate => exact ⟨⟨_, rfl⟩, rfl⟩
  | _ => cases hphase

/-- As long as its entry has no content, a swap that has released it is not at its end. -/
theorem step_released (hs : s.Orderly) (hstep : sw.step now disk s = some st)
    (hhead : sw.todo.head? = some id) (hphase : sw.phase.followsRelease = true)
    (hid : id ∈ st.store.mapped) (he' : st.store.entry? id = some e')
    (hreloading : e'.content = .reloading) :
    (∃ reading, sw.phase = .reloading reading) ∧ st.next.todo.head? = some id ∧
      st.next.phase.followsRelease = true := by
  rcases step_cases hstep with ⟨hlisting, -⟩ | ⟨other, rest, e, htodo, he, hvisit⟩
  · rw [hlisting] at hphase
    cases hphase
  · have hother : other = id := by
      rw [htodo, List.head?_cons, Option.some.injEq] at hhead
      exact hhead
    subst hother
    rcases hvisit with ⟨hcourse⟩ | ⟨hending⟩
    · obtain ⟨hreading, hnext⟩ := hcourse.released hphase
      exact ⟨hreading, hhead, hnext⟩
    · rename_i verdict t notices
      have halike := alike_conclude sw e.path rest verdict t notices
      rw [halike.mapped] at hid
      rw [halike.entry?] at he'
      exact absurd hreloading (hending.commits hs he hphase hid he')

/-- The turn that releases an entry that is in the map. -/
theorem step_releases (hstep : sw.step now disk s = some st) (hhead : sw.todo.head? = some id)
    (hphase : sw.phase = .vacating) (hid : id ∈ s.mapped) :
    st.next.todo.head? = some id ∧ st.next.phase.followsRelease = true := by
  rcases step_cases hstep with ⟨hlisting, -⟩ | ⟨other, rest, e, htodo, he, hvisit⟩
  · cases hlisting.symm.trans hphase
  · have hother : other = id := by
      rw [htodo, List.head?_cons, Option.some.injEq] at hhead
      exact hhead
    subst hother
    rcases hvisit with ⟨hcourse⟩ | ⟨hending⟩
    · rw [hphase] at hcourse
      cases hcourse with
      | vacate _ => exact ⟨hhead, rfl⟩
    · rw [hphase] at hending
      cases hending with
      | lost hlost =>
        rw [Store.vacate?, if_pos (Store.isMapped_iff.mpr hid)] at hlost
        cases hlost

/-- Only a release gives up the content of an entry. -/
theorem Phase.vacating_of_written {phase : Phase} (h : phase.written? = some .reloading) :
    phase = .vacating := by
  cases phase <;> cases h
  rfl

end Sweep

namespace World

/-! ## Swaps in a run -/

/-- The next turn of the agent releases the entry. -/
def Releases (w : World) (agent : Agent) (id : EntryId) : Prop :=
  id ∈ w.store.mapped ∧
    ∃ sw, w.sweep? agent = some sw ∧ sw.phase = .vacating ∧ sw.todo.head? = some id

/-- The next turn of the agent goes on with reading the new content of the entry. -/
def Rereads (w : World) (agent : Agent) (id : EntryId) : Prop :=
  ∃ sw reading, w.sweep? agent = some sw ∧ sw.phase = .reloading reading ∧
    sw.todo.head? = some id

/-- The agent is in the middle of a swap of the entry: of the worlds in which it took its
turns, in one it released the entry, in those after it it read the new content, and it has yet
to take the turn that ends the visit. -/
structure Swaps (w : World) (turns : List World) (agent : Agent) (id : EntryId) : Prop where
  released : ∃ before u after, turns = before ++ u :: after ∧ u.Releases agent id ∧
    ∀ x ∈ after, x.Rereads agent id
  underway : ∃ sw, w.sweep? agent = some sw ∧ sw.todo.head? = some id ∧
    sw.phase.followsRelease = true

/-- Every mapped entry whose content was given up is in the middle of a swap. -/
def Attended (w : World) (events : List Event) (v : World) : Prop :=
  ∀ id ∈ v.store.mapped, ∀ e, v.store.entry? id = some e → e.content = .reloading →
    ∃ agent, v.Swaps (w.turnsOf agent events) agent id

variable {w w' v v' : World} {event : Event} {events : List Event} {notices more : List Notice}
  {agent : Agent} {id : EntryId} {e' : Entry}

/-- Where the content of a mapped entry comes from: it is as it was, or it was put there by a
lookup that made the entry or by the sweep that visits it. -/
theorem Move.content (h : Move w event w') (hs : w.store.Orderly) (hid : id ∈ w'.store.mapped)
    (he' : w'.store.entry? id = some e') :
    (id ∈ w.store.mapped ∧ ∃ e, w.store.entry? id = some e ∧ e'.content = e.content) ∨
      (∃ copy, e'.content = .present copy) ∨
      (id ∈ w.store.mapped ∧ ∃ agent sw, event = .turn agent ∧ w.sweep? agent = some sw ∧
        sw.todo.head? = some id ∧ sw.phase.written? = some e'.content) := by
  have hsame (hmapped : id ∈ w.store.mapped) (hentries : w'.store.entries = w.store.entries) :
      id ∈ w.store.mapped ∧ ∃ e, w.store.entry? id = some e ∧ e'.content = e.content :=
    ⟨hmapped, e', by rw [Store.entry?, ← hentries]; exact he', rfl⟩
  cases h with
  | idle hstore _ _ _ => exact .inl (hsame (hstore ▸ hid) (by rw [hstore]))
  | lookup _ path phase st _ _ hstep hstore _ _ _ =>
    rw [hstore] at hid he'
    have heffect := (Lookup.step_course hstep).effect
    rcases heffect.mem_mapped hid with hold | hnone
    · obtain ⟨e, he⟩ := hs.entry hold
      obtain ⟨e'', he'', -, hcontent⟩ := heffect.entry he
      rw [he', Option.some.injEq] at he''
      exact .inl ⟨hold, e, he, he'' ▸ hcontent⟩
    · rcases heffect.entry_new he' with ⟨e, he⟩ | ⟨gate, copy, -, rfl⟩
      · rw [hnone] at he
        cases he
      · exact .inr (.inl ⟨copy, rfl⟩)
  | sweep agent sw st hevent hat hturn =>
    rw [hturn.store] at hid he'
    have heffect := Sweep.step_effect hturn.step
    have hold := heffect.mem_mapped hid
    obtain ⟨e, he⟩ := hs.entry hold
    obtain ⟨e'', he'', -, hcontent⟩ := heffect.entry he
    rw [he', Option.some.injEq] at he''
    subst he''
    rcases hcontent with hcontent | ⟨hhead, hwritten⟩
    · exact .inl ⟨hold, e, he, hcontent⟩
    · exact .inr (.inr ⟨hold, agent, sw, hevent, hat, hhead, hwritten⟩)
  | clear hstore _ =>
    rw [hstore] at hid
    cases hid
  | switch on hstore _ => exact .inl (hsame (by rw [hstore] at hid; exact hid) (by rw [hstore]))
  | shuffle order hperm hstore _ =>
    rw [hstore] at hid
    exact .inl (hsame (hperm.mem_iff.mp hid) (by rw [hstore]))

/-! ## Runs -/

theorem Attended.snoc (hv : Attended w events v) (hs : v.Sound)
    (hrun : w.run events = some (v, notices)) (happly : v.apply event = some (v', more)) :
    Attended w (events ++ [event]) v' := by
  intro id hid e' he' hreloading
  rcases (apply_move happly).content hs.orderly hid he' with
    ⟨hold, e, he, hcontent⟩ | ⟨copy, hcopy⟩ | ⟨hold, agent, sw, rfl, hat, hhead, hwritten⟩
  · obtain ⟨agent, ⟨before, u, after, hturns, hreleases, hrereads⟩, sw, hat, hhead, hphase⟩ :=
      hv id hold e he (hcontent ▸ hreloading)
    refine ⟨agent, ?_⟩
    by_cases hevent : event = .turn agent
    · subst hevent
      obtain ⟨st, hturn⟩ := step_sweep hat happly
      rw [hturn.store] at hid he'
      obtain ⟨⟨reading, hreading⟩, hhead', hphase'⟩ :=
        Sweep.step_released hs.orderly hturn.step hhead hphase hid he' hreloading
      refine ⟨⟨before, u, after ++ [v], ?_, hreleases, fun x hx => ?_⟩,
        st.next, step_sweep_at hat hturn.step (Sweep.ne_finished_of_followsRelease hphase') happly,
        hhead', hphase'⟩
      · rw [turnsOf_turn hrun happly, hturns, List.append_assoc, List.cons_append]
      · rcases List.mem_append.mp hx with hx | hx
        · exact hrereads x hx
        · rw [List.mem_singleton.mp hx]
          exact ⟨sw, reading, hat, hreading, hhead⟩
    · refine ⟨⟨before, u, after, ?_, hreleases, hrereads⟩, sw,
        apply_sweep_kept happly hevent hat, hhead, hphase⟩
      rw [turnsOf_other hevent hrun happly, hturns]
  · rw [hcopy] at hreloading
    cases hreloading
  · rw [hreloading] at hwritten
    have hphase := Sweep.Phase.vacating_of_written hwritten
    obtain ⟨st, hturn⟩ := step_sweep hat happly
    obtain ⟨hhead', hphase'⟩ := Sweep.step_releases hturn.step hhead hphase hold
    refine ⟨agent, ⟨w.turnsOf agent events, v, [], ?_, ⟨hold, sw, hat, hphase, hhead⟩, nofun⟩,
      st.next, step_sweep_at hat hturn.step (Sweep.ne_finished_of_followsRelease hphase') happly,
      hhead', hphase'⟩
    rw [turnsOf_turn hrun happly]

variable {disk : Disk} {limits : Limits} {wall : Time.Timestamp}

theorem attended_of_run (hrun : (freshOn disk limits wall).run events = some (v, notices)) :
    Attended (freshOn disk limits wall) events v := by
  refine run_induction (P := Attended (freshOn disk limits wall)) (fun _ h => by cases h) ?_ hrun
  intro before u event u' first more hbefore happly hu
  exact hu.snoc (Sound.passed u (mem_passed_of_run hbefore)) hbefore happly

/-- A swap that has released its entry is underway, and can take its next turn. -/
theorem Swaps.goes {turns : List World} (h : w.Swaps turns agent id) (hw : w.Sound) :
    (w.step agent).isSome = true ∧ w.sweepsUnderway ≠ 0 := by
  obtain ⟨sw, hat, -, hphase⟩ := h.underway
  have hfinished := Sweep.ne_finished_of_followsRelease hphase
  have hunderway : sw.isUnderway = true := by
    cases hp : sw.phase with
    | listing =>
      rw [hp] at hphase
      cases hphase
    | finished => exact absurd hp hfinished
    | _ => simp [Sweep.isUnderway, hp]
  constructor
  · refine Option.isSome_iff_ne_none.mpr fun hnone => ?_
    have hgoes := hw.sweep_goes hat hfinished
    rw [stepSweep_none hat hnone] at hgoes
    cases hgoes
  · intro hzero
    rw [sweepsUnderway, List.countP_eq_zero] at hzero
    refine hzero agent (mem_agents_of_sweep hat) ?_
    rw [hat]
    exact hunderway

/-- Reloading never sticks.  In every run, whatever its sweeps, lookups, clears and failures:
an entry in the map that is being reloaded has an agent that has released this very entry, has
done nothing since but read the new content, is not yet at the turn that ends the visit and can
go on; so that all entries in the map are present or missing when no sweep is underway. -/
theorem reloading_never_sticks (disk : Disk) (limits : Limits) (wall : Time.Timestamp)
    (events : List Event) (v : World) (notices : List Notice)
    (hrun : (freshOn disk limits wall).run events = some (v, notices)) :
    (∀ id ∈ v.store.mapped, ∃ e, v.store.entry? id = some e ∧
      (e.content = .reloading → ∃ agent,
        v.Swaps ((freshOn disk limits wall).turnsOf agent events) agent id ∧
          (v.step agent).isSome = true)) ∧
    (v.sweepsUnderway = 0 → ∀ id ∈ v.store.mapped, ∃ e, v.store.entry? id = some e ∧
      ((∃ copy, e.content = .present copy) ∨ e.content = .missing)) := by
  have hsound := Sound.passed v (mem_passed_of_run hrun)
  have hattended := attended_of_run hrun
  constructor
  · intro id hid
    obtain ⟨e, he⟩ := hsound.orderly.entry hid
    refine ⟨e, he, fun hreloading => ?_⟩
    obtain ⟨agent, hswaps⟩ := hattended id hid e he hreloading
    exact ⟨agent, hswaps, (hswaps.goes hsound).1⟩
  · intro hnone id hid
    obtain ⟨e, he⟩ := hsound.orderly.entry hid
    refine ⟨e, he, ?_⟩
    cases hcontent : e.content with
    | present copy => exact .inl ⟨copy, rfl⟩
    | missing => exact .inr rfl
    | reloading =>
      obtain ⟨agent, hswaps⟩ := hattended id hid e he hcontent
      exact absurd hnone (hswaps.goes hsound).2

/-- The first sweep of `overlap` has released the entry, and the second one is at it too. -/
theorem reloading_never_sticks_overlap :
    ∃ v notices, (freshOn Disk.empty ⟨7, 10, 1000⟩ ⟨0, 0⟩).run (overlap.take 27) =
        some (v, notices) ∧ v.sweepsUnderway = 2 ∧ v.store.mapped = [0] ∧
      ∃ e, v.store.entry? 0 = some e ∧ e.content = .reloading ∧
        ∃ agent, v.Swaps ((freshOn Disk.empty ⟨7, 10, 1000⟩ ⟨0, 0⟩).turnsOf agent
          (overlap.take 27)) agent 0 ∧ (v.step agent).isSome = true := by
  have hrun : ((freshOn Disk.empty ⟨7, 10, 1000⟩ ⟨0, 0⟩).run (overlap.take 27)).map (fun r =>
      (r.1.sweepsUnderway, r.1.store.mapped, (r.1.store.entry? 0).map (·.content))) =
      some (2, [0], some .reloading) := by decide +kernel
  obtain ⟨⟨v, notices⟩, hrun, hend⟩ := Option.map_eq_some_iff.mp hrun
  obtain ⟨htwo, hend⟩ := Prod.mk.inj hend
  obtain ⟨hmapped, hcontent⟩ := Prod.mk.inj hend
  obtain ⟨hhand, -⟩ := reloading_never_sticks Disk.empty ⟨7, 10, 1000⟩ ⟨0, 0⟩
    (overlap.take 27) v notices hrun
  obtain ⟨e, he, hswaps⟩ := hhand 0 (hmapped ▸ List.mem_singleton.mpr rfl)
  rw [he, Option.map_some, Option.some.injEq] at hcontent
  exact ⟨v, notices, hrun, htwo, hmapped, e, he, hcontent, hswaps hcontent⟩

end World
end FileCache
