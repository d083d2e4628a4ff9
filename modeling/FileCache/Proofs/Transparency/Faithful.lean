import FileCache.Proofs.Path.Served
import FileCache.Proofs.Transparency.Agreement
import FileCache.Proofs.World.Rest

/-!
Faithful worlds: the map agrees with a disk that does not change, and every lookup that
begins there ends with what the disk has to say.

`Faithful.move` is the step; `Faithful.settle` carries it through everything that happens
while nothing new is asked for.
-/

namespace FileCache

/-- The lookup has come to its end. -/
def Lookup.Over (phase : Lookup) : Prop := ∃ answer, phase = .done answer

theorem Lookup.Over.step {phase : Lookup} (h : phase.Over) (now : Nat) (disk : Disk) (path : Path)
    (s : Store) : phase.step now disk path s = none := by
  obtain ⟨answer, rfl⟩ := h
  rfl

namespace World

variable {w w' : World} {event : Event} {d : Disk}

/-! ## Paths -/

/-- All that the server looks up lies below its root. -/
structure Serves (root : String) (w : World) : Prop where
  entries : ∀ id e, w.store.entry? id = some e → Path.Served root e.path
  lookups : ∀ id path phase, w.lookup? id = some (path, phase) → Path.Served root path

theorem Serves.freshOn (root : String) (disk : Disk) (limits : Limits) (wall : Time.Timestamp) :
    (freshOn disk limits wall).Serves root where
  entries id e h := by cases h
  lookups id path phase h := by cases h

/-- Only a request can bring in a path. -/
theorem Serves.move {root : String} (hw : w.Serves root)
    (hserved : ∀ path, event = .call (.lookup path) → Path.Served root path)
    (h : Move w event w') : w'.Serves root := by
  refine ⟨fun id e' he' => ?_, fun id path phase hat => ?_⟩
  · cases h with
    | idle hstore _ _ _ => exact hw.entries id e' (hstore ▸ he')
    | lookup call path phase st _ hat hstep hstore _ _ _ =>
      have heffect := (Lookup.step_course hstep).effect
      rw [hstore] at he'
      rcases heffect.entry_new he' with ⟨e, he⟩ | ⟨gate, copy, -, rfl⟩
      · obtain ⟨e'', he'', hpath, -⟩ := heffect.entry he
        rw [he', Option.some.injEq] at he''
        rw [he'', hpath]
        exact hw.entries id e he
      · exact hw.lookups call path phase hat
    | sweep agent sw st _ _ hturn =>
      have heffect := Sweep.step_effect hturn.step
      rw [hturn.store] at he'
      have hlt := (List.getElem?_eq_some_iff.mp he').1
      rw [heffect.length_entries] at hlt
      obtain ⟨e, he⟩ : ∃ e, w.store.entry? id = some e := ⟨_, List.getElem?_eq_getElem hlt⟩
      obtain ⟨e'', he'', hpath, -⟩ := heffect.entry he
      rw [he', Option.some.injEq] at he''
      rw [he'', hpath]
      exact hw.entries id e he
    | clear hstore _ =>
      rw [hstore] at he'
      exact hw.entries id e' he'
    | switch _ hstore _ =>
      rw [hstore] at he'
      exact hw.entries id e' he'
    | shuffle _ _ hstore _ =>
      rw [hstore] at he'
      exact hw.entries id e' he'
  · rcases h.lookup_cases hat with hold | ⟨hevent, -⟩ | ⟨before, -, hbefore, -⟩
    · exact hw.lookups id path phase hold
    · exact hserved path hevent
    · exact hw.lookups id path before hbefore

theorem Serves.settle {root : String} (hw : w.Serves root) (turns : Nat) :
    (w.settle turns).1.Serves root :=
  settle_induction (fun _ _ _ _ hw hstep =>
    hw.move (fun _ h => by cases h) (step_move hstep)) hw turns

/-- Below the root, an entry that a lookup takes for its own is its own. -/
theorem Serves.own {root : String} (hw : w.Serves root) {id : CallId} {path : Path}
    {phase : Lookup} (hat : w.lookup? id = some (path, phase)) :
    ∀ entry e, w.store.entry? entry = some e → e.path.same path = true → e.path = path :=
  fun entry e he hsame => (hw.entries entry e he).eq_of_same (hw.lookups id path phase hat) hsame

/-! ## Steady worlds -/

/-- The disk is the one given, and the sweeps go by it. -/
structure Steady (d : Disk) (w : World) : Prop where
  disk : w.disk = d
  sweeps : ∀ agent sw, w.sweep? agent = some sw → sw.Faithful d w.store

/-- What a world of faithful lookups and sweeps does to its store. -/
theorem Steady.tended (hw : w.Steady d)
    (hlookups : ∀ id path phase, w.lookup? id = some (path, phase) →
      phase.Faithful d path w.store ∨ phase.Over)
    (h : Move w event w') : w.store.Tended d w'.store := by
  cases h with
  | idle hstore _ _ _ => exact .of_entries (by rw [hstore]) fun id hid => hstore ▸ hid
  | lookup id path phase st _ hat hstep hstore _ _ _ =>
    rw [hstore]
    rcases hlookups id path phase hat with hphase | hover
    · exact (Lookup.step_course hstep).effect.tended hphase
    · rw [hover.step] at hstep
      cases hstep
  | sweep agent sw st _ hat hturn =>
    rw [hturn.store]
    exact (Sweep.step_effect hturn.step).tended (hw.sweeps agent sw hat)
  | clear hstore _ =>
    rw [hstore]
    exact .of_entries rfl fun id hid => absurd hid List.not_mem_nil
  | switch on hstore _ =>
    rw [hstore]
    exact .of_entries rfl fun id hid => hid
  | shuffle order hperm hstore _ =>
    rw [hstore]
    exact .of_entries rfl fun id hid => hperm.mem_iff.mp hid

theorem Steady.move (hw : w.Steady d) (hsound : w.Sound) (hcandid : d.Candid)
    (htended : w.store.Tended d w'.store) (h : Move w event w') (hdisk : w'.disk = d) :
    w'.Steady d := by
  refine ⟨hdisk, fun agent sw hat => ?_⟩
  rcases h.sweep_cases hat with hold | rfl | ⟨before, st, hbefore, hturn, rfl⟩
  · exact htended.sweep (hsound.todo agent sw hold) (hw.sweeps agent sw hold)
  · exact fun _ _ _ _ => trivial
  · have hstep := hturn.step
    rw [hw.disk] at hstep
    rw [hturn.store]
    exact Sweep.step_faithful hcandid (hw.sweeps agent before hbefore) hstep

/-! ## Faithful worlds -/

/-- The map agrees with the disk, and so do the lookups, those begun before `base` left
aside. -/
structure Faithful (d : Disk) (base : CallId) (w : World) : Prop extends Steady d w where
  reflects : w.store.Reflects d
  lookups : ∀ id path phase, w.lookup? id = some (path, phase) →
    phase.Faithful d path w.store ∨ (id < base ∧ phase.Over)

namespace Faithful

variable {base : CallId} {root : String}

theorem tended (hw : w.Faithful d base) (h : Move w event w') : w.store.Tended d w'.store :=
  hw.toSteady.tended (fun id path phase hat => (hw.lookups id path phase hat).imp_right (·.2)) h

theorem move (hw : w.Faithful d base) (hsound : w.Sound) (hserves : w.Serves root)
    (hcandid : d.Candid) (h : Move w event w') (hdisk : w'.disk = d) : w'.Faithful d base := by
  have htended := hw.tended h
  refine ⟨hw.toSteady.move hsound hcandid htended h hdisk,
    htended.reflects hsound.orderly hw.reflects, fun id path phase hat => ?_⟩
  rcases h.lookup_cases hat with hold | ⟨-, rfl⟩ | ⟨before, st, hbefore, hstep, hstore, rfl⟩
  · exact (hw.lookups id path phase hold).imp_left htended.lookup
  · exact .inl trivial
  · rcases hw.lookups id path before hbefore with hphase | ⟨-, hover⟩
    · have hcourse := Lookup.step_course hstep
      rw [hw.disk] at hcourse
      rw [hstore]
      exact .inl (hcourse.faithful hsound.orderly hw.reflects (hserves.own hbefore) hphase)
    · rw [hover.step] at hstep
      cases hstep

theorem settle (hw : w.Faithful d base) (hsound : w.Sound) (hserves : w.Serves root)
    (hcandid : d.Candid) (turns : Nat) : (w.settle turns).1.Faithful d base := by
  have hall : (w.settle turns).1.Sound ∧ (w.settle turns).1.Serves root ∧
      (w.settle turns).1.Faithful d base := by
    refine settle_induction (P := fun v => v.Sound ∧ v.Serves root ∧ v.Faithful d base) ?_
      ⟨hsound, hserves, hw⟩ turns
    rintro v agent v' notices ⟨hsound, hserves, hv⟩ hstep
    have hmove : Move v (.turn agent) v' := step_move hstep
    exact ⟨hsound.move hmove, hserves.move (fun _ h => by cases h) hmove,
      hv.move hsound hserves hcandid hmove ((step_disk hstep).trans hv.disk)⟩
  exact hall.2.2

/-- A world at rest whose map agrees with its disk. -/
theorem of_rest (hrest : w.AtRest) (hsound : w.Sound) (hreflects : w.store.Reflects w.disk) :
    w.Faithful w.disk w.calls.length where
  disk := rfl
  sweeps agent sw hat := by
    have hover := hrest.sweep_over hsound hat
    intro id _ e _
    rw [hover]
    trivial
  reflects := hreflects
  lookups id path phase hat := by
    obtain ⟨call, hcall, -⟩ := Option.bind_eq_some_iff.mp hat
    exact .inr ⟨(List.getElem?_eq_some_iff.mp hcall).1, hrest.lookup_done hsound hat⟩

end Faithful
end World
end FileCache
