import FileCache.Proofs.Lookup.Course
import FileCache.Proofs.World.History

/-!
A lookup that cannot read its file.

It puts nothing into the map and leaves every content alone, from its beginning to its end: a
lookup changes the map in the turn in which it gets a file to answer with, and one that could not
read has no file to answer with.
-/

namespace FileCache

open Store (Alike)

namespace Store

/-- The map, the bytes in use and what the entries hold are the same; when they were last used
may differ. -/
structure SameContents (s t : Store) : Prop where
  mapped : t.mapped = s.mapped
  used : t.used = s.used
  contents : t.entries.map (fun e => (e.path, e.content)) =
    s.entries.map fun e => (e.path, e.content)

theorem Alike.sameContents {s t : Store} (h : Alike s t) : s.SameContents t :=
  ⟨h.mapped, h.used, by rw [h.entries]⟩

theorem sameContents_markUsed (s : Store) (now : Nat) (id : EntryId) :
    s.SameContents (s.markUsed now id) := by
  refine ⟨rfl, rfl, List.ext_getElem? fun i => ?_⟩
  rw [markUsed, modify, List.getElem?_map, List.getElem?_modify, List.getElem?_map,
    Option.map_eq_map, Option.map_map]
  congr 1
  funext e
  simp only [Function.comp_apply]
  split <;> rfl

theorem SameContents.trans_alike {s t u : Store} (h : s.SameContents t) (k : Alike t u) :
    s.SameContents u :=
  ⟨k.mapped.trans h.mapped, k.used.trans h.used, by rw [k.entries, h.contents]⟩

end Store

namespace Reading

def hasFailed : Reading → Bool
  | .finished (.failed _) => true
  | _ => false

theorem hasFailed_iff {r : Reading} :
    r.hasFailed = true ↔ ∃ error, r = .finished (.failed error) := by
  cases r with
  | finished result => cases result <;> simp [hasFailed]
  | _ => simp [hasFailed]

end Reading

namespace Lookup

/-- The reading of a file that is underway. -/
def reading? : Lookup → Option Reading
  | .loading _ reading => some reading
  | .bypassing _ reading => some reading
  | _ => none

/-- The answer that a lookup has, be it at its end or not. -/
def given? : Lookup → Option (Option Copy)
  | .leaving _ answer => some answer
  | .done answer => some answer
  | _ => none

variable {now : Nat} {disk : Disk} {path : Path} {s t : Store} {phase next : Lookup}

theorem given?_answered (gate : Option GateId) (answer : Option Copy) :
    (answered gate answer).given? = some answer := by
  cases gate <;> rfl

/-- A lookup keeps the answer that it has. -/
theorem Course.given? (h : Course now disk path s phase next t) {answer : Option Copy}
    (hgiven : phase.given? = some answer) : next.given? = some answer := by
  cases h <;> first | exact hgiven | cases hgiven

/-- Only a lookup that has a file to answer with has put it into the map. -/
theorem Course.sameContents (h : Course now disk path s phase next t)
    (hnext : ∀ copy, next.given? ≠ some (some copy)) : s.SameContents t := by
  cases h.effect with
  | nothing halike => exact halike.sameContents
  | used id _ halike => exact (Store.sameContents_markUsed s now id).trans_alike halike
  | inserted gate copy hphase =>
    subst hphase
    cases h with
    | insert => exact absurd rfl (hnext copy)
    | refuse => exact absurd rfl (hnext copy)

/-- A lookup that could not read has no file to answer with. -/
theorem Course.given?_of_failed (h : Course now disk path s phase next t) {r : Reading}
    {error : Errno} (hreading : phase.reading? = some r)
    (hfails : r.advance disk path = .finished (.failed error)) : next.given? = some none := by
  cases h with
  | read hread hgoes =>
    cases hreading
    exact absurd (hread.symm.trans hfails) (hgoes _)
  | readAside hread hgoes =>
    cases hreading
    exact absurd (hread.symm.trans hfails) (hgoes _)
  | keep hread =>
    cases hreading
    cases hread.symm.trans hfails
  | outsized hread =>
    cases hreading
    cases hread.symm.trans hfails
  | vain => rfl
  | answer hread =>
    cases hreading
    cases hread.symm.trans hfails
    exact given?_answered _ _
  | _ => cases hreading

end Lookup

namespace World

/-- Whether in the next turn of a lookup the reading of the file fails. -/
def readFails (w : World) (id : CallId) : Bool :=
  (w.lookup? id).any fun l => l.2.reading?.any fun r => (r.advance w.disk l.1).hasFailed

/-- The next turn of an agent leaves the map and the contents as they are. -/
def SparesContents (w : World) (agent : Agent) : Prop :=
  ∃ w' notices, w.step agent = some (w', notices) ∧ w.store.SameContents w'.store

variable {u v v' w : World} {event : Event} {events : List Event} {notices more : List Notice}
  {id : CallId} {path : Path} {phase : Lookup}

theorem readFails_iff (hat : w.lookup? id = some (path, phase)) : w.readFails id = true ↔
    ∃ r error, phase.reading? = some r ∧ r.advance w.disk path = .finished (.failed error) := by
  rw [readFails, hat, Option.any_some, Option.any_eq_true]
  simp only [Reading.hasFailed_iff, exists_and_left]

/-- What a lookup has done since it began in `u`. -/
structure Inquiry (u : World) (id : CallId) (events : List Event) (phase : Lookup) : Prop where
  fails : (∃ x ∈ u.turnsOf (.call id) events, x.readFails id = true) → phase.given? = some none
  spares : (∀ copy, phase.given? ≠ some (some copy)) →
    ∀ x ∈ u.turnsOf (.call id) events, x.SparesContents (.call id)

theorem Inquiry.turn {st : Step Lookup} (h : Inquiry u id events phase)
    (hat : v.lookup? id = some (path, phase)) (hturn : LookupTurn v id path phase st v')
    (hrun : u.run events = some (v, notices))
    (happly : v.apply (.turn (.call id)) = some (v', more)) :
    Inquiry u id (events ++ [.turn (.call id)]) st.next := by
  have hcourse := Lookup.step_course hturn.step
  refine ⟨?_, fun hnext x hx => ?_⟩
  · rintro ⟨x, hx, hfails⟩
    rcases (mem_turnsOf_turn hrun happly).mp hx with hold | rfl
    · exact hcourse.given? (h.fails ⟨x, hold, hfails⟩)
    · obtain ⟨r, error, hreading, hread⟩ := (readFails_iff hat).mp hfails
      exact hcourse.given?_of_failed hreading hread
  · rcases (mem_turnsOf_turn hrun happly).mp hx with hold | rfl
    · exact h.spares (fun copy hgiven => hnext copy (hcourse.given? hgiven)) x hold
    · exact ⟨v', more, happly, hturn.store ▸ hcourse.sameContents hnext⟩

theorem inquiry_of_run (hstart : u.lookup? id = some (path, .starting))
    (hrun : u.run events = some (v, notices)) :
    ∃ phase, v.lookup? id = some (path, phase) ∧ Inquiry u id events phase := by
  refine run_induction (P := fun events v =>
    ∃ phase, v.lookup? id = some (path, phase) ∧ Inquiry u id events phase)
    ⟨.starting, hstart, ?_, fun _ x hx => by cases hx⟩ ?_ hrun
  · rintro ⟨x, hx, -⟩
    cases hx
  · rintro events v event v' first later hrun happly ⟨phase, hat, h⟩
    by_cases hevent : event = .turn (.call id)
    · subst hevent
      obtain ⟨st, hturn⟩ := step_lookup hat happly
      exact ⟨st.next, hturn.next, h.turn hat hturn hrun happly⟩
    · have hturns := turnsOf_other hevent hrun happly
      exact ⟨phase, (apply_move happly).lookup_kept hevent hat, hturns ▸ h.fails,
        hturns ▸ h.spares⟩

end World
end FileCache
