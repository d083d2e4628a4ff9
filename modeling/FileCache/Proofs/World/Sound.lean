import FileCache.Proofs.Lookup.Gates
import FileCache.Proofs.Sweep.Course
import FileCache.Proofs.World.Run

/-!
What keeps every task of a run able to go on.

The entries that lookups and sweeps have in hand were made, a sweep on its way has an
entry to visit, and a locked gate has a lookup that will open it.
-/

namespace FileCache

open Store (Alike Orderly)

/-! ## Entries are never lost -/

theorem Lookup.Effect.grows {now : Nat} {path : Path} {phase : Lookup} {s t : Store}
    (h : Lookup.Effect now path phase s t) : s.entries.length ≤ t.entries.length := by
  cases h with
  | nothing h => exact Nat.le_of_eq (by rw [h.entries])
  | used id _ h =>
    exact Nat.le_of_eq (by rw [h.entries, Store.markUsed, Store.modify, List.length_modify])
  | inserted gate copy _ _ h =>
    rw [h.entries, Store.insert, List.length_append]
    exact Nat.le_add_right _ _

theorem Sweep.Effect.length_entries {now : Nat} {sw : Sweep} {s t : Store}
    (h : Sweep.Effect now sw s t) : t.entries.length = s.entries.length := by
  rcases h.kinds with h | ⟨id, -, h⟩ | ⟨id, -, change, used, h⟩
  · rw [h.entries]
  · rw [h.entries]
    rfl
  · rw [h.entries, Store.revise, Store.modify, List.length_modify]

theorem Lookup.Effect.orderly {now : Nat} {path : Path} {phase : Lookup} {s t : Store}
    (h : Lookup.Effect now path phase s t) (hs : s.Orderly) : t.Orderly := by
  cases h with
  | nothing h => exact h.orderly hs
  | used id _ h => exact h.orderly (hs.markUsed now id)
  | inserted gate copy _ _ h => exact h.orderly (hs.insert now path copy)

theorem Sweep.Effect.orderly {now : Nat} {sw : Sweep} {s t : Store}
    (h : Sweep.Effect now sw s t) (hs : s.Orderly) : t.Orderly := by
  rcases h.kinds with h | ⟨id, -, h⟩ | ⟨id, -, change, used, h⟩
  · exact h.orderly hs
  · exact h.orderly (hs.unmap id)
  · exact h.orderly (hs.revise id change used)

/-! ## Turns -/

theorem Store.find?_mem {s : Store} {path : Path} {id : EntryId} (h : s.find? path = some id) :
    id ∈ s.mapped := List.mem_of_find?_eq_some h

/-- A lookup comes by its entry through the map. -/
theorem Lookup.Course.found {now : Nat} {disk : Disk} {path : Path} {s t : Store}
    {phase : Lookup} {gate : Option GateId} {id : EntryId}
    (h : Lookup.Course now disk path s phase (.found gate id) t) : id ∈ s.mapped := by
  generalize hnext : Lookup.found gate id = next at h
  cases h with
  | find hfind =>
    cases hnext
    exact Store.find?_mem hfind
  | findAgain hfind =>
    cases hnext
    exact Store.find?_mem hfind
  | @take gate' _ _ _ _ _ => cases gate' <;> cases hnext
  | @answer gate' _ _ _ => cases gate' <;> cases hnext
  | _ => cases hnext

namespace Sweep

/-- A sweep never touches a gate. -/
theorem step_gates {now : Nat} {disk : Disk} {s : Store} {sw : Sweep} {st : Step Sweep}
    (h : sw.step now disk s = some st) :
    st.store.gates = s.gates ∧ st.store.listed = s.listed := by
  have hproceed (sw : Sweep) (todo : List EntryId) (s : Store) (notices : List Notice) :
      (sw.proceed todo s notices).store.gates = s.gates ∧
        (sw.proceed todo s notices).store.listed = s.listed := by cases todo <;> exact ⟨rfl, rfl⟩
  rcases step_cases h with ⟨-, rfl⟩ | ⟨id, rest, e, htodo, -, hvisit⟩
  · exact hproceed _ _ _ _
  · rcases hvisit with ⟨hcourse⟩ | ⟨hending⟩
    · generalize sw.phase = before at hcourse
      cases hcourse with
      | vacate hvacate =>
        unfold Store.vacate? at hvacate
        split at hvacate <;> cases hvacate
        exact ⟨rfl, rfl⟩
      | _ => exact ⟨rfl, rfl⟩
    · rw [conclude, (hproceed _ _ _ _).1, (hproceed _ _ _ _).2]
      generalize sw.phase = before at hending
      cases hending with
      | discard => unfold Store.discard; split <;> exact ⟨rfl, rfl⟩
      | exchange => unfold Store.exchange; split <;> (try simp only []; split) <;> exact ⟨rfl, rfl⟩
      | refill => unfold Store.refill; split <;> (try split) <;> exact ⟨rfl, rfl⟩
      | forget => unfold Store.forget; split <;> (try simp only []; split) <;> exact ⟨rfl, rfl⟩
      | _ => exact ⟨rfl, rfl⟩

/-- A sweep visits what was in the map when it began. -/
theorem step_todo {now : Nat} {disk : Disk} {s : Store} {sw : Sweep} {st : Step Sweep}
    (h : sw.step now disk s = some st) :
    ∀ id ∈ st.next.todo, id ∈ s.mapped ∨ id ∈ sw.todo := by
  intro other hother
  rcases step_cases h with ⟨-, rfl⟩ | ⟨id, rest, e, htodo, -, hvisit⟩
  · rw [todo_proceed] at hother
    exact .inl hother
  · rcases hvisit with ⟨hcourse⟩ | ⟨hending⟩
    · exact .inr hother
    · rw [conclude, todo_proceed] at hother
      exact .inr (htodo ▸ List.mem_cons_of_mem id hother)

/-- A sweep on its way has an entry to visit. -/
theorem step_visits {now : Nat} {disk : Disk} {s : Store} {sw : Sweep} {st : Step Sweep}
    (h : sw.step now disk s = some st) (hunderway : st.next.isUnderway = true) :
    st.next.todo ≠ [] := by
  have hproceed (sw : Sweep) (todo : List EntryId) (s : Store) (notices : List Notice)
      (h : (sw.proceed todo s notices).next.isUnderway = true) :
      (sw.proceed todo s notices).next.todo ≠ [] := by
    cases todo with
    | nil => cases h
    | cons id rest => exact List.cons_ne_nil id rest
  rcases step_cases h with ⟨-, rfl⟩ | ⟨id, rest, e, htodo, -, hvisit⟩
  · exact hproceed _ _ _ _ hunderway
  · rcases hvisit with ⟨hcourse⟩ | ⟨hending⟩
    · show sw.todo ≠ []
      rw [htodo]
      exact List.cons_ne_nil id rest
    · exact hproceed _ _ _ _ hunderway

end Sweep

/-! ## Runs -/

namespace World

theorem Move.grows {w w' : World} {event : Event} (h : Move w event w') :
    w.store.entries.length ≤ w'.store.entries.length := by
  cases h with
  | idle hstore _ _ _ => exact Nat.le_of_eq (by rw [hstore])
  | lookup _ _ _ _ _ _ hstep hstore _ _ _ =>
    rw [hstore]
    exact (Lookup.step_course hstep).effect.grows
  | sweep _ _ _ _ _ hturn =>
    rw [hturn.store]
    exact Nat.le_of_eq (Sweep.step_effect hturn.step).length_entries.symm
  | clear hstore _ => exact Nat.le_of_eq (by rw [hstore]; rfl)
  | switch _ hstore _ => exact Nat.le_of_eq (by rw [hstore])
  | shuffle _ _ hstore _ => exact Nat.le_of_eq (by rw [hstore])

theorem Move.orderly {w w' : World} {event : Event} (h : Move w event w')
    (hw : w.store.Orderly) : w'.store.Orderly := by
  cases h with
  | idle hstore _ _ _ => exact hstore ▸ hw
  | lookup _ _ _ _ _ _ hstep hstore _ _ _ =>
    rw [hstore]
    exact (Lookup.step_course hstep).effect.orderly hw
  | sweep _ _ _ _ _ hturn =>
    rw [hturn.store]
    exact (Sweep.step_effect hturn.step).orderly hw
  | clear hstore _ => exact hstore ▸ Orderly.dropAll w.store
  | switch _ hstore _ => exact hstore ▸ ⟨hw.nodup, hw.known⟩
  | shuffle order hperm hstore _ =>
    have horderly : ({ w.store with mapped := order } : Store).Orderly :=
      ⟨hperm.nodup_iff.mpr hw.nodup, fun id hid => hw.known id (hperm.mem_iff.mp hid)⟩
    exact hstore ▸ horderly

structure Sound (w : World) : Prop where
  orderly : w.store.Orderly
  /-- A lookup has found an entry that was made. -/
  found : ∀ id path gate entry, w.lookup? id = some (path, .found gate entry) →
    entry < w.store.entries.length
  /-- So are the entries that a sweep is going to visit. -/
  todo : ∀ agent sw, w.sweep? agent = some sw → ∀ id ∈ sw.todo, id < w.store.entries.length
  visits : ∀ agent sw, w.sweep? agent = some sw → sw.isUnderway = true → sw.todo ≠ []
  unfinished : ∀ id sw, w.sweep? (.scanner id) = some sw → sw.phase ≠ .finished
  /-- A locked gate has a lookup that will open it. -/
  gates : ∀ g, w.store.isLocked g = true →
    ∃ id path phase, w.lookup? id = some (path, phase) ∧ phase.held? = some g

namespace Sound

theorem freshOn (disk : Disk) (limits : Limits) (wall : Time.Timestamp) :
    (freshOn disk limits wall).Sound where
  orderly := ⟨List.nodup_nil, fun _ h => absurd h List.not_mem_nil⟩
  found _ _ _ _ h := by cases h
  todo agent sw h := by cases agent <;> cases h
  visits agent sw h := by cases agent <;> cases h
  unfinished _ _ h := by cases h
  gates g h := by cases h

variable {w w' : World} {event : Event}

/-- A lookup locks its own gate only, and a gate that stays locked keeps its lookup. -/
theorem gates_move (hw : w.Sound) (h : Move w event w') {g : GateId}
    (hg : w'.store.isLocked g = true) :
    ∃ id path phase, w'.lookup? id = some (path, phase) ∧ phase.held? = some g := by
  have hkept (hlookups : w'.lookup? = w.lookup?) (hgates : w'.store.gates = w.store.gates) :
      ∃ id path phase, w'.lookup? id = some (path, phase) ∧ phase.held? = some g := by
    rw [hlookups]
    rw [Store.isLocked, Store.gate?, hgates] at hg
    exact hw.gates g hg
  cases h with
  | idle hstore _ hsame _ =>
    rw [hstore] at hg
    obtain ⟨id, path, phase, hat, hheld⟩ := hw.gates g hg
    exact ⟨id, path, phase, hsame id path phase hat, hheld⟩
  | lookup id path phase st _ hat hstep hstore hnext hlookups _ =>
    rw [hstore] at hg
    rcases (Lookup.step_course hstep).locked hg with hheld | ⟨hlocked, hother⟩
    · exact ⟨id, path, st.next, hnext, hheld⟩
    · obtain ⟨owner, p, q, howner, hheld⟩ := hw.gates g hlocked
      have hne : owner ≠ id := by
        intro he
        rw [he, hat, Option.some.injEq, Prod.mk.injEq] at howner
        exact hother (howner.2 ▸ hheld)
      exact ⟨owner, p, q, (hlookups owner hne).trans howner, hheld⟩
  | sweep _ _ _ _ _ hturn =>
    exact hkept hturn.lookups (by rw [hturn.store, (Sweep.step_gates hturn.step).1])
  | clear hstore hsame => exact hkept hsame.lookup? (by rw [hstore]; rfl)
  | switch _ hstore hsame => exact hkept hsame.lookup? (by rw [hstore])
  | shuffle _ _ hstore hsame => exact hkept hsame.lookup? (by rw [hstore])

theorem move (hw : w.Sound) (h : Move w event w') : w'.Sound where
  orderly := h.orderly hw.orderly
  found id path gate entry hat := by
    refine Nat.lt_of_lt_of_le ?_ h.grows
    rcases h.lookup_cases hat with hold | ⟨-, hnew⟩ | ⟨before, st, -, hstep, -, hnext⟩
    · exact hw.found id path gate entry hold
    · cases hnew
    · have hcourse := Lookup.step_course hstep
      rw [← hnext] at hcourse
      exact hw.orderly.known entry hcourse.found
  todo agent sw hat id hid := by
    refine Nat.lt_of_lt_of_le ?_ h.grows
    rcases h.sweep_cases hat with hold | rfl | ⟨before, st, hbefore, hturn, rfl⟩
    · exact hw.todo agent sw hold id hid
    · cases hid
    · rcases Sweep.step_todo hturn.step id hid with hmapped | hold
      · exact hw.orderly.known id hmapped
      · exact hw.todo agent before hbefore id hold
  visits agent sw hat hunderway := by
    rcases h.sweep_cases hat with hold | rfl | ⟨before, st, -, hturn, rfl⟩
    · exact hw.visits agent sw hold hunderway
    · cases hunderway
    · exact Sweep.step_visits hturn.step hunderway
  unfinished id sw hat := by
    rcases h.sweep_cases hat with hold | rfl | ⟨before, st, -, hturn, -⟩
    · exact hw.unfinished id sw hold
    · nofun
    · exact hturn.unfinished id sw rfl hat
  gates _ hg := hw.gates_move h hg

theorem passed {disk : Disk} {limits : Limits} {wall : Time.Timestamp} {events : List Event} :
    ∀ v ∈ (World.freshOn disk limits wall).passed events, v.Sound :=
  passed_induction (fun _ _ _ _ hw happly => hw.move (apply_move happly))
    (.freshOn disk limits wall)

end Sound
end World
end FileCache
