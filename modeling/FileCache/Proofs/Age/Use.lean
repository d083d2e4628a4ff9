import FileCache.Proofs.Transparency.Agreement
import FileCache.Proofs.World.Clock

/-!
When an entry was last used.

The time that an entry carries is set by whoever reads it or puts a copy into it, to the time at
which that happens, and by nothing else.  So every entry in the map has the time of an event of
the run in which it was read or updated.
-/

namespace FileCache

open Store (Alike Orderly)

/-! ## Turns of tasks -/

section Tasks

variable {now : Nat} {path : Path} {s t : Store} {id : EntryId} {e' : Entry}

/-- The entry is in the map and has the time that it had. -/
def Store.KeepsTime (s : Store) (id : EntryId) (e' : Entry) : Prop :=
  id ∈ s.mapped ∧ ∃ e, s.entry? id = some e ∧ e'.touched = e.touched

theorem Store.Alike.keepsTime (h : Alike s t) (hid : id ∈ t.mapped)
    (he' : t.entry? id = some e') : s.KeepsTime id e' :=
  ⟨h.mapped ▸ hid, e', by rw [← h.entry?, he'], rfl⟩

/-- A change of one entry leaves the time of the others as it is. -/
theorem Store.Orderly.keepsTime_revise (hs : s.Orderly) {other : EntryId}
    {change : Entry → Entry} {used : Nat} (h : Alike (s.revise other change used) t)
    (hchange : other = id → ∀ e : Entry, (change e).touched = e.touched) (hid : id ∈ t.mapped)
    (he' : t.entry? id = some e') : s.KeepsTime id e' := by
  have hmapped : id ∈ s.mapped := by
    rw [h.mapped] at hid
    exact hid
  obtain ⟨e, he⟩ := hs.entry hmapped
  refine ⟨hmapped, e, he, ?_⟩
  rw [h.entry?, Store.entry?_revise he, Option.some.injEq] at he'
  rw [← he']
  split
  · rename_i hsame
    exact hchange hsame e
  · rfl

/-- A lookup sets the time of the entry that it reads, and of the entry that it makes. -/
theorem Lookup.Effect.touched {phase : Lookup} (h : Lookup.Effect now path phase s t)
    (hs : s.Orderly) (hid : id ∈ t.mapped) (he' : t.entry? id = some e') :
    s.KeepsTime id e' ∨ e'.touched = now ∧
      ((∃ gate, phase = .found gate id) ∨ ∃ gate copy, phase = .storing gate copy ∧
        s.accepts path copy = true ∧ id = s.entries.length) := by
  cases h with
  | nothing h => exact .inl (h.keepsTime hid he')
  | used other hphase h =>
    by_cases hsame : other = id
    · subst hsame
      have hmapped : other ∈ s.mapped := by
        rw [h.mapped] at hid
        exact hid
      obtain ⟨e, he⟩ := hs.entry hmapped
      rw [h.entry?, Store.markUsed_eq_revise, Store.entry?_revise_self he,
        Option.some.injEq] at he'
      exact .inr ⟨he' ▸ rfl, .inl ⟨_, hphase⟩⟩
    · rw [Store.markUsed_eq_revise] at h
      exact .inl (hs.keepsTime_revise h (fun he => absurd he hsame) hid he')
  | inserted gate copy hphase haccepts h =>
    rw [h.mapped, Store.insert, List.mem_append, List.mem_singleton] at hid
    rw [h.entry?] at he'
    rcases hid with hold | rfl
    · rw [Store.entry?_insert_of_lt (hs.known id hold)] at he'
      exact .inl ⟨hold, e', he', rfl⟩
    · rw [Store.entry?_insert_length, Option.some.injEq] at he'
      exact .inr ⟨he' ▸ rfl, .inr ⟨gate, copy, hphase, haccepts, rfl⟩⟩

/-- A sweep sets the time of an entry when it puts a copy into it. -/
theorem Sweep.Effect.touched {sw : Sweep} (h : Sweep.Effect now sw s t) (hs : s.Orderly)
    (hid : id ∈ t.mapped) (he' : t.entry? id = some e') :
    s.KeepsTime id e' ∨ e'.touched = now ∧ id ∈ s.mapped ∧ sw.todo.head? = some id ∧
      ∃ copy, (sw.phase = .exchanging copy ∧ s.hasRoom (s.sizeOf id) copy.size = true) ∨
        (sw.phase = .refilling copy ∧ s.hasRoom 0 copy.size = true) := by
  have hrevised {other : EntryId} {copy : Copy} {used : Nat} (hother : other ∈ s.mapped)
      (h : Alike (s.revise other (Entry.replace now copy) used) t) :
      s.KeepsTime id e' ∨ e'.touched = now ∧ other = id := by
    by_cases hsame : other = id
    · subst hsame
      obtain ⟨e, he⟩ := hs.entry hother
      rw [h.entry?, Store.entry?_revise_self he, Option.some.injEq] at he'
      exact .inr ⟨he' ▸ rfl, rfl⟩
    · exact .inl (hs.keepsTime_revise h (fun he => absurd he hsame) hid he')
  cases h with
  | nothing h => exact .inl (h.keepsTime hid he')
  | removed other _ _ h =>
    rw [h.mapped] at hid
    exact .inl ⟨List.mem_of_mem_erase hid, e', by rw [← he', h.entry?]; rfl, rfl⟩
  | forgotten _ _ _ _ h => exact .inl (hs.keepsTime_revise h (fun _ _ => rfl) hid he')
  | vacated _ _ _ _ h => exact .inl (hs.keepsTime_revise h (fun _ _ => rfl) hid he')
  | exchanged other copy hother hhead hphase hroom h =>
    refine (hrevised hother h).imp_right ?_
    rintro ⟨hnow, rfl⟩
    exact ⟨hnow, hother, hhead, copy, .inl ⟨hphase, hroom⟩⟩
  | refilled other copy hother hhead hphase hroom h =>
    refine (hrevised hother h).imp_right ?_
    rintro ⟨hnow, rfl⟩
    exact ⟨hnow, hother, hhead, copy, .inr ⟨hphase, hroom⟩⟩

end Tasks

namespace World

/-- The event reads the entry for a lookup, makes it, or puts a copy into it. -/
inductive Uses (w : World) (id : EntryId) : Event → Prop
  | reads {caller : CallId} {path : Path} {gate : Option GateId}
      (hat : w.lookup? caller = some (path, .found gate id)) : Uses w id (.turn (.call caller))
  | makes {caller : CallId} {path : Path} {gate : GateId} {copy : Copy}
      (hat : w.lookup? caller = some (path, .storing gate copy))
      (haccepts : w.store.accepts path copy = true) (hnew : id = w.store.entries.length) :
      Uses w id (.turn (.call caller))
  | updates {agent : Agent} {sw : Sweep} {copy : Copy} (hat : w.sweep? agent = some sw)
      (hid : id ∈ w.store.mapped) (hhead : sw.todo.head? = some id)
      (hput : (sw.phase = .exchanging copy ∧
          w.store.hasRoom (w.store.sizeOf id) copy.size = true) ∨
        (sw.phase = .refilling copy ∧ w.store.hasRoom 0 copy.size = true)) :
      Uses w id (.turn agent)

variable {w w' v v' : World} {event : Event} {events : List Event} {notices more : List Notice}
  {id : EntryId} {e' : Entry}

/-- A mapped entry has the time that it had, or the event uses it. -/
theorem Move.touched (h : Move w event w') (hs : w.store.Orderly) (hid : id ∈ w'.store.mapped)
    (he' : w'.store.entry? id = some e') :
    w.store.KeepsTime id e' ∨ (e'.touched = w.now ∧ w.Uses id event) := by
  cases h with
  | idle hstore _ _ _ =>
    rw [hstore] at hid he'
    exact .inl ⟨hid, e', he', rfl⟩
  | lookup caller path phase st hevent hat hstep hstore _ _ _ =>
    rw [hstore] at hid he'
    refine ((Lookup.step_course hstep).effect.touched hs hid he').imp_right ?_
    rintro ⟨hnow, ⟨gate, rfl⟩ | ⟨gate, copy, rfl, haccepts, hnew⟩⟩
    · exact ⟨hnow, hevent ▸ .reads hat⟩
    · exact ⟨hnow, hevent ▸ .makes hat haccepts hnew⟩
  | sweep agent sw st hevent hat hturn =>
    rw [hturn.store] at hid he'
    refine ((Sweep.step_effect hturn.step).touched hs hid he').imp_right ?_
    rintro ⟨hnow, hmapped, hhead, copy, hput⟩
    exact ⟨hnow, hevent ▸ .updates hat hmapped hhead hput⟩
  | clear hstore _ =>
    rw [hstore] at hid
    cases hid
  | switch on hstore _ =>
    rw [hstore] at hid he'
    exact .inl ⟨hid, e', he', rfl⟩
  | shuffle order hperm hstore _ =>
    rw [hstore] at hid he'
    exact .inl ⟨hperm.mem_iff.mp hid, e', he', rfl⟩

/-! ## Runs -/

/-- In the course of the events the entry was used at the given time. -/
def UsedAt (w : World) (events : List Event) (id : EntryId) (time : Nat) : Prop :=
  ∃ u event, (u, event) ∈ w.happenings events ∧ u.Uses id event ∧ u.now = time

/-- Every mapped entry has the time of an event of the run in which it was used. -/
theorem used_of_run {disk : Disk} {limits : Limits} {wall : Time.Timestamp}
    (hrun : (freshOn disk limits wall).run events = some (v, notices)) :
    ∀ id ∈ v.store.mapped, ∀ e, v.store.entry? id = some e →
      e.touched ≤ v.now ∧ (freshOn disk limits wall).UsedAt events id e.touched := by
  refine run_induction (P := fun events v => v.store.Orderly ∧ ∀ id ∈ v.store.mapped, ∀ e,
    v.store.entry? id = some e →
      e.touched ≤ v.now ∧ (freshOn disk limits wall).UsedAt events id e.touched) ?_ ?_ hrun |>.2
  · exact ⟨(Sound.freshOn disk limits wall).orderly, fun id hid => by cases hid⟩
  · rintro before u event u' first more hbefore happly ⟨hs, hu⟩
    have hmove := apply_move happly
    have hle := now_le_of_apply happly
    refine ⟨hmove.orderly hs, fun id hid e' he' => ?_⟩
    rw [UsedAt, happenings_snoc hbefore happly]
    rcases hmove.touched hs hid he' with ⟨hold, e, he, htouched⟩ | ⟨hnow, huses⟩
    · obtain ⟨hpast, x, earlier, hmem, huses, htime⟩ := hu id hold e he
      rw [htouched]
      exact ⟨Nat.le_trans hpast hle, x, earlier, List.mem_append_left _ hmem, huses, htime⟩
    · rw [hnow]
      exact ⟨hle, u, event, List.mem_append_right _ (List.mem_singleton.mpr rfl), huses, rfl⟩

end World
end FileCache
