import FileCache.Sweep
import FileCache.Proofs.Store.Bytes

/-!
What one turn of a sweep can be.

`Course` lists the turns within the visit to an entry, `Ending` those that end a visit.
`step_cases` says that, beside taking the list of entries, there are no others.
-/

namespace FileCache

open Store (Alike)

namespace Sweep

/-- The turns within a visit to the entry `e`, known as `id`: the phase before, the phase
after, and the store after. -/
inductive Course (now : Nat) (disk : Disk) (s : Store) (id : EntryId) (e : Entry) :
    Phase → Phase → Store → Prop
  | expire (h : e.isExpired now (s.limits.interval * 1000) = true) :
      Course now disk s id e .visiting (.discarding .stale) s
  | check (h : e.isExpired now (s.limits.interval * 1000) = false) :
      Course now disk s id e .visiting .checking s
  | see {status : Status} (h : disk.statPath e.path = .ok status)
      (hregular : status.regular = true) :
      Course now disk s id e .checking (.comparing status.stamp) s
  | lack (h : disk.statPath e.path = .error .noEntry ∨
        ∃ status, disk.statPath e.path = .ok status ∧ status.regular = false) :
      Course now disk s id e .checking .forgetting s
  | differ {seen : Stamp} (h : ∀ copy, e.content = .present copy →
        seen.differs copy.stamp = true) :
      Course now disk s id e (.comparing seen) (.weighing seen e.size) s
  | overweigh {seen : Stamp} {old : Nat}
      (h : s.limits.maxFile < seen.size ∨ s.limits.capacity < s.used - old + seen.size) :
      Course now disk s id e (.weighing seen old) (.discarding .failed) s
  | preload {seen : Stamp} {old : Nat} (hfile : seen.size ≤ s.limits.maxFile)
      (hroom : s.used - old + seen.size ≤ s.limits.capacity)
      (hboth : s.used + seen.size ≤ s.limits.capacity) :
      Course now disk s id e (.weighing seen old) (.preloading .opening) s
  | makeRoom {seen : Stamp} {old : Nat} (hfile : seen.size ≤ s.limits.maxFile)
      (hroom : s.used - old + seen.size ≤ s.limits.capacity)
      (hboth : s.limits.capacity < s.used + seen.size) :
      Course now disk s id e (.weighing seen old) .vacating s
  | preread {r r' : Reading} (h : r.advance disk e.path = r')
      (hgo : ∀ result, r' ≠ .finished result) :
      Course now disk s id e (.preloading r) (.preloading r') s
  | preloaded {r : Reading} {copy : Copy}
      (h : r.advance disk e.path = .finished (.copy copy)) :
      Course now disk s id e (.preloading r) (.exchanging copy) s
  | vanish {r : Reading} (h : r.advance disk e.path = .finished .absent) :
      Course now disk s id e (.preloading r) .forgetting s
  | vacate {t : Store} (h : s.vacate? id = some t) :
      Course now disk s id e .vacating (.reloading .opening) t
  | reread {r r' : Reading} (h : r.advance disk e.path = r')
      (hgo : ∀ result, r' ≠ .finished result) :
      Course now disk s id e (.reloading r) (.reloading r') s
  | reloaded {r : Reading} {copy : Copy}
      (h : r.advance disk e.path = .finished (.copy copy)) :
      Course now disk s id e (.reloading r) (.refilling copy) s
  | vanishLate {r : Reading} (h : r.advance disk e.path = .finished .absent) :
      Course now disk s id e (.reloading r) .forgetting s
  | failLate {r : Reading} {error : Errno}
      (h : r.advance disk e.path = .finished (.failed error)) :
      Course now disk s id e (.reloading r) (.discarding .failed) s

/-- A visit does not end within its course. -/
theorem Course.ne_finished {now : Nat} {disk : Disk} {s t : Store} {id : EntryId} {e : Entry}
    {phase next : Phase} (h : Course now disk s id e phase next t) : next ≠ .finished := by
  cases h with
  | preread _ _ => nofun
  | _ => nofun

/-- The turns that end a visit: the phase before, the verdict, and the store after, but
for the counter of sweeps. -/
inductive Ending (now : Nat) (disk : Disk) (s : Store) (id : EntryId) (e : Entry) :
    Phase → Verdict → Store → Prop
  | discard {verdict : Verdict} :
      Ending now disk s id e (.discarding verdict) verdict (s.discard id)
  | unseen {error : Errno} (h : disk.statPath e.path = .error error)
      (hne : error ≠ .noEntry) : Ending now disk s id e .checking .unknown s
  | same {seen : Stamp} {copy : Copy} (hc : e.content = .present copy)
      (h : seen.differs copy.stamp = false) :
      Ending now disk s id e (.comparing seen) .noChange s
  | unread {r : Reading} {error : Errno}
      (h : r.advance disk e.path = .finished (.failed error)) :
      Ending now disk s id e (.preloading r) .unknown s
  | exchange {copy : Copy} :
      Ending now disk s id e (.exchanging copy) (s.exchange now id copy).2
        (s.exchange now id copy).1
  | lost (h : s.vacate? id = none) : Ending now disk s id e .vacating .noChange s
  | refill {copy : Copy} :
      Ending now disk s id e (.refilling copy) (s.refill now id copy).2
        (s.refill now id copy).1
  | forget : Ending now disk s id e .forgetting .notExist (s.forget id)

/-- Whether the entry at hand counts as a placeholder from the beginning of the visit;
the first turn of a visit takes note of it. -/
def noted (sw : Sweep) (e : Entry) : Bool :=
  match sw.phase with
  | .visiting => e.content = .missing
  | _ => sw.wasMissing

/-- A turn of a visit goes on with the visit or ends it. -/
inductive Visit (now : Nat) (disk : Disk) (s : Store) (sw : Sweep) (id : EntryId) (e : Entry)
    (rest : List EntryId) : Step Sweep → Prop
  | on {phase : Phase} {t : Store} {notices : List Notice}
      (h : Course now disk s id e sw.phase phase t) :
      Visit now disk s sw id e rest
        { next := { sw with phase, wasMissing := sw.noted e }, store := t, notices }
  | ended {verdict : Verdict} {t : Store} {notices : List Notice}
      (h : Ending now disk s id e sw.phase verdict t) :
      Visit now disk s sw id e rest (sw.conclude e.path rest verdict t notices)

variable {now : Nat} {disk : Disk} {s : Store} {sw : Sweep} {id : EntryId} {e : Entry}
  {rest : List EntryId}

/-- A turn within a visit, from its course. -/
theorem Visit.goto {phase : Phase} {t : Store} {notices : List Notice}
    (h : Course now disk s id e sw.phase phase t) (hnoted : sw.noted e = sw.wasMissing) :
    Visit now disk s sw id e rest (sw.goto phase t notices) := by
  have hturn : Visit now disk s sw id e rest
      { next := { sw with phase, wasMissing := sw.noted e }, store := t, notices } := .on h
  rw [hnoted] at hturn
  exact hturn

theorem visit_visiting {st : Step Sweep} (hphase : sw.phase = .visiting)
    (h : sw.visit now disk s id e rest = some st) : Visit now disk s sw id e rest st := by
  have hnoted : sw.noted e = decide (e.content = .missing) := by simp only [noted, hphase]
  simp only [visit, hphase, ← hnoted] at h
  split at h
  · rename_i hexpired
    cases h
    exact .on (hphase ▸ .expire hexpired)
  · rename_i hfresh
    cases h
    exact .on (hphase ▸ .check (Bool.eq_false_iff.mpr hfresh))

theorem visit_checking {st : Step Sweep} (hphase : sw.phase = .checking)
    (h : sw.visit now disk s id e rest = some st) : Visit now disk s sw id e rest st := by
  have hnoted : sw.noted e = sw.wasMissing := by simp only [noted, hphase]
  simp only [visit, hphase] at h
  split at h
  · rename_i status hstat
    split at h
    · rename_i hregular
      cases h
      exact .goto (hphase ▸ .see hstat hregular) hnoted
    · rename_i hregular
      cases h
      exact .goto (hphase ▸ .lack (.inr ⟨status, hstat, Bool.eq_false_iff.mpr hregular⟩)) hnoted
  · rename_i hstat
    cases h
    exact .goto (hphase ▸ .lack (.inl hstat)) hnoted
  · rename_i error hne hstat
    cases h
    exact .ended (hphase ▸ .unseen hstat fun herror => hne (herror ▸ rfl))

theorem visit_comparing {st : Step Sweep} {seen : Stamp} (hphase : sw.phase = .comparing seen)
    (h : sw.visit now disk s id e rest = some st) : Visit now disk s sw id e rest st := by
  have hnoted : sw.noted e = sw.wasMissing := by simp only [noted, hphase]
  simp only [visit, hphase] at h
  split at h
  · rename_i copy hc
    have hsize : e.size = copy.size := by rw [Entry.size, hc, Content.size]
    split at h
    · rename_i hdiffers
      cases h
      rw [← hsize]
      refine .goto (hphase ▸ .differ fun c hc' => ?_) hnoted
      rw [hc, Content.present.injEq] at hc'
      exact hc' ▸ hdiffers
    · rename_i hsame
      cases h
      exact .ended (hphase ▸ .same hc (Bool.eq_false_iff.mpr hsame))
  · rename_i hc
    have hsize : e.size = 0 := by
      rw [Entry.size]
      cases hc' : e.content with
      | present copy => exact absurd hc' (hc copy)
      | missing => rfl
      | reloading => rfl
    cases h
    rw [← hsize]
    exact .goto (hphase ▸ .differ fun c hc' => absurd hc' (hc c)) hnoted

theorem visit_weighing {st : Step Sweep} {seen : Stamp} {old : Nat}
    (hphase : sw.phase = .weighing seen old)
    (h : sw.visit now disk s id e rest = some st) : Visit now disk s sw id e rest st := by
  have hnoted : sw.noted e = sw.wasMissing := by simp only [noted, hphase]
  simp only [visit, hphase] at h
  split at h
  · rename_i hover
    cases h
    exact .goto (hphase ▸ .overweigh hover) hnoted
  · rename_i hfits
    obtain ⟨hfile, hroom⟩ := not_or.mp hfits
    split at h
    · rename_i hboth
      cases h
      exact .goto (hphase ▸ .preload (Nat.le_of_not_lt hfile) (Nat.le_of_not_lt hroom) hboth)
        hnoted
    · rename_i hboth
      cases h
      exact .goto (hphase ▸ .makeRoom (Nat.le_of_not_lt hfile) (Nat.le_of_not_lt hroom)
        (Nat.lt_of_not_le hboth)) hnoted

theorem visit_preloading {st : Step Sweep} {r : Reading} (hphase : sw.phase = .preloading r)
    (h : sw.visit now disk s id e rest = some st) : Visit now disk s sw id e rest st := by
  have hnoted : sw.noted e = sw.wasMissing := by simp only [noted, hphase]
  simp only [visit, hphase] at h
  split at h
  · rename_i copy hread
    cases h
    exact .goto (hphase ▸ .preloaded hread) hnoted
  · rename_i hread
    cases h
    exact .goto (hphase ▸ .vanish hread) hnoted
  · rename_i error hread
    cases h
    exact .ended (hphase ▸ .unread hread)
  · rename_i hcopy habsent hfailed
    cases h
    refine .goto (hphase ▸ .preread rfl fun result hread => ?_) hnoted
    cases result with
    | copy copy => exact hcopy copy hread
    | absent => exact habsent hread
    | failed error => exact hfailed error hread

theorem visit_reloading {st : Step Sweep} {r : Reading} (hphase : sw.phase = .reloading r)
    (h : sw.visit now disk s id e rest = some st) : Visit now disk s sw id e rest st := by
  have hnoted : sw.noted e = sw.wasMissing := by simp only [noted, hphase]
  simp only [visit, hphase] at h
  split at h
  · rename_i copy hread
    cases h
    exact .goto (hphase ▸ .reloaded hread) hnoted
  · rename_i hread
    cases h
    exact .goto (hphase ▸ .vanishLate hread) hnoted
  · rename_i error hread
    cases h
    exact .goto (hphase ▸ .failLate hread) hnoted
  · rename_i hcopy habsent hfailed
    cases h
    refine .goto (hphase ▸ .reread rfl fun result hread => ?_) hnoted
    cases result with
    | copy copy => exact hcopy copy hread
    | absent => exact habsent hread
    | failed error => exact hfailed error hread

theorem visit_cases {st : Step Sweep} (h : sw.visit now disk s id e rest = some st) :
    Visit now disk s sw id e rest st := by
  cases hphase : sw.phase with
  | visiting => exact visit_visiting hphase h
  | checking => exact visit_checking hphase h
  | comparing seen => exact visit_comparing hphase h
  | weighing seen old => exact visit_weighing hphase h
  | preloading r => exact visit_preloading hphase h
  | reloading r => exact visit_reloading hphase h
  | vacating =>
    simp only [visit, hphase] at h
    split at h
    · rename_i hlost
      cases h
      exact .ended (hphase ▸ .lost hlost)
    · rename_i t hvacate
      cases h
      exact .goto (hphase ▸ .vacate hvacate) (by simp only [noted, hphase])
  | discarding verdict =>
    simp only [visit, hphase] at h
    cases h
    exact .ended (hphase ▸ .discard)
  | exchanging copy =>
    simp only [visit, hphase] at h
    cases h
    exact .ended (hphase ▸ .exchange)
  | refilling copy =>
    simp only [visit, hphase] at h
    cases h
    exact .ended (hphase ▸ .refill)
  | forgetting =>
    simp only [visit, hphase] at h
    cases h
    exact .ended (hphase ▸ .forget)
  | listing => simp [visit, hphase] at h
  | finished => simp [visit, hphase] at h

/-- A turn of a sweep takes the list of entries or belongs to the visit to its head. -/
theorem step_cases {st : Step Sweep} (h : sw.step now disk s = some st) :
    (sw.phase = .listing ∧ st = sw.proceed s.mapped s []) ∨
      ∃ id rest e, sw.todo = id :: rest ∧ s.entry? id = some e ∧
        Visit now disk s sw id e rest st := by
  unfold step at h
  split at h
  · rename_i hphase
    cases h
    exact .inl ⟨hphase, rfl⟩
  · cases h
  · rename_i id rest htodo _
    obtain ⟨e, he, h⟩ := Option.bind_eq_some_iff.mp h
    exact .inr ⟨id, rest, e, htodo, he, visit_cases h⟩

/-- A sweep is underway once it has taken its list, and up to its end. -/
def isUnderway (sw : Sweep) : Bool := sw.phase ≠ .listing ∧ sw.phase ≠ .finished

/-! ## The store after a turn -/

/-- The change of the store in one turn of a sweep, counters left aside.  The phase tells
which of the changes it can be. -/
inductive Effect (now : Nat) (sw : Sweep) (s t : Store) : Prop
  | nothing (h : Alike s t)
  | removed (id : EntryId) (hid : id ∈ s.mapped) (hhead : sw.todo.head? = some id)
      (h : Alike (s.unmap id) t)
  | forgotten (id : EntryId) (hid : id ∈ s.mapped) (hhead : sw.todo.head? = some id)
      (hphase : sw.phase = .forgetting)
      (h : Alike (s.revise id Entry.forget (s.used - s.sizeOf id)) t)
  | vacated (id : EntryId) (hid : id ∈ s.mapped) (hhead : sw.todo.head? = some id)
      (hphase : sw.phase = .vacating)
      (h : Alike (s.revise id Entry.vacate (s.used - s.sizeOf id)) t)
  | exchanged (id : EntryId) (copy : Copy) (hid : id ∈ s.mapped)
      (hhead : sw.todo.head? = some id) (hphase : sw.phase = .exchanging copy)
      (hroom : s.hasRoom (s.sizeOf id) copy.size = true)
      (h : Alike (s.revise id (Entry.replace now copy) (s.used - s.sizeOf id + copy.size)) t)
  | refilled (id : EntryId) (copy : Copy) (hid : id ∈ s.mapped)
      (hhead : sw.todo.head? = some id) (hphase : sw.phase = .refilling copy)
      (hroom : s.hasRoom 0 copy.size = true)
      (h : Alike (s.revise id (Entry.replace now copy) (s.used + copy.size)) t)

namespace Effect

theorem trans_alike {t u : Store} (h : Effect now sw s t) (k : Alike t u) :
    Effect now sw s u := by
  cases h with
  | nothing h => exact .nothing (h.trans k)
  | removed id hid hhead h => exact .removed id hid hhead (h.trans k)
  | forgotten id hid hhead hphase h => exact .forgotten id hid hhead hphase (h.trans k)
  | vacated id hid hhead hphase h => exact .vacated id hid hhead hphase (h.trans k)
  | exchanged id copy hid hhead hphase hroom h =>
    exact .exchanged id copy hid hhead hphase hroom (h.trans k)
  | refilled id copy hid hhead hphase hroom h =>
    exact .refilled id copy hid hhead hphase hroom (h.trans k)

theorem discard (hhead : sw.todo.head? = some id) : Effect now sw s (s.discard id) := by
  unfold Store.discard
  split
  · rename_i hid
    exact .removed id (Store.isMapped_iff.mp hid) hhead (.refl _)
  · exact .nothing (.refl s)

theorem forget (hhead : sw.todo.head? = some id) (hphase : sw.phase = .forgetting) :
    Effect now sw s (s.forget id) := by
  unfold Store.forget
  split
  · rename_i hid
    refine .forgotten id (Store.isMapped_iff.mp hid) hhead hphase ?_
    simp only []
    split
    · exact .refl _
    · exact Store.alike_count _ _
  · exact .nothing (.refl s)

theorem vacate {t : Store} (hhead : sw.todo.head? = some id) (hphase : sw.phase = .vacating)
    (h : s.vacate? id = some t) : Effect now sw s t := by
  unfold Store.vacate? at h
  split at h
  · rename_i hid
    cases h
    exact .vacated id (Store.isMapped_iff.mp hid) hhead hphase (.refl _)
  · cases h

theorem exchange {copy : Copy} (hhead : sw.todo.head? = some id)
    (hphase : sw.phase = .exchanging copy) : Effect now sw s (s.exchange now id copy).1 := by
  unfold Store.exchange
  split
  · rename_i hid
    have hid := Store.isMapped_iff.mp hid
    simp only []
    split
    · rename_i hroom
      exact .exchanged id copy hid hhead hphase hroom (Store.alike_count _ _)
    · exact .removed id hid hhead (.refl _)
  · exact .nothing (.refl s)

theorem refill {copy : Copy} (hhead : sw.todo.head? = some id)
    (hphase : sw.phase = .refilling copy) : Effect now sw s (s.refill now id copy).1 := by
  unfold Store.refill
  split
  · rename_i hid
    have hid := Store.isMapped_iff.mp hid
    split
    · rename_i hroom
      exact .refilled id copy hid hhead hphase hroom (Store.alike_count _ _)
    · exact .removed id hid hhead (.refl _)
  · exact .nothing (.refl s)

/-- Counters left aside, a turn does nothing, or takes an entry out of the map, or revises
one. -/
theorem kinds {t : Store} (h : Effect now sw s t) :
    Alike s t ∨ (∃ id ∈ s.mapped, Alike (s.unmap id) t) ∨
      ∃ id ∈ s.mapped, ∃ change used, Alike (s.revise id change used) t := by
  cases h with
  | nothing h => exact .inl h
  | removed id hid _ h => exact .inr (.inl ⟨id, hid, h⟩)
  | forgotten id hid _ _ h => exact .inr (.inr ⟨id, hid, _, _, h⟩)
  | vacated id hid _ _ h => exact .inr (.inr ⟨id, hid, _, _, h⟩)
  | exchanged id _ hid _ _ _ h => exact .inr (.inr ⟨id, hid, _, _, h⟩)
  | refilled id _ hid _ _ _ h => exact .inr (.inr ⟨id, hid, _, _, h⟩)

end Effect

theorem Course.effect {phase : Phase} {t : Store} (hhead : sw.todo.head? = some id)
    (h : Course now disk s id e sw.phase phase t) : Effect now sw s t := by
  generalize hphase : sw.phase = before at h
  cases h with
  | vacate h => exact .vacate hhead hphase h
  | _ => exact .nothing (.refl s)

theorem Ending.effect {verdict : Verdict} {t : Store} (hhead : sw.todo.head? = some id)
    (h : Ending now disk s id e sw.phase verdict t) : Effect now sw s t := by
  generalize hphase : sw.phase = before at h
  cases h with
  | discard => exact .discard hhead
  | exchange => exact .exchange hhead hphase
  | refill => exact .refill hhead hphase
  | forget => exact .forget hhead hphase
  | _ => exact .nothing (.refl s)

theorem alike_proceed (sw : Sweep) (todo : List EntryId) (s : Store) (notices : List Notice) :
    Alike s (sw.proceed todo s notices).store := by
  cases todo with
  | nil => exact Store.alike_count _ s
  | cons _ _ => exact .refl s

theorem report_proceed (sw : Sweep) (todo : List EntryId) (s : Store) (notices : List Notice) :
    (sw.proceed todo s notices).next.report = sw.report := by
  cases todo <;> rfl

theorem todo_proceed (sw : Sweep) (todo : List EntryId) (s : Store) (notices : List Notice) :
    (sw.proceed todo s notices).next.todo = todo := by
  cases todo <;> rfl

theorem notices_proceed (sw : Sweep) (todo : List EntryId) (s : Store) (notices : List Notice) :
    (sw.proceed todo s notices).notices = notices := by
  cases todo <;> rfl

theorem alike_conclude (sw : Sweep) (path : Path) (rest : List EntryId) (verdict : Verdict)
    (s : Store) (notices : List Notice) :
    Alike s (sw.conclude path rest verdict s notices).store := alike_proceed _ _ _ _

theorem step_effect {st : Step Sweep} (hstep : sw.step now disk s = some st) :
    Effect now sw s st.store := by
  rcases step_cases hstep with ⟨-, rfl⟩ | ⟨id, rest, e, htodo, -, hvisit⟩
  · exact .nothing (alike_proceed _ _ _ _)
  · have hhead : sw.todo.head? = some id := by rw [htodo, List.head?_cons]
    rcases hvisit with ⟨hcourse⟩ | ⟨hending⟩
    · exact hcourse.effect hhead
    · exact (hending.effect hhead).trans_alike (alike_conclude _ _ _ _ _ _)

end Sweep
end FileCache
