import FileCache.Proofs.Switch.Move
import FileCache.Proofs.World.History
import FileCache.Settings

/-!
A store that is off takes nothing in, and gives nothing up but to be cleared.

A store that is on has a scanner of its own at work.  It is told to stop in the step in
which the store is turned off, and clears the store before it ends, if the clock has time for its
deadline; from then on the store stays empty.  Lookups that were let in before find the store off
when they have a copy to put into it, and those that come after never ask for an entry.
-/

namespace FileCache

open Store (Alike)

namespace Store

/-- Nothing is in the map, and nothing is counted. -/
structure Bare (s : Store) : Prop where
  mapped : s.mapped = []
  used : s.used = 0

theorem Alike.bare {s t : Store} (h : Alike s t) (hs : s.Bare) : t.Bare :=
  ⟨h.mapped.trans hs.mapped, h.used.trans hs.used⟩

theorem enabled_of_accepts {s : Store} {path : Path} {copy : Copy}
    (h : s.accepts path copy = true) : s.enabled = true := by
  simp only [accepts, decide_eq_true_eq] at h
  exact h.1

end Store

namespace World

variable {w w' : World} {event : Event}

/-! ## What comes into the map -/

/-- Only a lookup puts an entry into the map, a new one, while the store is on. -/
theorem Move.mapped_new (h : Move w event w') {id : EntryId} (hid : id ∈ w'.store.mapped) :
    id ∈ w.store.mapped ∨ (id = w.store.entries.length ∧ w.store.enabled = true) := by
  cases h with
  | idle hstore _ _ _ => exact .inl (hstore ▸ hid)
  | lookup _ _ _ _ _ _ hstep hstore _ _ _ =>
    rw [hstore] at hid
    cases (Lookup.step_course hstep).effect with
    | nothing h => exact .inl (h.mapped ▸ hid)
    | used _ _ h => exact .inl (h.mapped ▸ hid)
    | inserted gate copy _ haccepts h =>
      rw [h.mapped, Store.insert, List.mem_append, List.mem_singleton] at hid
      exact hid.imp_right fun hnew => ⟨hnew, Store.enabled_of_accepts haccepts⟩
  | sweep _ _ _ _ _ hturn =>
    rw [hturn.store] at hid
    rcases (Sweep.step_effect hturn.step).kinds with h | ⟨_, -, h⟩ | ⟨_, -, _, _, h⟩
    · exact .inl (h.mapped ▸ hid)
    · rw [h.mapped] at hid
      exact .inl (List.mem_of_mem_erase hid)
    · exact .inl (h.mapped ▸ hid)
  | clear hstore _ =>
    rw [hstore] at hid
    cases hid
  | switch _ hstore _ =>
    rw [hstore] at hid
    exact .inl hid
  | shuffle order hperm hstore _ =>
    rw [hstore] at hid
    exact .inl (hperm.mem_iff.mp hid)

/-- An entry is made while the store is on. -/
theorem Move.entries_off (h : Move w event w') (hoff : w.store.enabled = false) :
    w'.store.entries.length = w.store.entries.length := by
  cases h with
  | idle hstore _ _ _ => rw [hstore]
  | lookup _ _ _ _ _ _ hstep hstore _ _ _ =>
    rw [hstore]
    cases (Lookup.step_course hstep).effect with
    | nothing h => rw [h.entries]
    | used _ _ h => rw [h.entries, Store.markUsed, Store.modify, List.length_modify]
    | inserted _ _ _ haccepts _ =>
      rw [Store.enabled_of_accepts haccepts] at hoff
      cases hoff
  | sweep _ _ _ _ _ hturn =>
    rw [hturn.store]
    exact (Sweep.step_effect hturn.step).length_entries
  | clear hstore _ => rw [hstore]; rfl
  | switch _ hstore _ => rw [hstore]
  | shuffle _ _ hstore _ => rw [hstore]

/-- A store that is off stays empty once it is. -/
theorem Move.bare (h : Move w event w') (hoff : w.store.enabled = false)
    (hbare : w.store.Bare) : w'.store.Bare := by
  cases h with
  | idle hstore _ _ _ => exact hstore ▸ hbare
  | lookup _ _ _ _ _ _ hstep hstore _ _ _ =>
    rw [hstore]
    cases (Lookup.step_course hstep).effect with
    | nothing h => exact h.bare hbare
    | used _ _ h => exact h.bare ⟨hbare.mapped, hbare.used⟩
    | inserted _ _ _ haccepts _ =>
      rw [Store.enabled_of_accepts haccepts] at hoff
      cases hoff
  | sweep _ _ _ _ _ hturn =>
    rw [hturn.store]
    have hnone {id : EntryId} (hid : id ∈ w.store.mapped) : False := by
      rw [hbare.mapped] at hid
      cases hid
    rcases (Sweep.step_effect hturn.step).kinds with h | ⟨_, hid, _⟩ | ⟨_, hid, _⟩
    · exact h.bare hbare
    · exact (hnone hid).elim
    · exact (hnone hid).elim
  | clear hstore _ => exact hstore ▸ ⟨rfl, rfl⟩
  | switch _ hstore _ => exact hstore ▸ ⟨hbare.mapped, hbare.used⟩
  | shuffle order hperm hstore _ =>
    rw [hbare.mapped] at hperm
    rw [hstore]
    exact ⟨hperm.eq_nil, hbare.used⟩

/-! ## Who clears the store -/

/-- A store that is on has posted a scanner of its own.  One that is off is empty, or has a scanner
of its own that is still to end, as long as the clock has time for a deadline. -/
structure Guarded (w : World) : Prop where
  on : w.store.enabled = true → ∃ id, w.Posted id
  off : w.HasTime → w.store.enabled = false → w.store.Bare ∨ ∃ id, w.Unended id

namespace Guarded

theorem freshOn (disk : Disk) (limits : Limits) (wall : Time.Timestamp) :
    (freshOn disk limits wall).Guarded where
  on h := by cases h
  off _ _ := .inl ⟨rfl, rfl⟩

theorem of_same (hw : w.Guarded) (hstore : w'.store = w.store)
    (hscanners : w'.scanners = w.scanners) (hnow : w'.now = w.now) : w'.Guarded := by
  constructor
  · simp only [Posted, HasTime, hstore, hscanners, hnow]
    exact hw.on
  · simp only [Unended, HasTime, hstore, hscanners, hnow]
    exact hw.off

theorem turnOn (w : World) : w.turnOn.Guarded where
  on _ := ⟨w.scanners.length, (working_turnOn w).posted⟩
  off _ h := by cases h

/-- The scanner that is told to stop has not ended yet. -/
theorem turnOff (hw : w.Guarded) (hon : w.store.enabled = true) : w.turnOff.Guarded := by
  constructor
  · rw [turnOff_store]
    nofun
  · intro htime _
    obtain ⟨id, hid⟩ := hw.on hon
    have hworking := hid.working ((hasTime_turnOff w).mp htime)
    exact .inr ⟨id, (unended_turnOff w id).mpr hworking.unended⟩

theorem quiet (hw : w.Guarded) (hmove : Move w event w') (htime : w'.HasTime → w.HasTime)
    (h : Quiet w event w') : w'.Guarded := by
  constructor
  · intro hon
    rw [h.enabled] at hon
    exact (hw.on hon).imp fun _ => h.posted htime hon
  · intro hnow hoff
    rw [h.enabled] at hoff
    rcases hw.off (htime hnow) hoff with hbare | ⟨id, sc, hsc, hown, hphase⟩
    · exact .inl (hmove.bare hoff hbare)
    · obtain ⟨sc', hsc', honward⟩ := h.kept id sc hsc
      by_cases hended : sc'.phase = .ended
      · cases honward with
        | rests _ _ hphase' _ => exact absurd (hphase'.symm.trans hended) hphase
        | goes _ hturn hstore =>
          rw [hstore, (hturn.ended (htime hnow) hended).2]
          exact .inl ⟨rfl, rfl⟩
        | stops _ => exact absurd hended hphase
      · exact .inr ⟨id, sc', hsc', honward.own ▸ hown, hended⟩

theorem apply {notices : List Notice} (hw : w.Guarded)
    (h : w.apply event = some (w', notices)) : w'.Guarded := by
  cases apply_switchMove h with
  | quiet hquiet => exact hw.quiet (apply_move h) (fun htime => htime.before h) hquiet
  | toggle id on phase next v notices _ _ hturn h =>
    rw [h]
    cases hturn with
    | same => exact hw.of_same rfl rfl rfl
    | joins => exact hw.of_same rfl rfl rfl
    | on => exact (turnOn w).of_same rfl rfl rfl
    | off _ hon => exact (hw.turnOff hon).of_same rfl rfl rfl
    | joined => exact (turnOn w).of_same rfl rfl rfl
  | shutdown id phase next v notices _ _ hturn h =>
    rw [h]
    cases hturn with
    | off _ hon => exact (hw.turnOff hon).of_same rfl rfl rfl
    | _ => exact hw.of_same rfl rfl rfl

theorem passed {disk : Disk} {limits : Limits} {wall : Time.Timestamp} {events : List Event} :
    ∀ v ∈ (World.freshOn disk limits wall).passed events, v.Guarded :=
  passed_induction (fun _ _ _ _ hw happly => hw.apply happly) (.freshOn disk limits wall)

/-- When all its scanners have ended, a store that is off is empty. -/
theorem bare (hw : w.Guarded) (htime : w.HasTime) (hoff : w.store.enabled = false)
    (hended : ∀ id, ¬ w.Unended id) : w.store.Bare := by
  rcases hw.off htime hoff with hbare | ⟨id, hid⟩
  · exact hbare
  · exact absurd hid (hended id)

end Guarded

end World

/-! ## Lookups that pass the store by -/

namespace Lookup

/-- Where a lookup stands that reads a file past the store, from where the reading stands. -/
def aside : Reading → Lookup
  | .finished result => .done result.answer
  | r => .bypassing none r

variable {now : Nat} {disk : Disk} {path : Path} {s t : Store} {next : Lookup}

/-- The reading goes on by itself, and leaves the store as it is. -/
theorem Course.aside {r : Reading} (h : Course now disk path s (Lookup.aside r) next t) :
    next = Lookup.aside (r.advance disk path) ∧ Alike s t := by
  generalize hphase : Lookup.aside r = phase at h
  cases h with
  | readAside hread hgo =>
    cases r with
    | finished result => cases hphase
    | _ =>
      cases hphase
      rw [hread]
      refine ⟨?_, .refl s⟩
      unfold Lookup.aside
      split
      · rename_i result
        exact absurd rfl (hgo result)
      · rfl
  | answer hread =>
    cases r with
    | finished result => cases hphase
    | _ =>
      cases hphase
      rw [hread]
      exact ⟨rfl, .refl s⟩
  | _ => cases r <;> cases hphase

theorem Course.passed_by (h : Course now disk path s .starting next t)
    (hoff : s.enabled = false) : next = Lookup.aside .opening ∧ Alike s t := by
  cases h with
  | enter hon =>
    rw [hoff] at hon
    cases hon
  | passBy => exact ⟨rfl, Store.alike_count _ s⟩

end Lookup

namespace World

variable {w w' v x : World} {event : Event} {events : List Event} {id : CallId} {path : Path}
  {notices more : List Notice}

/-- What a lookup that passes the store by has come to: its reading, as far as its turns
have brought it on the disks that they found. -/
def readAside (w : World) (id : CallId) (path : Path) (events : List Event) : Reading :=
  (w.turnsOf (.call id) events).foldl (fun r u => r.advance u.disk path) .opening

theorem readAside_turn {u u' : World} {before : List Event} {first : List Notice}
    (hbefore : w.run before = some (u, first))
    (happly : u.apply (.turn (.call id)) = some (u', more)) :
    w.readAside id path (before ++ [.turn (.call id)]) =
      (w.readAside id path before).advance u.disk path := by
  rw [readAside, turnsOf_turn hbefore happly, List.foldl_append]
  rfl

theorem lookup_aside (hat : w.lookup? id = some (path, .aside .opening))
    (hrun : w.run events = some (v, notices)) :
    v.lookup? id = some (path, .aside (w.readAside id path events)) := by
  refine run_induction (P := fun events v =>
    v.lookup? id = some (path, .aside (w.readAside id path events))) hat ?_ hrun
  intro before u event u' first more hbefore happly hu
  by_cases hevent : event = .turn (.call id)
  · subst hevent
    obtain ⟨st, hturn⟩ := step_lookup hu happly
    rw [hturn.next, (Lookup.step_course hturn.step).aside.1, readAside_turn hbefore happly]
  · rw [readAside, turnsOf_other hevent hbefore happly]
    exact (apply_move happly).lookup_kept hevent hu

theorem turn_aside {r : Reading} (hat : v.lookup? id = some (path, .aside r))
    (happly : v.apply (.turn (.call id)) = some (v', more)) : Alike v.store v'.store := by
  obtain ⟨st, hturn⟩ := step_lookup hat happly
  rw [hturn.store]
  exact (Lookup.step_course hturn.step).aside.2

/-- While the store is off no entry comes into the map; when its scanners have ended, it is
empty, if the clock could hold the next deadline of each; and a lookup that takes its first turn
then reads the file for itself, whatever becomes of the store, and leaves the entries, the map and
the count as they are. -/
theorem off_is_final (disk : Disk) (limits : Limits) (wall : Time.Timestamp)
    (events : List Event) (v : World) (hv : v ∈ (freshOn disk limits wall).passed events)
    (hoff : v.store.enabled = false) :
    (∀ event v' notices, v.apply event = some (v', notices) →
      v'.store.entries.length = v.store.entries.length ∧
        ∀ id ∈ v'.store.mapped, id ∈ v.store.mapped) ∧
    (v.now + Scanner.period limits ≤ Scanner.lastMoment →
      (∀ sc ∈ v.scanners, sc.own = true → sc.phase = .ended) →
      v.store.mapped = [] ∧ v.store.used = 0) ∧
    ∀ id path v' notices, v.lookup? id = some (path, .starting) →
      v.apply (.turn (.call id)) = some (v', notices) →
      Alike v.store v'.store ∧
      ∀ later x more, v'.run later = some (x, more) →
        x.lookup? id = some (path, .aside (v'.readAside id path later)) ∧
        ∀ u u' notices, (u, .turn (.call id)) ∈ v'.happenings later →
          u.apply (.turn (.call id)) = some (u', notices) → Alike u.store u'.store := by
  refine ⟨fun event v' notices happly => ⟨?_, fun id hid => ?_⟩, fun htime hended => ?_, ?_⟩
  · exact (apply_move happly).entries_off hoff
  · rcases (apply_move happly).mapped_new hid with hold | ⟨-, hon⟩
    · exact hold
    · rw [hoff] at hon
      cases hon
  · have hnone (id : ScannerId) : ¬ v.Unended id := by
      rintro ⟨sc, hsc, hown, hphase⟩
      exact hphase (hended sc (List.mem_of_getElem? hsc) hown)
    have hbare := (Guarded.passed v hv).bare ((hasTime_iff (limits_passed v hv)).mpr htime) hoff
      hnone
    exact ⟨hbare.mapped, hbare.used⟩
  · intro id path v' notices hat happly
    obtain ⟨st, hturn⟩ := step_lookup hat happly
    obtain ⟨hnext, halike⟩ := (Lookup.step_course hturn.step).passed_by hoff
    have hat' := hturn.next
    rw [hnext] at hat'
    refine ⟨hturn.store ▸ halike, fun later x more hrun => ⟨lookup_aside hat' hrun, ?_⟩⟩
    intro u u' notices hmem happly'
    obtain ⟨k, first, hbefore⟩ := mem_passed_iff.mp (passed_of_mem_happenings hmem).1
    exact turn_aside (lookup_aside hat' hbefore) happly'

/-- A file is cached, the store is turned off and its scanner comes to its end; then another
lookup begins. -/
def closed : List Event :=
  [Event.edit (.write "a" [1] ⟨1, 0⟩), .call (.toggle true), .turn (.call 0),
    .call (.lookup ⟨"a"⟩)] ++
  List.replicate 10 (Event.turn (.call 1)) ++ [Event.call (.toggle false), .turn (.call 2)] ++
  List.replicate 3 (Event.turn (.scanner 0)) ++ [Event.call (.lookup ⟨"a"⟩)]

/-- The store is turned on again, the file cached anew, and written once more before the
lookup reads it. -/
def reopened : List Event :=
  [Event.edit (.write "a" [2] ⟨2, 0⟩), .call (.toggle true)] ++
  List.replicate 2 (Event.turn (.call 4)) ++
  [Event.call (.lookup ⟨"a"⟩)] ++ List.replicate 10 (Event.turn (.call 5)) ++
  [Event.edit (.write "a" [3] ⟨3, 0⟩)] ++ List.replicate 3 (Event.turn (.call 3))

theorem off_is_final_reopened :
    ∃ v v' x notices more,
      v ∈ (freshOn Disk.empty ⟨7, 10, 1000⟩ ⟨0, 0⟩).passed closed ∧
      v.store.enabled = false ∧ v.now + Scanner.period ⟨7, 10, 1000⟩ ≤ Scanner.lastMoment ∧
      v.lookup? 3 = some (⟨"a"⟩, .starting) ∧
      v.apply (.turn (.call 3)) = some (v', notices) ∧ v'.run reopened = some (x, more) ∧
      x.store.enabled = true ∧ x.store.mapped = [1] ∧
      (v.store.mapped = [] ∧ v.store.used = 0) ∧ Alike v.store v'.store ∧
      x.lookup? 3 = some (⟨"a"⟩, .done (some ⟨[3], ⟨⟨3, 0⟩, 1⟩⟩)) := by
  have hrun : (((freshOn Disk.empty ⟨7, 10, 1000⟩ ⟨0, 0⟩).run closed).bind fun v =>
      (v.1.apply (.turn (.call 3))).bind fun v' => (v'.1.run reopened).map fun x => decide
        (v.1.store.enabled = false ∧
          v.1.now + Scanner.period ⟨7, 10, 1000⟩ ≤ Scanner.lastMoment ∧
          (∀ sc ∈ v.1.scanners, sc.own = true → sc.phase = .ended) ∧
          v.1.lookup? 3 = some (⟨"a"⟩, .starting) ∧
          x.1.store.enabled = true ∧ x.1.store.mapped = [1] ∧
          v'.1.readAside 3 ⟨"a"⟩ reopened = .finished (.copy ⟨[3], ⟨⟨3, 0⟩, 1⟩⟩))) =
      some true := by decide +kernel
  obtain ⟨⟨v, first⟩, hclosed, hrun⟩ := Option.bind_eq_some_iff.mp hrun
  obtain ⟨⟨v', notices⟩, happly, hrun⟩ := Option.bind_eq_some_iff.mp hrun
  obtain ⟨⟨x, more⟩, hreopened, hend⟩ := Option.map_eq_some_iff.mp hrun
  obtain ⟨hoff, htime, hended, hstarts, hon, hmapped, hread⟩ := of_decide_eq_true hend
  have hv := mem_passed_of_run hclosed
  obtain ⟨-, hempty, hlookups⟩ :=
    off_is_final Disk.empty ⟨7, 10, 1000⟩ ⟨0, 0⟩ closed v hv hoff
  obtain ⟨halike, hlater⟩ := hlookups 3 ⟨"a"⟩ v' notices hstarts happly
  have hdone := (hlater reopened x more hreopened).1
  rw [hread] at hdone
  exact ⟨v, v', x, notices, more, hv, hoff, htime, hstarts, happly, hreopened, hon, hmapped,
    hempty htime hended, halike, hdone⟩

/-! ### A scanner that breaks off -/

/-- The longest interval that a server can be given: so many seconds as a word of 64 bits holds.
No clock can hold a moment so far ahead. -/
def endless : Limits := { maxFile := 7, capacity := 10, interval := Settings.maxWord * 1000 }

/-- An environment that says nothing but how often to scan. -/
def scanEvery (seconds : String) : Settings.Environment := fun name =>
  if name = "SCAN_INTERVAL" then some (Bytes.ofString seconds) else none

theorem endless_interval :
    (Settings.ofEnvironment (scanEvery "18446744073709551615")).limits.interval =
      endless.interval := by decide +kernel

/-- A file is cached after the scanner has broken off, and the store is turned off. -/
def abandoned : List Event :=
  [Event.edit (.write "a" [1] ⟨1, 0⟩), .call (.toggle true), .turn (.call 0),
    .turn (.scanner 0), .call (.lookup ⟨"a"⟩)] ++
  List.replicate 10 (Event.turn (.call 1)) ++ [Event.call (.toggle false), .turn (.call 2)]

/-- The store is off and its scanner has ended, but the file is still there. -/
theorem kept_while_off : ∃ v ∈ (freshOn Disk.empty endless ⟨0, 0⟩).passed abandoned,
    v.store.enabled = false ∧ (∀ sc ∈ v.scanners, sc.own = true → sc.phase = .ended) ∧
      v.store.mapped = [0] ∧ v.store.used = 1 := by
  have hends : ((freshOn Disk.empty endless ⟨0, 0⟩).run abandoned).map (fun r => decide
      (r.1.store.enabled = false ∧ (∀ sc ∈ r.1.scanners, sc.own = true → sc.phase = .ended) ∧
        r.1.store.mapped = [0] ∧ r.1.store.used = 1)) = some true := by decide +kernel
  obtain ⟨⟨v, notices⟩, hrun, hend⟩ := Option.map_eq_some_iff.mp hends
  exact ⟨v, mem_passed_of_run hrun, of_decide_eq_true hend⟩

end World
end FileCache
