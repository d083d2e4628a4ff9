import FileCache.Proofs.Accounting.Journal
import FileCache.Proofs.Lookup.Vain
import FileCache.Proofs.Sweep.Itinerary
import FileCache.Proofs.Sweep.Swap

/-!
Errors of the disk leave the store intact.

A visit that does not see its file, or cannot read it beside the old content, ends before it has
changed anything.  One that cannot read it after it has given up the old content has an entry on
its hands that holds nothing, and takes it out of the map.  A lookup that cannot read has only
touched entries, if any.
-/

namespace FileCache

namespace Store

variable {s : Store} {id : EntryId} {e : Entry}

/-- Taking out an entry that holds nothing gives no bytes back. -/
theorem discard_of_reloading (hid : id ∈ s.mapped) (he : s.entry? id = some e)
    (hcontent : e.content = .reloading) :
    s.discard id =
      { s with mapped := s.mapped.erase id, tally := s.tally.add .eviction } := by
  have hsize : s.sizeOf id = 0 := by rw [sizeOf_eq he, Entry.size, hcontent, Content.size]
  rw [discard, if_pos (isMapped_iff.mpr hid), unmap, hsize, Nat.sub_zero]
  rfl

theorem mapped_signOff (s : Store) (rest : List EntryId) : (s.signOff rest).mapped = s.mapped := by
  cases rest <;> rfl

end Store

namespace Sweep

/-- The phases of a visit that has not given up the content of the entry. -/
def Phase.precedesRelease : Phase → Bool
  | .listing => false
  | .reloading _ => false
  | .refilling _ => false
  | .finished => false
  | .discarding verdict => verdict = .stale ∨ verdict = .failed
  | _ => true

variable {now : Nat} {disk : Disk} {s t : Store} {id : EntryId} {e : Entry} {phase next : Phase}
  {r : Reading} {error : Errno} {verdict : Verdict}

/-- Up to the release a visit changes nothing. -/
theorem Course.precedes (h : Course now disk s id e phase next t)
    (hphase : phase.precedesRelease = true) :
    (t = s ∧ next.precedesRelease = true) ∨
      (phase = .vacating ∧ next.followsRelease = true ∧ s.vacate? id = some t) := by
  cases h with
  | vacate hvacate => exact .inr ⟨rfl, rfl, hvacate⟩
  | reread => cases hphase
  | reloaded => cases hphase
  | vanishLate => cases hphase
  | failLate => cases hphase
  | _ => exact .inl ⟨rfl, rfl⟩

/-- Reading the new content changes nothing either. -/
theorem Course.rereads (h : Course now disk s id e (.reloading r) next t) : t = s := by
  cases h <;> rfl

theorem Course.next_of_failed (h : Course now disk s id e (.reloading r) next t)
    (hfails : r.advance disk e.path = .finished (.failed error)) :
    next = .discarding .failed := by
  cases h with
  | reread hread hgoes => exact absurd (hread.symm.trans hfails) (hgoes _)
  | reloaded hread => cases hread.symm.trans hfails
  | vanishLate hread => cases hread.symm.trans hfails
  | failLate => rfl

theorem exchange_ne_unknown (now : Nat) (id : EntryId) (copy : Copy) (s : Store) :
    (s.exchange now id copy).2 ≠ .unknown := by
  unfold Store.exchange
  split
  · simp only []
    split <;> exact nofun
  · exact nofun

theorem refill_ne_unknown (now : Nat) (id : EntryId) (copy : Copy) (s : Store) :
    (s.refill now id copy).2 ≠ .unknown := by
  unfold Store.refill
  split
  · split <;> exact nofun
  · exact nofun

/-- A visit that could not make out anything ends before the release, and without a change. -/
theorem Ending.of_unknown (h : Ending now disk s id e phase verdict t)
    (hverdict : verdict = .unknown) (hphase : phase ≠ .discarding verdict) :
    t = s ∧ phase.followsRelease = false := by
  cases h with
  | discard => exact absurd rfl hphase
  | unseen => exact ⟨rfl, rfl⟩
  | unread => exact ⟨rfl, rfl⟩
  | exchange => exact absurd hverdict (exchange_ne_unknown _ _ _ _)
  | refill => exact absurd hverdict (refill_ne_unknown _ _ _ _)
  | same => cases hverdict
  | lost => cases hverdict
  | forget => cases hverdict

end Sweep

namespace World

/-- The next turn of an agent leaves the store as it is. -/
def Spares (w : World) (agent : Agent) : Prop :=
  ∃ w' notices, w.step agent = some (w', notices) ∧ w'.store = w.store

/-- The next turn of an agent gives up the content of an entry, whose bytes are counted, and
does nothing else. -/
def Frees (w : World) (agent : Agent) (id : EntryId) : Prop :=
  w.store.sizeOf id ≤ w.store.used ∧ ∃ w' notices, w.step agent = some (w', notices) ∧
    w'.store = { w.store with used := w.store.used - w.store.sizeOf id }.modify id Entry.vacate

/-- Whether in the next turn of an agent, which has given up the content of an entry, the reading
of the new content fails. -/
def rereadFails (w : World) (agent : Agent) : Bool :=
  (w.sweep? agent).any fun sw =>
    match sw.phase with
    | .reloading r => (sw.todo.head?.bind w.store.entry?).any fun e =>
        (r.advance w.disk e.path).hasFailed
    | _ => false

/-- Whether the event is a turn of a sweep other than that of the agent, or clears the store. -/
def interferes (w : World) (agent : Agent) (event : Event) : Bool :=
  w.clears event || match event with
    | .turn other => other ≠ agent ∧ (w.sweep? other).isSome
    | _ => false

/-- Whether an agent visits the entry, with the others still ahead. -/
def isVisiting (w : World) (agent : Agent) (id : EntryId) (rest : List EntryId) : Bool :=
  (w.sweep? agent).any fun sw => sw.isUnderway ∧ sw.todo = id :: rest

/-- A visit to an entry that begins in `u`, and of which the turn in `v` is the last. -/
structure Visit (u : World) (agent : Agent) (id : EntryId) (rest : List EntryId)
    (events : List Event) (v : World) (verdict : Verdict) : Prop where
  begins : ∃ sw, u.sweep? agent = some sw ∧ sw.phase = .visiting
  run : ∃ notices, u.run events = some (v, notices)
  stays : ∀ x ∈ u.passed events, x.isVisiting agent id rest = true
  ends : v.verdict? agent = some verdict

variable {u v v' w : World} {event : Event} {events : List Event} {notices more : List Notice}
  {agent : Agent} {id : EntryId} {rest : List EntryId} {e : Entry} {sw : Sweep}
  {phase next : Sweep.Phase}

theorem isVisiting_iff : w.isVisiting agent id rest = true ↔
    ∃ sw, w.sweep? agent = some sw ∧ sw.isUnderway = true ∧ sw.todo = id :: rest := by
  rw [isVisiting, Option.any_eq_true]
  simp only [decide_eq_true_eq]

theorem of_interferes (h : w.interferes agent event = false) :
    w.clears event = false ∧
      ∀ other, event = .turn other → other ≠ agent → w.sweep? other = none := by
  obtain ⟨hclears, hidle⟩ := Bool.or_eq_false_iff.mp h
  refine ⟨hclears, ?_⟩
  rintro other rfl hother
  exact Option.not_isSome_iff_eq_none.mp fun hsweep => of_decide_eq_false hidle ⟨hother, hsweep⟩

/-! ## The errand of a visit -/

/-- The agent has released the entry since `u` and done nothing else to the store.  Nobody but
another sweep or a clear gives the entry a content or takes it out of the map. -/
structure Released (u : World) (agent : Agent) (id : EntryId) (events : List Event) (v : World) :
    Prop where
  turns : ∃ first x last, u.turnsOf agent events = first ++ x :: last ∧
    (∀ y ∈ first ++ last, y.Spares agent) ∧ x.Frees agent id
  held : (∀ h ∈ u.happenings events, h.1.interferes agent h.2 = false) →
    id ∈ v.store.mapped ∧ ∃ e, v.store.entry? id = some e ∧ e.content = .reloading

/-- What a visit has done to the store since it began in `u`. -/
inductive Errand (u : World) (agent : Agent) (id : EntryId) (events : List Event) (v : World)
    (phase : Sweep.Phase) : Prop
  | kept (hphase : phase.precedesRelease = true)
      (hspares : ∀ x ∈ u.turnsOf agent events, x.Spares agent ∧ x.rereadFails agent = false)
  | released (hphase : phase.followsRelease = true) (h : Released u agent id events v)
      (hfails : (∃ x ∈ u.turnsOf agent events, x.rereadFails agent = true) →
        phase = .discarding .failed)

theorem reading_of_rereadFails (h : w.rereadFails agent = true) (hat : w.sweep? agent = some sw)
    (htodo : sw.todo = id :: rest) (he : w.store.entry? id = some e) :
    ∃ r error, sw.phase = .reloading r ∧ r.advance w.disk e.path = .finished (.failed error) := by
  rw [rereadFails, hat, Option.any_some] at h
  split at h
  · rename_i r hphase
    rw [htodo, List.head?_cons, Option.bind_some, he, Option.any_some] at h
    obtain ⟨error, hfails⟩ := Reading.hasFailed_iff.mp h
    exact ⟨r, error, hphase, hfails⟩
  · cases h

theorem Released.other (h : Released u agent id events v) (hother : event ≠ .turn agent)
    (hrun : u.run events = some (v, notices)) (happly : v.apply event = some (v', more)) :
    Released u agent id (events ++ [event]) v' := by
  refine ⟨by rw [turnsOf_other hother hrun happly]; exact h.turns, fun hcalm => ?_⟩
  rw [happenings_snoc hrun happly] at hcalm
  obtain ⟨hid, e, he, hcontent⟩ := h.held fun h hh => hcalm h (List.mem_append_left _ hh)
  have hevent : v.interferes agent event = false :=
    hcalm (v, event) List.mem_concat_self
  obtain ⟨hkeeps, hidle⟩ := of_interferes hevent
  rcases apply_calm happly fun busy hturn => hidle busy hturn fun hsame =>
    hother (hsame ▸ hturn) with ⟨hclears, -⟩ | hcalm
  · cases hclears.symm.trans hkeeps
  · obtain ⟨e', he', hsame⟩ := hcalm.content id e he
    exact ⟨hcalm.mapped id hid, e', he', hsame.trans hcontent⟩

theorem Errand.other (h : Errand u agent id events v phase) (hother : event ≠ .turn agent)
    (hrun : u.run events = some (v, notices)) (happly : v.apply event = some (v', more)) :
    Errand u agent id (events ++ [event]) v' phase := by
  have hturns := turnsOf_other hother hrun happly
  cases h with
  | kept hphase hspares => exact .kept hphase (hturns ▸ hspares)
  | released hphase h hfails =>
    exact .released hphase (h.other hother hrun happly) (hturns ▸ hfails)

/-- The turn that gives up the content. -/
theorem released_of_vacate (hspares : ∀ x ∈ u.turnsOf agent events, x.Spares agent)
    (hbounded : v.store.Bounded) (he : v.store.entry? id = some e)
    (hvacate : v.store.vacate? id = some v'.store) (hrun : u.run events = some (v, notices))
    (happly : v.apply (.turn agent) = some (v', more)) :
    Released u agent id (events ++ [.turn agent]) v' := by
  have hentry := Store.entry?_vacate he hvacate
  unfold Store.vacate? at hvacate
  split at hvacate
  · rename_i hid
    have hid := Store.isMapped_iff.mp hid
    rw [Option.some.injEq] at hvacate
    refine ⟨⟨u.turnsOf agent events, v, [], turnsOf_turn hrun happly, ?_, ?_⟩, fun _ => ?_⟩
    · rw [List.append_nil]
      exact hspares
    · exact ⟨hbounded.sizeOf_le_used hid, v', more, happly, hvacate.symm⟩
    · exact ⟨hvacate ▸ hid, e.vacate, hentry, rfl⟩
  · cases hvacate

theorem Errand.turn (h : Errand u agent id events v sw.phase) (hbounded : v.store.Bounded)
    (hat : v.sweep? agent = some sw) (htodo : sw.todo = id :: rest)
    (he : v.store.entry? id = some e)
    (hcourse : Sweep.Course v.now v.disk v.store id e sw.phase next v'.store)
    (hrun : u.run events = some (v, notices))
    (happly : v.apply (.turn agent) = some (v', more)) :
    Errand u agent id (events ++ [.turn agent]) v' next := by
  have hturns {x : World} : x ∈ u.turnsOf agent (events ++ [.turn agent]) ↔ _ :=
    mem_turnsOf_turn hrun happly
  cases h with
  | kept hphase hspares =>
    have hopen : v.rereadFails agent = false := by
      refine Bool.eq_false_iff.mpr fun hfails => ?_
      obtain ⟨r, error, hreloading, -⟩ := reading_of_rereadFails hfails hat htodo he
      rw [hreloading] at hphase
      cases hphase
    have hsound : ∀ x ∈ u.turnsOf agent (events ++ [.turn agent]),
        x.rereadFails agent = false := fun x hx =>
      (hturns.mp hx).elim (fun hold => (hspares x hold).2) fun hnew => hnew ▸ hopen
    rcases hcourse.precedes hphase with ⟨hsame, hnext⟩ | ⟨-, hnext, hvacate⟩
    · refine .kept hnext fun x hx => ⟨?_, hsound x hx⟩
      rcases hturns.mp hx with hold | rfl
      · exact (hspares x hold).1
      · exact ⟨v', more, happly, hsame⟩
    · exact .released hnext
        (released_of_vacate (fun x hx => (hspares x hx).1) hbounded he hvacate hrun happly)
        fun ⟨x, hx, hfails⟩ => absurd hfails (Bool.eq_false_iff.mp (hsound x hx))
  | released hphase h hfails =>
    obtain ⟨⟨r, hreloading⟩, hnext⟩ := hcourse.released hphase
    rw [hreloading] at hcourse
    have hsame := hcourse.rereads
    obtain ⟨first, x, last, hpast, hspares, hfrees⟩ := h.turns
    refine .released hnext ⟨⟨first, x, last ++ [v], ?_, ?_, hfrees⟩, fun hcalm => ?_⟩ ?_
    · rw [turnsOf_turn hrun happly, hpast, List.append_assoc, List.cons_append]
    · intro y hy
      rw [← List.append_assoc] at hy
      rcases List.mem_append.mp hy with hold | hnew
      · exact hspares y hold
      · exact List.mem_singleton.mp hnew ▸ ⟨v', more, happly, hsame⟩
    · rw [happenings_snoc hrun happly] at hcalm
      rw [hsame]
      exact h.held fun h hh => hcalm h (List.mem_append_left _ hh)
    · rintro ⟨y, hy, hyfails⟩
      rcases hturns.mp hy with hold | rfl
      · cases hreloading.symm.trans (hfails ⟨y, hold, hyfails⟩)
      · obtain ⟨r', error, hphase', hread⟩ := reading_of_rereadFails hyfails hat htodo he
        cases hreloading.symm.trans hphase'
        exact hcourse.next_of_failed hread

/-- A visit that is still underway has gone on with its errand. -/
theorem errand_of_run (hbegins : ∃ sw, u.sweep? agent = some sw ∧ sw.phase = .visiting)
    (hbounded : ∀ x ∈ u.passed events, x.Bounded) (hrun : u.run events = some (v, notices))
    (hstays : ∀ x ∈ u.passed events, x.isVisiting agent id rest = true) :
    ∃ sw, v.sweep? agent = some sw ∧ sw.isUnderway = true ∧ sw.todo = id :: rest ∧
      Errand u agent id events v sw.phase := by
  refine run_induction (P := fun events v => (∀ x ∈ u.passed events, x.Bounded) →
    (∀ x ∈ u.passed events, x.isVisiting agent id rest = true) →
    ∃ sw, v.sweep? agent = some sw ∧ sw.isUnderway = true ∧ sw.todo = id :: rest ∧
      Errand u agent id events v sw.phase) ?_ ?_ hrun hbounded hstays
  · intro _ hstays
    obtain ⟨sw, hat, hvisiting⟩ := hbegins
    obtain ⟨sw', hat', hunderway, htodo⟩ :=
      isVisiting_iff.mp (hstays u (List.mem_singleton.mpr rfl))
    cases hat.symm.trans hat'
    exact ⟨sw, hat, hunderway, htodo, .kept (by rw [hvisiting]; rfl) fun x hx => by cases hx⟩
  · intro events v event v' first later hrun happly ih hbounded hstays
    rw [passed_snoc hrun happly] at hbounded hstays
    obtain ⟨sw, hat, hunderway, htodo, herrand⟩ := ih
      (fun x hx => hbounded x (List.mem_append_left _ hx))
      (fun x hx => hstays x (List.mem_append_left _ hx))
    obtain ⟨sw', hat', hunderway', htodo'⟩ :=
      isVisiting_iff.mp (hstays v' List.mem_concat_self)
    refine ⟨sw', hat', hunderway', htodo', ?_⟩
    by_cases hevent : event = .turn agent
    · subst hevent
      obtain ⟨other, others, e, htodo'', he, hleg⟩ := step_leg hat hunderway happly
      obtain ⟨rfl, rfl⟩ := List.cons.inj (htodo.symm.trans htodo'')
      have hv := hbounded v (List.mem_append_left _ (mem_passed_of_run hrun))
      cases hleg with
      | on hcourse hnext =>
        cases hat'.symm.trans hnext
        exact herrand.turn hv.store hat htodo he hcourse hrun happly
      | ended _ _ hrest =>
        have hleft := (toVisit_of_sweep hat').symm.trans hrest
        exact absurd (htodo'.symm.trans hleft) (List.cons_ne_self id rest)
    · cases hat'.symm.trans (apply_sweep_kept happly hevent hat)
      exact herrand.other hevent hrun happly

variable {verdict : Verdict}

/-- The last turn of a visit. -/
theorem Visit.last (h : u.Visit agent id rest events v verdict)
    (hsound : ∀ x ∈ u.passed events, x.Sound) (hbounded : ∀ x ∈ u.passed events, x.Bounded) :
    ∃ phase e t w more, Errand u agent id events v phase ∧ v.store.entry? id = some e ∧
      Sweep.Ending v.now v.disk v.store id e phase verdict t ∧
      v.step agent = some (w, more) ∧ w.store = t.signOff rest := by
  obtain ⟨notices, hrun⟩ := h.run
  obtain ⟨sw, hat, hunderway, htodo, herrand⟩ := errand_of_run h.begins hbounded hrun h.stays
  have hgoes := (hsound v (mem_passed_of_run hrun)).goes_of_sweeping
    (isSweeping_iff.mpr ⟨sw, hat, hunderway⟩)
  obtain ⟨⟨w, more⟩, hstep⟩ := Option.isSome_iff_exists.mp hgoes
  obtain ⟨other, others, e, htodo', he, hleg⟩ := step_leg hat hunderway hstep
  obtain ⟨rfl, rfl⟩ := List.cons.inj (htodo.symm.trans htodo')
  cases hleg with
  | on _ _ hverdict => cases hverdict.symm.trans h.ends
  | ended hending hstore _ hverdict =>
    cases hverdict.symm.trans h.ends
    exact ⟨sw.phase, e, _, w, more, herrand, he, hending, hstep, hstore⟩

/-- A visit that could not make out anything has changed nothing. -/
theorem Visit.unknown (h : u.Visit agent id rest events v .unknown)
    (hsound : ∀ x ∈ u.passed events, x.Sound) (hbounded : ∀ x ∈ u.passed events, x.Bounded) :
    (∀ x ∈ u.turnsOf agent events, x.Spares agent) ∧
      ∃ w more, v.step agent = some (w, more) ∧ w.store = v.store.signOff rest := by
  obtain ⟨phase, e, t, w, more, herrand, -, hending, hstep, hstore⟩ := h.last hsound hbounded
  have hphase : phase ≠ .discarding .unknown := by
    rintro rfl
    cases herrand with
    | kept hphase => cases hphase
    | released hphase => cases hphase
  obtain ⟨rfl, hnot⟩ := hending.of_unknown rfl hphase
  cases herrand with
  | kept _ hspares => exact ⟨fun x hx => (hspares x hx).1, w, more, hstep, hstore⟩
  | released hphase => cases hnot.symm.trans hphase

/-- A visit that could not read the new content after the release takes out an entry that holds
nothing. -/
theorem Visit.failed (h : u.Visit agent id rest events v verdict)
    (hsound : ∀ x ∈ u.passed events, x.Sound) (hbounded : ∀ x ∈ u.passed events, x.Bounded)
    (hfails : ∃ x ∈ u.turnsOf agent events, x.rereadFails agent = true)
    (hcalm : ∀ h ∈ u.happenings events, h.1.interferes agent h.2 = false) :
    verdict = .failed ∧
      (∃ first x last, u.turnsOf agent events = first ++ x :: last ∧
        (∀ y ∈ first ++ last, y.Spares agent) ∧ x.Frees agent id) ∧
      ∃ w more, v.step agent = some (w, more) ∧ id ∉ w.store.mapped ∧
        w.store = Store.signOff rest { v.store with
          mapped := v.store.mapped.erase id
          tally := v.store.tally.add .eviction } := by
  obtain ⟨phase, e, t, w, more, herrand, he, hending, hstep, hstore⟩ := h.last hsound hbounded
  cases herrand with
  | kept _ hspares =>
    obtain ⟨x, hx, hxfails⟩ := hfails
    exact absurd hxfails (Bool.eq_false_iff.mp (hspares x hx).2)
  | released _ hreleased hends =>
    obtain ⟨hid, e', he', hcontent⟩ := hreleased.held hcalm
    rw [hends hfails] at hending
    obtain ⟨notices, hrun⟩ := h.run
    have horderly := (hsound v (mem_passed_of_run hrun)).orderly
    cases hending with
    | discard =>
      refine ⟨rfl, hreleased.turns, w, more, hstep, ?_, ?_⟩
      · rw [hstore, Store.mapped_signOff]
        exact horderly.not_mem_discard
      · rw [hstore, Store.discard_of_reloading hid he' hcontent]

/-- Whichever operations on the disk fail, and whenever they do.  A visit that could not make out
anything has changed nothing; the last visit of a sweep counts the sweep.  Unless another sweep or
a clear interferes, a visit that could not read the new content after the release has lowered the
bytes in use by the size of the old one, has evicted the entry, and has changed nothing else.  A
sweep goes through all of its list, whatever the verdicts.  A lookup that could not read puts
nothing into the map, changes no content and answers that there is no file. -/
theorem errors_spare_store (disk : Disk) (limits : Limits) (wall : Time.Timestamp)
    (before : List Event) (u : World) (early : List Notice)
    (hbefore : (freshOn disk limits wall).run before = some (u, early)) :
    (∀ agent id rest events v, u.Visit agent id rest events v .unknown →
      (∀ x ∈ u.turnsOf agent events, x.Spares agent) ∧
      ∃ w more, v.step agent = some (w, more) ∧ w.store = v.store.signOff rest) ∧
    (∀ agent id rest events v verdict, u.Visit agent id rest events v verdict →
      (∃ x ∈ u.turnsOf agent events, x.rereadFails agent = true) →
      (∀ h ∈ u.happenings events, h.1.interferes agent h.2 = false) →
      verdict = .failed ∧
      (∃ first x last, u.turnsOf agent events = first ++ x :: last ∧
        (∀ y ∈ first ++ last, y.Spares agent) ∧ x.Frees agent id) ∧
      ∃ w more, v.step agent = some (w, more) ∧ id ∉ w.store.mapped ∧
        w.store = Store.signOff rest { v.store with
          mapped := v.store.mapped.erase id
          tally := v.store.tally.add .eviction }) ∧
    (∀ agent later v notices, u.isSweeping agent = true → u.run later = some (v, notices) →
      (∀ x ∈ u.turnsOf agent later, x.isSweeping agent = true) →
      u.visited agent later ++ v.toVisit agent = u.toVisit agent ∧
      (u.turnsOf agent later).length ≤ 11 * (u.toVisit agent).length + 10 ∧
      (v.toVisit agent ≠ [] → v.step agent ≠ none)) ∧
    (∀ id path events v notices, u.lookup? id = some (path, .starting) →
      u.run events = some (v, notices) →
      (∃ x ∈ u.turnsOf (.call id) events, x.readFails id = true) →
      (∀ x ∈ u.turnsOf (.call id) events, x.SparesContents (.call id)) ∧
      ∃ phase, v.lookup? id = some (path, phase) ∧ phase.given? = some none) := by
  have hsound (events : List Event) : ∀ x ∈ u.passed events, x.Sound := fun x hx =>
    Sound.passed x (mem_passed_append hbefore hx)
  have hbounded (events : List Event) : ∀ x ∈ u.passed events, x.Bounded := fun x hx =>
    Bounded.passed x (mem_passed_append hbefore hx)
  refine ⟨?_, ?_, ?_, ?_⟩
  · intro agent id rest events v hvisit
    exact hvisit.unknown (hsound events) (hbounded events)
  · intro agent id rest events v verdict hvisit hfails hcalm
    exact hvisit.failed (hsound events) (hbounded events) hfails hcalm
  · intro agent later v notices hstart hrun hsweeping
    have hitinerary := itinerary_of_run hstart hrun hsweeping
    refine ⟨hitinerary.visited, ?_, fun hleft => Option.isSome_iff_ne_none.mp ?_⟩
    · exact Nat.le_trans (Nat.le_of_add_right_le hitinerary.few) (sweepLeft_le hstart)
    · exact (hsound later v (mem_passed_of_run hrun)).goes_of_sweeping (hitinerary.sweeping hleft)
  · intro id path events v notices hstart hrun hfails
    obtain ⟨phase, hat, hinquiry⟩ := inquiry_of_run hstart hrun
    have hgiven := hinquiry.fails hfails
    refine ⟨hinquiry.spares fun copy hcopy => ?_, phase, hat, hgiven⟩
    cases hgiven.symm.trans hcopy

/-- Of two files in the store one has grown since, and cannot be read any more; the other does not
show its status.  A sweep is about to visit them, and a lookup of the first begins. -/
def shelved : List Event := List.flatten
  [[.edit (.write "a" [1, 1, 1, 1] ⟨1, 0⟩), .edit (.write "b" [2, 2, 2, 2, 2] ⟨1, 0⟩),
      .call (.toggle true), .turn (.call 0), .call (.lookup ⟨"a"⟩), .call (.lookup ⟨"b"⟩)],
    List.replicate 10 (.turn (.call 1)), List.replicate 10 (.turn (.call 2)),
    [.edit (.write "a" [3, 3, 3, 3, 3] ⟨5, 0⟩),
      .edit (.setFault "a" .readHandle (some .inputOutput)),
      .edit (.setFault "b" .statPath (some .accessDenied)),
      .call .sweep, .turn (.call 3), .call (.lookup ⟨"a"⟩)]]

/-- The lookup comes upon the entry after the sweep has released it. -/
def unreadable : List Event := List.flatten
  [List.replicate 5 (.turn (.call 3)), List.replicate 6 (.turn (.call 4)),
    List.replicate 3 (.turn (.call 3))]

theorem errors_spare_store_unreadable :
    ∃ u v early notices, (freshOn Disk.empty ⟨7, 10, 1000⟩ ⟨0, 0⟩).run shelved = some (u, early) ∧
      u.run unreadable = some (v, notices) ∧
      (∃ first x last, u.turnsOf (.call 3) unreadable = first ++ x :: last ∧
        (∀ y ∈ first ++ last, y.Spares (.call 3)) ∧ x.Frees (.call 3) 0) ∧
      (∃ w more, v.step (.call 3) = some (w, more) ∧ 0 ∉ w.store.mapped) ∧
      (∀ x ∈ u.turnsOf (.call 4) unreadable, x.SparesContents (.call 4)) ∧
      u.visited (.call 3) (unreadable ++ List.replicate 3 (.turn (.call 3))) = [0, 1] := by
  have hshelved : ((freshOn Disk.empty ⟨7, 10, 1000⟩ ⟨0, 0⟩).run shelved).map (fun r =>
      decide ((r.1.sweep? (.call 3)).map (·.phase) = some .visiting ∧
        r.1.toVisit (.call 3) = [0, 1] ∧ r.1.lookup? 4 = some (⟨"a"⟩, .starting))) =
      some true := by decide +kernel
  have hunreadable : ((freshOn Disk.empty ⟨7, 10, 1000⟩ ⟨0, 0⟩).run shelved).map (fun r =>
      (r.1.run unreadable).map fun r' => decide (r'.1.verdict? (.call 3) = some .failed ∧
        (∀ x ∈ r.1.passed unreadable, x.isVisiting (.call 3) 0 [1] = true) ∧
        (∀ h ∈ r.1.happenings unreadable, h.1.interferes (.call 3) h.2 = false) ∧
        (∃ x ∈ r.1.turnsOf (.call 3) unreadable, x.rereadFails (.call 3) = true) ∧
        ∃ x ∈ r.1.turnsOf (.call 4) unreadable, x.readFails 4 = true)) =
      some (some true) := by decide +kernel
  have hwhole : ((freshOn Disk.empty ⟨7, 10, 1000⟩ ⟨0, 0⟩).run shelved).map (fun r =>
      (decide (∀ x ∈ r.1.turnsOf (.call 3) (unreadable ++ List.replicate 3 (.turn (.call 3))),
        x.isSweeping (.call 3) = true), (r.1.run (unreadable ++
          List.replicate 3 (.turn (.call 3)))).map fun r' => r'.1.toVisit (.call 3))) =
      some (true, some []) := by decide +kernel
  obtain ⟨⟨u, early⟩, hbefore, hstart⟩ := Option.map_eq_some_iff.mp hshelved
  rw [hbefore, Option.map_some, Option.some.injEq] at hunreadable hwhole
  obtain ⟨⟨v, notices⟩, hrun, hvisit⟩ := Option.map_eq_some_iff.mp hunreadable
  obtain ⟨hsweeping, hend⟩ := Prod.mk.inj hwhole
  obtain ⟨⟨z, more⟩, hwhole, hover⟩ := Option.map_eq_some_iff.mp hend
  simp only [decide_eq_true_eq] at hstart hvisit hsweeping hover
  obtain ⟨hvisiting, htodo, hlookup⟩ := hstart
  obtain ⟨hverdict, hstays, hcalm, hrereads, hreads⟩ := hvisit
  obtain ⟨-, hfailed, hitinerary, hinquiry⟩ :=
    errors_spare_store Disk.empty ⟨7, 10, 1000⟩ ⟨0, 0⟩ shelved u early hbefore
  obtain ⟨sw, hat, hphase⟩ := Option.map_eq_some_iff.mp hvisiting
  have hvisit : u.Visit (.call 3) 0 [1] unreadable v .failed :=
    ⟨⟨sw, hat, hphase⟩, ⟨notices, hrun⟩, hstays, hverdict⟩
  obtain ⟨-, hturns, w, last, hstep, hgone, -⟩ := hfailed _ _ _ _ _ _ hvisit hrereads hcalm
  obtain ⟨hvisited, -, -⟩ := hitinerary (.call 3) _ z more
    (isSweeping_iff.mpr ⟨sw, hat, Sweep.isUnderway_iff.mpr (by simp [hphase])⟩) hwhole hsweeping
  rw [hover, List.append_nil, htodo] at hvisited
  obtain ⟨hspares, -⟩ := hinquiry 4 ⟨"a"⟩ unreadable v notices hlookup hrun hreads
  exact ⟨u, v, early, notices, hbefore, hrun, hturns, ⟨w, last, hstep, hgone⟩, hspares, hvisited⟩

end World
end FileCache
