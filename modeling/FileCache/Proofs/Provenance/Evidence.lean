import FileCache.Proofs.Transparency.Agreement

/-!
Where everything comes from that a lookup, a sweep or an entry has to say of a file.

All of it was read from the disk.  `Evidence` names what is to be known of a reading that is
underway, of what a reading came to, and of a file that is said to be missing.  As long as the
turns of the readings go on to provide the evidence, everything said is backed by it
(`Backed.apply`); what the evidence is, is left open.
-/

namespace FileCache

/-- What is known of the readings of files, of their results, and of the files that are said
to be missing. -/
structure Evidence where
  reading : Agent → Path → Reading → Prop
  result : Path → ReadResult → Prop
  missing : Path → Prop

namespace Evidence

/-- What an entry for the path says of the file. -/
def Content (E : Evidence) (path : Path) : FileCache.Content → Prop
  | .present copy => E.result path (.copy copy)
  | .missing => E.missing path
  | .reloading => True

/-- An answer is the result of a reading, or the content of an entry for the same path. -/
def Answer (E : Evidence) (path : Path) (answer : Option Copy) : Prop :=
  (∃ result, E.result path result ∧ result.answer = answer) ∨
    ∃ (kept : Path) (content : FileCache.Content), kept.same path = true ∧
      E.Content kept content ∧ content.answer? = some answer

end Evidence

/-! ## Tasks -/

/-- What a lookup has in hand is backed. -/
def Lookup.Backed (E : Evidence) (agent : Agent) (path : Path) (s : Store) : Lookup → Prop
  | .found _ id => ∃ e, s.entry? id = some e ∧ e.path.same path = true
  | .loading _ reading => E.reading agent path reading
  | .bypassing _ reading => E.reading agent path reading
  | .storing _ copy => E.result path (.copy copy)
  | .leaving _ answer => E.Answer path answer
  | .done answer => E.Answer path answer
  | _ => True

/-- What a sweep has in hand that visits the entry for `path` is backed. -/
def Sweep.Phase.Backed (E : Evidence) (agent : Agent) (path : Path) : Phase → Prop
  | .preloading reading => E.reading agent path reading
  | .reloading reading => E.reading agent path reading
  | .exchanging copy => E.result path (.copy copy)
  | .refilling copy => E.result path (.copy copy)
  | .forgetting => E.missing path
  | _ => True

def Sweep.Backed (E : Evidence) (agent : Agent) (s : Store) (sw : Sweep) : Prop :=
  ∀ id, sw.todo.head? = some id → ∀ e, s.entry? id = some e → sw.phase.Backed E agent e.path

def Store.Backed (E : Evidence) (s : Store) : Prop :=
  ∀ id e, s.entry? id = some e → E.Content e.path e.content

namespace World

/-- An agent is reading the file at a path, and has come as far as the last argument says. -/
inductive Reads (w : World) : Agent → Path → Reading → Prop
  | loading {id : CallId} {path : Path} {gate : GateId} {r : Reading}
      (hat : w.lookup? id = some (path, .loading gate r)) : Reads w (.call id) path r
  | bypassing {id : CallId} {path : Path} {gate : Option GateId} {r : Reading}
      (hat : w.lookup? id = some (path, .bypassing gate r)) : Reads w (.call id) path r
  | preloading {agent : Agent} {sw : Sweep} {id : EntryId} {e : Entry} {r : Reading}
      (hat : w.sweep? agent = some sw) (hphase : sw.phase = .preloading r)
      (hhead : sw.todo.head? = some id) (he : w.store.entry? id = some e) :
      Reads w agent e.path r
  | reloading {agent : Agent} {sw : Sweep} {id : EntryId} {e : Entry} {r : Reading}
      (hat : w.sweep? agent = some sw) (hphase : sw.phase = .reloading r)
      (hhead : sw.todo.head? = some id) (he : w.store.entry? id = some e) :
      Reads w agent e.path r

/-- Entries, lookups and sweeps have nothing to say that is not backed. -/
structure Backed (E : Evidence) (w : World) : Prop where
  entries : w.store.Backed E
  lookups : ∀ id path phase, w.lookup? id = some (path, phase) →
    phase.Backed E (.call id) path w.store
  sweeps : ∀ agent sw, w.sweep? agent = some sw → sw.Backed E agent w.store

theorem Backed.freshOn (E : Evidence) (disk : Disk) (limits : Limits) (wall : Time.Timestamp) :
    (freshOn disk limits wall).Backed E where
  entries id e h := by cases h
  lookups id path phase h := by cases h
  sweeps agent sw h := by cases agent <;> cases h

end World

/-! ## From one event to the next -/

/-- The evidence after an event, from the evidence before: nothing is taken back, a reading
may begin at any time, and one that goes on provides for what it comes to. -/
structure Evidence.Grows (E E' : Evidence) (w : World) (event : World.Event) : Prop where
  result : ∀ path result, E.result path result → E'.result path result
  missing : ∀ path, E.missing path → E'.missing path
  absent : ∀ path, E'.result path .absent → E'.missing path
  denied : ∀ path, w.disk.Denies path → E'.missing path
  opening : ∀ agent path, E'.reading agent path .opening
  waits : ∀ agent path r, w.Reads agent path r → E.reading agent path r →
    event ≠ .turn agent → E'.reading agent path r
  goes : ∀ agent path r r', w.Reads agent path r → E.reading agent path r →
    event = .turn agent → r.advance w.disk path = r' →
    (∀ result, r' ≠ .finished result) → E'.reading agent path r'
  ends : ∀ agent path r result, w.Reads agent path r → E.reading agent path r →
    event = .turn agent → r.advance w.disk path = .finished result → E'.result path result

variable {E E' : Evidence} {w w' : World} {event : World.Event}

theorem Evidence.Grows.content (h : E.Grows E' w event) {path : Path} {content : FileCache.Content}
    (hcontent : E.Content path content) : E'.Content path content := by
  cases content with
  | present copy => exact h.result path _ hcontent
  | missing => exact h.missing path hcontent
  | reloading => trivial

theorem Evidence.Grows.answer (h : E.Grows E' w event) {path : Path} {answer : Option Copy}
    (hanswer : E.Answer path answer) : E'.Answer path answer := by
  rcases hanswer with ⟨result, hresult, heq⟩ | ⟨kept, content, hsame, hcontent, heq⟩
  · exact .inl ⟨result, h.result path result hresult, heq⟩
  · exact .inr ⟨kept, content, hsame, h.content hcontent, heq⟩

/-! ### Lookups -/

/-- An entry keeps its path, whatever the event. -/
theorem Lookup.backed_found {s t : Store} {path : Path} {id : EntryId}
    (hpaths : ∀ id e, s.entry? id = some e → ∃ e', t.entry? id = some e' ∧ e'.path = e.path)
    (h : ∃ e, s.entry? id = some e ∧ e.path.same path = true) :
    ∃ e, t.entry? id = some e ∧ e.path.same path = true := by
  obtain ⟨e, he, hsame⟩ := h
  obtain ⟨e', he', hpath⟩ := hpaths id e he
  exact ⟨e', he', hpath ▸ hsame⟩

/-- A lookup that finds an entry finds one for the same path. -/
theorem Store.find?_same {s : Store} (hs : s.Orderly) {path : Path} {id : EntryId}
    (h : s.find? path = some id) : ∃ e, s.entry? id = some e ∧ e.path.same path = true := by
  obtain ⟨e, he⟩ := hs.entry (Store.find?_mem h)
  have hsame := List.find?_some h
  rw [he, Option.any_some] at hsame
  exact ⟨e, he, hsame⟩

theorem Lookup.backed_answered {agent : Agent} {path : Path} {s : Store} {answer : Option Copy}
    (gate : Option GateId) (h : E.Answer path answer) :
    (answered gate answer).Backed E agent path s := by
  cases gate <;> exact h

theorem Lookup.Course.backed {now : Nat} {path : Path} {s t : Store} {id : CallId}
    {phase next : Lookup} (h : Course now w.disk path s phase next t)
    (hgrows : E.Grows E' w (.turn (.call id))) (hat : w.lookup? id = some (path, phase))
    (hs : s.Orderly) (hentries : s.Backed E) (hphase : phase.Backed E (.call id) path s)
    (hpaths : ∀ id e, s.entry? id = some e → ∃ e', t.entry? id = some e' ∧ e'.path = e.path) :
    next.Backed E' (.call id) path t := by
  cases h with
  | find hfind => exact backed_found hpaths (Store.find?_same hs hfind)
  | findAgain hfind => exact backed_found hpaths (Store.find?_same hs hfind)
  | @take gate entry e answer he hanswer =>
    obtain ⟨e', he', hsame⟩ := hphase
    rw [he, Option.some.injEq] at he'
    subst he'
    have hcontent := hgrows.content (hentries entry e he)
    exact backed_answered gate (.inr ⟨e.path, e.content, hsame, hcontent, hanswer⟩)
  | passBy => exact hgrows.opening _ path
  | reload => exact hgrows.opening _ path
  | load => exact hgrows.opening _ path
  | read hread hgo => exact hgrows.goes _ path _ _ (.loading hat) hphase rfl hread hgo
  | readAside hread hgo => exact hgrows.goes _ path _ _ (.bypassing hat) hphase rfl hread hgo
  | keep hread _ => exact hgrows.ends _ path _ _ (.loading hat) hphase rfl hread
  | outsized hread _ =>
    have hresult := hgrows.ends _ path _ _ (.loading hat) hphase rfl hread
    exact .inl ⟨_, hresult, rfl⟩
  | @vain _ _ result hread hnone =>
    have hresult := hgrows.ends _ path _ _ (.loading hat) hphase rfl hread
    exact .inl ⟨result, hresult, hnone⟩
  | insert _ => exact .inl ⟨_, hgrows.result path _ hphase, rfl⟩
  | refuse _ => exact .inl ⟨_, hgrows.result path _ hphase, rfl⟩
  | @answer gate _ result hread =>
    have hresult := hgrows.ends _ path _ _ (.bypassing hat) hphase rfl hread
    exact backed_answered gate (.inl ⟨result, hresult, rfl⟩)
  | leave => exact hgrows.answer hphase
  | _ => trivial

/-- A lookup that waits while another takes a turn. -/
theorem Lookup.Backed.waits {path : Path} {t : Store} {id : CallId} {phase : Lookup}
    (hphase : phase.Backed E (.call id) path w.store) (hgrows : E.Grows E' w event)
    (hat : w.lookup? id = some (path, phase)) (hother : event ≠ .turn (.call id))
    (hpaths : ∀ id e, w.store.entry? id = some e →
      ∃ e', t.entry? id = some e' ∧ e'.path = e.path) :
    phase.Backed E' (.call id) path t := by
  cases phase with
  | found gate entry => exact backed_found hpaths hphase
  | loading gate r => exact hgrows.waits _ path r (.loading hat) hphase hother
  | bypassing gate r => exact hgrows.waits _ path r (.bypassing hat) hphase hother
  | storing gate copy => exact hgrows.result path _ hphase
  | leaving gate answer => exact hgrows.answer hphase
  | done answer => exact hgrows.answer hphase
  | _ => trivial

/-! ### Sweeps -/

namespace Sweep

theorem Course.backed {now : Nat} {s t : Store} {id : EntryId} {e : Entry} {agent : Agent}
    {phase next : Phase} (h : Course now w.disk s id e phase next t)
    (hgrows : E.Grows E' w (.turn agent))
    (hreads : ∀ r, phase = .preloading r ∨ phase = .reloading r → w.Reads agent e.path r)
    (hphase : phase.Backed E agent e.path) : next.Backed E' agent e.path := by
  cases h with
  | lack hdenied => exact hgrows.denied e.path hdenied
  | preload _ _ _ => exact hgrows.opening agent e.path
  | vacate _ => exact hgrows.opening agent e.path
  | preread hread hgo =>
    exact hgrows.goes agent e.path _ _ (hreads _ (.inl rfl)) hphase rfl hread hgo
  | reread hread hgo =>
    exact hgrows.goes agent e.path _ _ (hreads _ (.inr rfl)) hphase rfl hread hgo
  | preloaded hread => exact hgrows.ends agent e.path _ _ (hreads _ (.inl rfl)) hphase rfl hread
  | reloaded hread => exact hgrows.ends agent e.path _ _ (hreads _ (.inr rfl)) hphase rfl hread
  | vanish hread =>
    have hresult := hgrows.ends agent e.path _ _ (hreads _ (.inl rfl)) hphase rfl hread
    exact hgrows.absent e.path hresult
  | vanishLate hread =>
    have hresult := hgrows.ends agent e.path _ _ (hreads _ (.inr rfl)) hphase rfl hread
    exact hgrows.absent e.path hresult
  | _ => trivial

theorem Phase.Backed.waits {agent : Agent} {path : Path} {phase : Phase}
    (hphase : phase.Backed E agent path) (hgrows : E.Grows E' w event)
    (hreads : ∀ r, phase = .preloading r ∨ phase = .reloading r → w.Reads agent path r)
    (hother : event ≠ .turn agent) : phase.Backed E' agent path := by
  cases phase with
  | preloading r => exact hgrows.waits agent path r (hreads r (.inl rfl)) hphase hother
  | reloading r => exact hgrows.waits agent path r (hreads r (.inr rfl)) hphase hother
  | exchanging copy => exact hgrows.result path _ hphase
  | refilling copy => exact hgrows.result path _ hphase
  | forgetting => exact hgrows.missing path hphase
  | _ => trivial

/-- What a sweep writes into the entry it visits is backed. -/
theorem Phase.Backed.written {agent : Agent} {path : Path} {phase : Phase}
    {content : FileCache.Content} (h : phase.Backed E agent path)
    (hwritten : phase.written? = some content) : E.Content path content := by
  cases phase with
  | forgetting => cases hwritten; exact h
  | vacating => cases hwritten; trivial
  | exchanging copy => cases hwritten; exact h
  | refilling copy => cases hwritten; exact h
  | _ => cases hwritten

end Sweep

/-! ### Worlds -/

namespace World

theorem reads_of_sweep {agent : Agent} {sw : Sweep} {id : EntryId} {e : Entry}
    (hat : w.sweep? agent = some sw) (hhead : sw.todo.head? = some id)
    (he : w.store.entry? id = some e) :
    ∀ r, sw.phase = .preloading r ∨ sw.phase = .reloading r → w.Reads agent e.path r := by
  rintro r (hphase | hphase)
  · exact .preloading hat hphase hhead he
  · exact .reloading hat hphase hhead he

/-- Entries keep their paths. -/
theorem Move.entry_path (h : Move w event w') {id : EntryId} {e : Entry}
    (he : w.store.entry? id = some e) :
    ∃ e', w'.store.entry? id = some e' ∧ e'.path = e.path := by
  cases h with
  | idle hstore _ _ _ => exact ⟨e, by rw [hstore]; exact he, rfl⟩
  | lookup _ _ _ _ _ _ hstep hstore _ _ _ =>
    obtain ⟨e', he', hpath, -⟩ := (Lookup.step_course hstep).effect.entry he
    exact ⟨e', by rw [hstore]; exact he', hpath⟩
  | sweep _ _ _ _ _ hturn =>
    obtain ⟨e', he', hpath, -⟩ := (Sweep.step_effect hturn.step).entry he
    exact ⟨e', by rw [hturn.store]; exact he', hpath⟩
  | clear hstore _ => exact ⟨e, by rw [hstore]; exact he, rfl⟩
  | switch _ hstore _ => exact ⟨e, by rw [hstore]; exact he, rfl⟩
  | shuffle _ _ hstore _ => exact ⟨e, by rw [hstore]; exact he, rfl⟩

/-- A new entry holds what its lookup had read, and an old one keeps its content or gets what
its sweep had read. -/
theorem Backed.entries_move (hw : w.Backed E) (hgrows : E.Grows E' w event)
    (h : Move w event w') : w'.store.Backed E' := by
  intro id e' he'
  have hsame (hstore : w'.store.entries = w.store.entries) : E'.Content e'.path e'.content := by
    rw [Store.entry?, hstore] at he'
    exact hgrows.content (hw.entries id e' he')
  cases h with
  | idle hstore _ _ _ => exact hsame (by rw [hstore])
  | lookup call path phase st _ hat hstep hstore _ _ _ =>
    have heffect := (Lookup.step_course hstep).effect
    rw [hstore] at he'
    rcases heffect.entry_new he' with ⟨e, he⟩ | ⟨gate, copy, hstoring, rfl⟩
    · obtain ⟨e'', he'', hpath, hcontent⟩ := heffect.entry he
      rw [he', Option.some.injEq] at he''
      rw [he'', hpath, hcontent]
      exact hgrows.content (hw.entries id e he)
    · have hcopy := hw.lookups call path phase hat
      rw [hstoring] at hcopy
      exact hgrows.result path _ hcopy
  | sweep agent sw st _ hat hturn =>
    have heffect := Sweep.step_effect hturn.step
    rw [hturn.store] at he'
    have hlt := (List.getElem?_eq_some_iff.mp he').1
    rw [heffect.length_entries] at hlt
    obtain ⟨e, he⟩ : ∃ e, w.store.entry? id = some e := ⟨_, List.getElem?_eq_getElem hlt⟩
    obtain ⟨e'', he'', hpath, hcontent⟩ := heffect.entry he
    rw [he', Option.some.injEq] at he''
    rw [he'', hpath]
    rcases hcontent with hcontent | ⟨hhead, hwritten⟩
    · rw [hcontent]
      exact hgrows.content (hw.entries id e he)
    · exact hgrows.content ((hw.sweeps agent sw hat id hhead e he).written hwritten)
  | clear hstore _ => exact hsame (by rw [hstore]; rfl)
  | switch _ hstore _ => exact hsame (by rw [hstore])
  | shuffle _ _ hstore _ => exact hsame (by rw [hstore])

theorem Backed.lookups_apply {notices : List Notice} (hw : w.Backed E) (hsound : w.Sound)
    (hgrows : E.Grows E' w event) (h : w.apply event = some (w', notices)) (id : CallId)
    (path : Path) (phase : Lookup) (hat : w'.lookup? id = some (path, phase)) :
    phase.Backed E' (.call id) path w'.store := by
  have hpaths (entry : EntryId) (e : Entry) (he : w.store.entry? entry = some e) :
      ∃ e', w'.store.entry? entry = some e' ∧ e'.path = e.path := (apply_move h).entry_path he
  rcases apply_lookup_cases h hat with ⟨hother, hold⟩ | rfl | ⟨before, st, rfl, hbefore, hturn, rfl⟩
  · exact (hw.lookups id path phase hold).waits hgrows hold hother hpaths
  · trivial
  · have hcourse := Lookup.step_course hturn.step
    rw [← hturn.store] at hcourse
    exact hcourse.backed hgrows hbefore hsound.orderly hw.entries
      (hw.lookups id path before hbefore) hpaths

theorem Backed.sweeps_apply {notices : List Notice} (hw : w.Backed E) (hsound : w.Sound)
    (hgrows : E.Grows E' w event) (h : w.apply event = some (w', notices)) (agent : Agent)
    (sw : Sweep) (hat : w'.sweep? agent = some sw) : sw.Backed E' agent w'.store := by
  have hproceed (sw : Sweep) (todo : List EntryId) (s : Store) (notices : List Notice) :
      (sw.proceed todo s notices).next.Backed E' agent w'.store := by
    cases todo with
    | nil => exact fun _ _ _ _ => trivial
    | cons id rest => exact fun _ _ _ _ => trivial
  have hpath {id : EntryId} {e e' : Entry} (he : w.store.entry? id = some e)
      (he' : w'.store.entry? id = some e') : e'.path = e.path := by
    obtain ⟨e'', he'', hpath⟩ := (apply_move h).entry_path he
    rw [he', Option.some.injEq] at he''
    rw [he'', hpath]
  rcases apply_sweep_cases h hat with ⟨hother, hold⟩ | rfl | ⟨before, st, rfl, hbefore, hturn, rfl⟩
  · intro id hhead e' he'
    have hlt := hsound.todo agent sw hold id (List.mem_of_mem_head? hhead)
    obtain ⟨e, he⟩ : ∃ e, w.store.entry? id = some e := ⟨_, List.getElem?_eq_getElem hlt⟩
    rw [hpath he he']
    exact (hw.sweeps agent sw hold id hhead e he).waits hgrows (reads_of_sweep hold hhead he) hother
  · exact fun _ _ _ _ => trivial
  · rcases Sweep.step_cases hturn.step with ⟨-, hst⟩ | ⟨id, rest, e, htodo, he, hvisit⟩
    · rw [hst]
      exact hproceed _ _ _ _
    · have hhead : before.todo.head? = some id := by rw [htodo, List.head?_cons]
      rcases hvisit with ⟨hcourse⟩ | ⟨hending⟩
      · intro other hother e' he'
        have hid : id = other := by
          rw [hhead, Option.some.injEq] at hother
          exact hother
        subst hid
        rw [hpath he he']
        exact hcourse.backed hgrows (reads_of_sweep hbefore hhead he)
          (hw.sweeps agent before hbefore id hhead e he)
      · exact hproceed _ _ _ _

/-- An event takes what is backed to what is backed. -/
theorem Backed.apply {notices : List Notice} (hw : w.Backed E) (hsound : w.Sound)
    (hgrows : E.Grows E' w event) (h : w.apply event = some (w', notices)) : w'.Backed E' where
  entries := hw.entries_move hgrows (apply_move h)
  lookups := hw.lookups_apply hsound hgrows h
  sweeps := hw.sweeps_apply hsound hgrows h

end World
end FileCache
