import FileCache.Proofs.Lookup.Course
import FileCache.Proofs.Sweep.Course
import FileCache.Proofs.World.Sound

/-!
What it means for the store, and for those at work on it, to agree with a disk that does
not change.

An entry agrees with the disk if its content is what reading the file gives.  A lookup or
a sweep is faithful if what it has in hand was read from that disk; the turns of faithful
lookups and sweeps keep every entry in agreement.
-/

namespace FileCache

open Store (Alike Orderly)

/-! ## The disk -/

namespace Disk

/-- What a lookup says of a file when it asks the disk. -/
def answer (d : Disk) (path : Path) : Option Copy := (d.read path).answer

/-- By its status there is no regular file at the path. -/
def Denies (d : Disk) (path : Path) : Prop :=
  d.statPath path = .error .noEntry ∨
    ∃ status, d.statPath path = .ok status ∧ status.regular = false

/-- No file that can be read is denied by its status. -/
def Candid (d : Disk) : Prop := ∀ path, d.Denies path → d.answer path = none

/-- No operation fails for a reason other than the tree. -/
def Faultless (d : Disk) : Prop := ∀ parts op, d.faults parts op = none

/-- Every file has the length that is reported of it. -/
def Truthful (d : Disk) : Prop :=
  ∀ id, (d.statusOf (.file id)).stamp.size = (d.files id).bytes.length

end Disk

/-! ## Reading -/

namespace Reading

/-- The reading of a file ends with what the disk has. -/
def Leads (d : Disk) (path : Path) (r : Reading) : Prop :=
  ((r.advance d path).advance d path).advance d path = .finished (d.read path)

/-- Three operations read a file. -/
theorem advance_thrice (d : Disk) (path : Path) :
    ∃ result, ((opening.advance d path).advance d path).advance d path = .finished result := by
  cases hopen : d.openPath path with
  | error e =>
    have hfirst : ∃ result, opening.advance d path = .finished result := by
      cases e <;> simp [advance, hopen]
    obtain ⟨result, hfirst⟩ := hfirst
    exact ⟨result, by rw [hfirst]; rfl⟩
  | ok handle =>
    have hfirst : opening.advance d path = .measuring handle := by simp [advance, hopen]
    rw [hfirst]
    cases hstat : d.statHandle path handle with
    | error e => exact ⟨.failed e, by simp [advance, hstat]⟩
    | ok status =>
      cases hregular : status.regular with
      | false => exact ⟨.absent, by simp [advance, hstat, hregular]⟩
      | true =>
        cases hread : d.readHandle path handle with
        | error e => exact ⟨.failed e, by simp [advance, hstat, hregular, hread]⟩
        | ok bytes =>
          exact ⟨.copy (Copy.ofBytes bytes status.stamp.modified),
            by simp [advance, hstat, hregular, hread]⟩

theorem leads_opening (d : Disk) (path : Path) : opening.Leads d path := by
  obtain ⟨result, hresult⟩ := advance_thrice d path
  rw [Leads, Disk.read, hresult]

theorem Leads.advance {d : Disk} {path : Path} {r r' : Reading} (h : r.Leads d path)
    (hr : r.advance d path = r') : r'.Leads d path := by
  rw [Leads, ← hr, h]
  rfl

theorem Leads.result {d : Disk} {path : Path} {r : Reading} {result : ReadResult}
    (h : r.Leads d path) (hr : r.advance d path = .finished result) : d.read path = result := by
  rw [Leads, hr] at h
  exact (Reading.finished.inj h).symm

end Reading

/-! ## Entries -/

/-- The content is what reading the file gives.  One that is being reloaded claims
nothing. -/
def Content.Agrees (d : Disk) (path : Path) : Content → Prop
  | .present copy => d.read path = .copy copy
  | .missing => d.answer path = none
  | .reloading => True

def Entry.Agrees (d : Disk) (e : Entry) : Prop := e.content.Agrees d e.path

/-- Every mapped entry agrees with the disk. -/
def Store.Reflects (d : Disk) (s : Store) : Prop :=
  ∀ id ∈ s.mapped, ∀ e, s.entry? id = some e → e.Agrees d

theorem Content.Agrees.answer {d : Disk} {path : Path} {c : Content} {answer : Option Copy}
    (h : c.Agrees d path) (hanswer : c.answer? = some answer) : d.answer path = answer := by
  cases c with
  | present copy =>
    rw [Agrees] at h
    cases hanswer
    rw [Disk.answer, h, ReadResult.answer]
  | missing =>
    cases hanswer
    exact h
  | reloading => cases hanswer

/-! ## Faithful lookups and sweeps -/

/-- What a lookup has in hand was read from the disk. -/
def Lookup.Faithful (d : Disk) (path : Path) (s : Store) : Lookup → Prop
  | .found _ id => ∃ e, s.entry? id = some e ∧ e.path = path ∧ e.Agrees d
  | .loading _ reading => reading.Leads d path
  | .bypassing _ reading => reading.Leads d path
  | .storing _ copy => d.read path = .copy copy
  | .leaving _ answer => answer = d.answer path
  | .done answer => answer = d.answer path
  | _ => True

/-- What a sweep that visits the entry for `path` has in hand is true of the disk. -/
def Sweep.Phase.Faithful (d : Disk) (path : Path) : Phase → Prop
  | .comparing seen =>
    ∃ status, d.statPath path = .ok status ∧ status.regular = true ∧ status.stamp = seen
  | .preloading reading => reading.Leads d path
  | .reloading reading => reading.Leads d path
  | .exchanging copy => d.read path = .copy copy
  | .refilling copy => d.read path = .copy copy
  | .forgetting => d.answer path = none
  | _ => True

def Sweep.Faithful (d : Disk) (s : Store) (sw : Sweep) : Prop :=
  ∀ id, sw.todo.head? = some id → ∀ e, s.entry? id = some e → sw.phase.Faithful d e.path

/-! ## The course of faithful tasks -/

theorem Lookup.faithful_answered {d : Disk} {path : Path} {s : Store} {answer : Option Copy}
    (gate : Option GateId) (h : answer = d.answer path) :
    (answered gate answer).Faithful d path s := by
  cases gate <;> exact h

/-- An entry that a lookup finds is the one of its path. -/
theorem Lookup.faithful_found {d : Disk} {path : Path} {s : Store} {id : EntryId}
    (hs : s.Orderly) (hreflects : s.Reflects d)
    (hserved : ∀ id e, s.entry? id = some e → e.path.same path = true → e.path = path)
    (gate : Option GateId) (h : s.find? path = some id) :
    (Lookup.found gate id).Faithful d path s := by
  have hid : id ∈ s.mapped := Store.find?_mem h
  obtain ⟨e, he⟩ := hs.entry hid
  have hsame := List.find?_some h
  rw [he, Option.any_some] at hsame
  exact ⟨e, he, hserved id e he hsame, hreflects id hid e he⟩

theorem Lookup.Course.faithful {now : Nat} {d : Disk} {path : Path} {s t : Store}
    {phase next : Lookup} (h : Lookup.Course now d path s phase next t) (hs : s.Orderly)
    (hreflects : s.Reflects d)
    (hserved : ∀ id e, s.entry? id = some e → e.path.same path = true → e.path = path)
    (hphase : phase.Faithful d path s) : next.Faithful d path t := by
  cases h with
  | find h => exact faithful_found hs hreflects hserved none h
  | findAgain h => exact faithful_found hs hreflects hserved _ h
  | @take gate id e answer he hanswer =>
    obtain ⟨e', he', hpath, hagrees⟩ := hphase
    rw [he, Option.some.injEq] at he'
    subst he'
    rw [Entry.Agrees, hpath] at hagrees
    exact faithful_answered gate (hagrees.answer hanswer).symm
  | reload => exact Reading.leads_opening d path
  | passBy => exact Reading.leads_opening d path
  | load => exact Reading.leads_opening d path
  | read h _ => exact hphase.advance h
  | readAside h _ => exact hphase.advance h
  | keep h _ => exact hphase.result h
  | outsized h _ =>
    have hread := hphase.result h
    show _ = d.answer path
    rw [Disk.answer, hread, ReadResult.answer]
  | vain h hresult =>
    have hread := hphase.result h
    show none = d.answer path
    rw [Disk.answer, hread, hresult]
  | insert _ =>
    show _ = d.answer path
    rw [Disk.answer, hphase, ReadResult.answer]
  | refuse _ =>
    show _ = d.answer path
    rw [Disk.answer, hphase, ReadResult.answer]
  | @answer gate r result h =>
    exact faithful_answered gate (by rw [Disk.answer, hphase.result h])
  | leave => exact hphase
  | _ => trivial

namespace Sweep

theorem Course.faithful {now : Nat} {d : Disk} {s t : Store} {id : EntryId} {e : Entry}
    {phase next : Phase} (h : Course now d s id e phase next t) (hcandid : d.Candid)
    (hphase : phase.Faithful d e.path) : next.Faithful d e.path := by
  cases h with
  | see h hregular => exact ⟨_, h, hregular, rfl⟩
  | lack h => exact hcandid e.path h
  | preload _ _ _ => exact Reading.leads_opening d e.path
  | vacate _ => exact Reading.leads_opening d e.path
  | preread h _ => exact hphase.advance h
  | reread h _ => exact hphase.advance h
  | preloaded h => exact hphase.result h
  | reloaded h => exact hphase.result h
  | vanish h =>
    have hread := hphase.result h
    show d.answer e.path = none
    rw [Disk.answer, hread, ReadResult.answer]
  | vanishLate h =>
    have hread := hphase.result h
    show d.answer e.path = none
    rw [Disk.answer, hread, ReadResult.answer]
  | _ => trivial

/-- The content that a sweep is about to write into the entry it visits. -/
def Phase.written? : Phase → Option Content
  | .forgetting => some .missing
  | .vacating => some .reloading
  | .exchanging copy => some (.present copy)
  | .refilling copy => some (.present copy)
  | _ => none

theorem Phase.Faithful.written {d : Disk} {path : Path} {phase : Phase} {c : Content}
    (h : phase.Faithful d path) (hwritten : phase.written? = some c) : c.Agrees d path := by
  cases phase with
  | forgetting => cases hwritten; exact h
  | vacating => cases hwritten; trivial
  | exchanging copy => cases hwritten; exact h
  | refilling copy => cases hwritten; exact h
  | _ => cases hwritten

end Sweep

/-! ## Entries after a turn -/

/-- Revising an entry changes no other, and the entry as `change` does. -/
theorem Store.entry?_revise {s : Store} {id other : EntryId} {e : Entry}
    (he : s.entry? other = some e) (change : Entry → Entry) (used : Nat) :
    Store.entry? (s.revise id change used) other = some (if id = other then change e else e) := by
  by_cases h : id = other
  · subst h
    rw [if_pos rfl]
    exact entry?_revise_self he change used
  · rw [if_neg h, entry?_revise_of_ne h, he]

theorem Sweep.Effect.entry_revise {sw : Sweep} {s t : Store} {id other : EntryId} {e : Entry}
    {change : Entry → Entry} {used : Nat} (h : Alike (s.revise id change used) t)
    (he : s.entry? other = some e) (hpath : (change e).path = e.path)
    (hhead : sw.todo.head? = some id) (hwritten : sw.phase.written? = some (change e).content) :
    ∃ e', t.entry? other = some e' ∧ e'.path = e.path ∧
      (e'.content = e.content ∨
        (sw.todo.head? = some other ∧ sw.phase.written? = some e'.content)) := by
  refine ⟨if id = other then change e else e, ?_, ?_, ?_⟩
  · rw [h.entry?, Store.entry?_revise he]
  · split
    · exact hpath
    · rfl
  · split
    · rename_i hid
      subst hid
      exact .inr ⟨hhead, hwritten⟩
    · exact .inl rfl

/-- A turn of a sweep changes the content of the entry it visits at most. -/
theorem Sweep.Effect.entry {now : Nat} {sw : Sweep} {s t : Store} {id : EntryId} {e : Entry}
    (h : Sweep.Effect now sw s t) (he : s.entry? id = some e) :
    ∃ e', t.entry? id = some e' ∧ e'.path = e.path ∧
      (e'.content = e.content ∨
        (sw.todo.head? = some id ∧ sw.phase.written? = some e'.content)) := by
  cases h with
  | nothing h => exact ⟨e, by rw [h.entry?, he], rfl, .inl rfl⟩
  | removed _ _ _ h => exact ⟨e, by rw [h.entry?]; exact he, rfl, .inl rfl⟩
  | forgotten _ _ hhead hphase h => exact entry_revise h he rfl hhead (by rw [hphase]; rfl)
  | vacated _ _ hhead hphase h => exact entry_revise h he rfl hhead (by rw [hphase]; rfl)
  | exchanged _ _ _ hhead hphase _ h => exact entry_revise h he rfl hhead (by rw [hphase]; rfl)
  | refilled _ _ _ hhead hphase _ h => exact entry_revise h he rfl hhead (by rw [hphase]; rfl)

theorem Sweep.Effect.mem_mapped {now : Nat} {sw : Sweep} {s t : Store} {id : EntryId}
    (h : Sweep.Effect now sw s t) (hid : id ∈ t.mapped) : id ∈ s.mapped := by
  rcases h.kinds with h | ⟨other, -, h⟩ | ⟨other, -, change, used, h⟩
  · exact h.mapped ▸ hid
  · rw [h.mapped] at hid
    exact List.mem_of_mem_erase hid
  · rw [h.mapped] at hid
    exact hid

/-- A turn of a lookup changes the path and the content of no entry. -/
theorem Lookup.Effect.entry {now : Nat} {path : Path} {phase : Lookup} {s t : Store}
    {id : EntryId} {e : Entry} (h : Lookup.Effect now path phase s t)
    (he : s.entry? id = some e) :
    ∃ e', t.entry? id = some e' ∧ e'.path = e.path ∧ e'.content = e.content := by
  cases h with
  | nothing h => exact ⟨e, by rw [h.entry?, he], rfl, rfl⟩
  | used other _ h =>
    refine ⟨if other = id then e.markUsed now else e, ?_, ?_, ?_⟩
    · rw [h.entry?, Store.markUsed_eq_revise, Store.entry?_revise he]
    · split <;> rfl
    · split <;> rfl
  | inserted gate copy _ _ h =>
    have hlt : id < s.entries.length := (List.getElem?_eq_some_iff.mp he).1
    exact ⟨e, by rw [h.entry?, Store.entry?_insert_of_lt hlt, he], rfl, rfl⟩

/-- The only entry that a lookup makes holds the copy that it was about to store. -/
theorem Lookup.Effect.entry_new {now : Nat} {path : Path} {phase : Lookup} {s t : Store}
    {id : EntryId} {e' : Entry} (h : Lookup.Effect now path phase s t)
    (he' : t.entry? id = some e') :
    (∃ e, s.entry? id = some e) ∨
      ∃ gate copy, phase = .storing gate copy ∧ e' = Entry.ofCopy now path copy := by
  cases h with
  | nothing h => exact .inl ⟨e', by rw [← h.entry?, he']⟩
  | used other _ h =>
    have hlt : id < s.entries.length := by
      have hlt' := (List.getElem?_eq_some_iff.mp he').1
      rw [h.entries, Store.markUsed, Store.modify, List.length_modify] at hlt'
      exact hlt'
    exact .inl ⟨_, List.getElem?_eq_getElem hlt⟩
  | inserted gate copy hphase _ h =>
    by_cases hlt : id < s.entries.length
    · exact .inl ⟨_, List.getElem?_eq_getElem hlt⟩
    · have hlt' := (List.getElem?_eq_some_iff.mp he').1
      rw [h.entries, Store.insert, List.length_append, List.length_singleton] at hlt'
      have hid : id = s.entries.length :=
        Nat.le_antisymm (Nat.le_of_lt_succ hlt') (Nat.le_of_not_lt hlt)
      rw [h.entry?, hid, Store.entry?_insert_length, Option.some.injEq] at he'
      exact .inr ⟨gate, copy, hphase, he'.symm⟩

theorem Lookup.Effect.mem_mapped {now : Nat} {path : Path} {phase : Lookup} {s t : Store}
    {id : EntryId} (h : Lookup.Effect now path phase s t) (hid : id ∈ t.mapped) :
    id ∈ s.mapped ∨ s.entry? id = none := by
  cases h with
  | nothing h => exact .inl (h.mapped ▸ hid)
  | used other _ h => rw [h.mapped] at hid; exact .inl hid
  | inserted gate copy _ _ h =>
    rw [h.mapped] at hid
    rcases List.mem_append.mp hid with hold | hnew
    · exact .inl hold
    · rw [List.mem_singleton.mp hnew]
      exact .inr (List.getElem?_eq_none (Nat.le_refl _))

/-! ## Stores in agreement -/

/-- From one store to the next, what is mapped keeps its path, and keeps its content or
comes to agree with the disk. -/
structure Store.Tended (d : Disk) (s t : Store) : Prop where
  entry : ∀ id e, s.entry? id = some e →
    ∃ e', t.entry? id = some e' ∧ e'.path = e.path ∧ (e'.content = e.content ∨ e'.Agrees d)
  mapped : ∀ id ∈ t.mapped, id ∈ s.mapped ∨
    (s.entry? id = none ∧ ∀ e, t.entry? id = some e → e.Agrees d)

theorem Lookup.Effect.tended {now : Nat} {d : Disk} {path : Path} {phase : Lookup} {s t : Store}
    (h : Lookup.Effect now path phase s t) (hphase : phase.Faithful d path s) :
    s.Tended d t where
  entry id e he := by
    obtain ⟨e', he', hpath, hcontent⟩ := h.entry he
    exact ⟨e', he', hpath, .inl hcontent⟩
  mapped id hid := by
    rcases h.mem_mapped hid with hold | hnone
    · exact .inl hold
    · refine .inr ⟨hnone, fun e he => ?_⟩
      rcases h.entry_new he with ⟨old, hold⟩ | ⟨gate, copy, hstoring, rfl⟩
      · rw [hnone] at hold
        cases hold
      · rw [hstoring] at hphase
        exact hphase

theorem Sweep.Effect.tended {now : Nat} {d : Disk} {sw : Sweep} {s t : Store}
    (h : Sweep.Effect now sw s t) (hsw : sw.Faithful d s) : s.Tended d t where
  entry id e he := by
    obtain ⟨e', he', hpath, hcontent⟩ := h.entry he
    refine ⟨e', he', hpath, ?_⟩
    rcases hcontent with hcontent | ⟨hhead, hwritten⟩
    · exact .inl hcontent
    · rw [Entry.Agrees, hpath]
      exact .inr ((hsw id hhead e he).written hwritten)
  mapped id hid := .inl (h.mem_mapped hid)

/-- Stores that differ at most in what is mapped and what is counted. -/
theorem Store.Tended.of_entries {d : Disk} {s t : Store} (hentries : t.entries = s.entries)
    (hmapped : ∀ id ∈ t.mapped, id ∈ s.mapped) : s.Tended d t where
  entry id e he := ⟨e, by rw [Store.entry?, hentries]; exact he, rfl, .inl rfl⟩
  mapped id hid := .inl (hmapped id hid)

namespace Store.Tended

variable {d : Disk} {s t : Store}

/-- The entry before, of an entry that was there before. -/
theorem before (h : s.Tended d t) {id : EntryId} {e e' : Entry} (he : s.entry? id = some e)
    (he' : t.entry? id = some e') :
    e'.path = e.path ∧ (e'.content = e.content ∨ e'.Agrees d) := by
  obtain ⟨e'', he'', hpath, hcontent⟩ := h.entry id e he
  rw [he', Option.some.injEq] at he''
  subst he''
  exact ⟨hpath, hcontent⟩

theorem agrees (h : s.Tended d t) {id : EntryId} {e e' : Entry} (he : s.entry? id = some e)
    (he' : t.entry? id = some e') (hagrees : e.Agrees d) : e'.Agrees d := by
  obtain ⟨hpath, hcontent | hagrees'⟩ := h.before he he'
  · rw [Entry.Agrees, hpath, hcontent]
    exact hagrees
  · exact hagrees'

/-- What holds of every mapped entry, and of every entry in agreement, and depends on path
and content only, goes on to hold. -/
theorem mapped_induction (h : s.Tended d t) (hs : s.Orderly) {P : EntryId → Entry → Prop}
    (hagrees : ∀ id e, e.Agrees d → P id e)
    (hkept : ∀ id e e', e'.path = e.path → e'.content = e.content → P id e → P id e')
    (hP : ∀ id ∈ s.mapped, ∀ e, s.entry? id = some e → P id e) :
    ∀ id ∈ t.mapped, ∀ e, t.entry? id = some e → P id e := by
  intro id hid e' he'
  rcases h.mapped id hid with hold | ⟨-, hnew⟩
  · obtain ⟨e, he⟩ := hs.entry hold
    obtain ⟨hpath, hcontent | hagrees'⟩ := h.before he he'
    · exact hkept id e e' hpath hcontent (hP id hold e he)
    · exact hagrees id e' hagrees'
  · exact hagrees id e' (hnew e' he')

theorem reflects (h : s.Tended d t) (hs : s.Orderly) (hreflects : s.Reflects d) :
    t.Reflects d := by
  refine h.mapped_induction hs (P := fun _ e => e.Agrees d) (fun _ _ hagrees => hagrees)
    (fun _ e e' hpath hcontent hagrees => ?_) hreflects
  rw [Entry.Agrees, hpath, hcontent]
  exact hagrees

theorem lookup (h : s.Tended d t) {path : Path} {phase : Lookup}
    (hphase : phase.Faithful d path s) : phase.Faithful d path t := by
  cases phase with
  | found gate id =>
    obtain ⟨e, he, hpath, hagrees⟩ := hphase
    obtain ⟨e', he', hpath', -⟩ := h.entry id e he
    exact ⟨e', he', hpath'.trans hpath, h.agrees he he' hagrees⟩
  | _ => exact hphase

theorem sweep (h : s.Tended d t) {sw : Sweep} (hknown : ∀ id ∈ sw.todo, id < s.entries.length)
    (hsw : sw.Faithful d s) : sw.Faithful d t := by
  intro id hhead e' he'
  have hlt := hknown id (List.mem_of_mem_head? hhead)
  obtain ⟨hpath, -⟩ := h.before (List.getElem?_eq_getElem hlt) he'
  rw [hpath]
  exact hsw id hhead _ (List.getElem?_eq_getElem hlt)

end Store.Tended

/-- A sweep that was faithful still is after its turn. -/
theorem Sweep.step_faithful {now : Nat} {d : Disk} {s : Store} {sw : Sweep} {st : Step Sweep}
    (hcandid : d.Candid) (hsw : sw.Faithful d s) (h : sw.step now d s = some st) :
    st.next.Faithful d st.store := by
  have hproceed (sw : Sweep) (todo : List EntryId) (s t : Store) (notices : List Notice) :
      (sw.proceed todo s notices).next.Faithful d t := by
    cases todo with
    | nil => exact fun _ _ _ _ => trivial
    | cons id rest => exact fun _ _ _ _ => trivial
  have heffect := step_effect h
  rcases step_cases h with ⟨-, rfl⟩ | ⟨id, rest, e, htodo, he, hvisit⟩
  · exact hproceed _ _ _ _ _
  · rcases hvisit with ⟨hcourse⟩ | ⟨hending⟩
    · intro other hhead e' he'
      have hid : id = other := by
        rw [htodo, List.head?_cons, Option.some.injEq] at hhead
        exact hhead
      subst hid
      obtain ⟨hpath, -⟩ := (heffect.tended hsw).before he he'
      rw [hpath]
      exact hcourse.faithful hcandid (hsw id hhead e he)
    · exact hproceed _ _ _ _ _

end FileCache
