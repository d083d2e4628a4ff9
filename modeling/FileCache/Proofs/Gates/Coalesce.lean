import FileCache.Proofs.Gates.Crowd
import FileCache.Proofs.Provenance.Reading

/-!
Lookups that miss at the same time read the file once, if it can be stored.

Until somebody has stored a copy, whoever passes the gate finds no entry and reads the file; the
crowd is billed for as many readings as have begun.  Since one at a time is past the gate, the
one who stores the copy is the only one who has read the file, and everybody after it finds the
entry.  If the copy cannot be stored, everybody reads the file in turn.
-/

namespace FileCache

open Store (Alike)

/-! ## Looking for an entry -/

namespace Store

variable {s : Store} {path : Path}

/-- The map has an entry for the path there. -/
def fits (s : Store) (path : Path) (id : EntryId) : Bool :=
  (s.entry? id).any fun e => e.path.same path

theorem find?_eq_none_iff : s.find? path = none ↔ ∀ id ∈ s.mapped, s.fits path id = false := by
  rw [find?, List.find?_eq_none]
  refine forall₂_congr fun id _ => ?_
  rw [fits, Bool.not_eq_true]

/-- There is one entry for the path. -/
theorem find?_eq_some_of_only {id : EntryId} (hid : id ∈ s.mapped) (hfits : s.fits path id = true)
    (honly : ∀ other ∈ s.mapped, s.fits path other = true → other = id) :
    s.find? path = some id := by
  cases hfind : s.find? path with
  | none => cases hfits.symm.trans (find?_eq_none_iff.mp hfind id hid)
  | some other => rw [honly other (find?_mem hfind) (List.find?_some hfind)]

end Store

/-- The map has the same entries, in whatever order. -/
structure Store.SameMap (s t : Store) : Prop where
  entries : t.entries = s.entries
  mapped : t.mapped.Perm s.mapped
  used : t.used = s.used

/-! ## Turns of a lookup of a file that is not stored -/

/-- The tally after so many more misses, loads and bypasses. -/
def Tally.billed (t : Tally) (misses loads bypasses : Nat) : Tally :=
  { t with
    misses := t.misses + misses
    diskLoads := t.diskLoads + loads
    bypasses := t.bypasses + bypasses }

theorem Tally.billed_billed (t : Tally) (a b c m l k : Nat) :
    (t.billed a b c).billed m l k = t.billed (a + m) (b + l) (c + k) := by
  simp only [billed, Nat.add_assoc]

namespace Lookup

/-- Whether a lookup that loads has counted its miss. -/
def hasMissed : Lookup → Bool
  | .loading _ _ => true
  | .storing _ _ => true
  | .leaving _ _ => true
  | .done _ => true
  | _ => false

/-- Whether it has read the file. -/
def hasFetched : Lookup → Bool
  | .storing _ _ => true
  | .leaving _ _ => true
  | .done _ => true
  | _ => false

def hasAnswered : Lookup → Bool
  | .leaving _ _ => true
  | .done _ => true
  | _ => false

/-- Whether a lookup that loads has performed an operation on the file. -/
def hasRead : Lookup → Bool
  | .loading _ r => r ≠ .opening
  | .storing _ _ => true
  | .leaving _ _ => true
  | .done _ => true
  | _ => false

/-- Where a lookup can stand while the path has no entry. -/
def Misses (d : Disk) (path : Path) (limits : Limits) : Lookup → Prop
  | .found _ _ => False
  | .bypassing _ _ => False
  | .loading _ r => r.Leads d path
  | .storing _ copy => d.read path = .copy copy ∧ copy.size ≤ limits.maxFile
  | .leaving _ answer => answer = d.answer path
  | .done answer => answer = d.answer path
  | _ => True

/-- Where a lookup can stand once somebody has stored a copy. -/
def Shares (copy : Copy) (id : EntryId) : Lookup → Prop
  | .found _ other => other = id
  | .loading _ _ => False
  | .storing _ _ => False
  | .bypassing _ _ => False
  | .leaving _ answer => answer = some copy
  | .done answer => answer = some copy
  | _ => True

theorem hasMissed_of_hasFetched {phase : Lookup} (h : phase.hasFetched = true) :
    phase.hasMissed = true := by
  cases phase <;> first | rfl | cases h

theorem hasMissed_of_hasRead {phase : Lookup} (h : phase.hasRead = true) :
    phase.hasMissed = true := by
  cases phase <;> first | rfl | cases h

theorem loads_of_hasMissed {phase : Lookup} (h : phase.hasMissed = true)
    (hopen : phase.hasAnswered = false) : phase.loads = true := by
  cases phase with
  | loading => rfl
  | storing => rfl
  | leaving => cases hopen
  | done => cases hopen
  | _ => cases h

/-- Who waits for somebody else to load shares what that one stores. -/
theorem Misses.shares {d : Disk} {path : Path} {limits : Limits} {phase : Lookup}
    (h : phase.Misses d path limits) (hmissed : phase.hasMissed = false) (copy : Copy)
    (id : EntryId) : phase.Shares copy id := by
  cases phase <;> trivial

variable {now : Nat} {disk : Disk} {path : Path} {s t : Store} {phase next : Lookup}

/-- A turn of a lookup while the path has no entry: it stores its copy, or is billed for what it
has done. -/
inductive Bills (now : Nat) (disk : Disk) (path : Path) (s : Store) (phase next : Lookup)
    (t : Store) : Prop
  | stores {gate : GateId} {copy : Copy} (hphase : phase = .storing gate copy)
      (hnext : next = .leaving gate (some copy)) (haccepts : s.accepts path copy = true)
      (halike : Alike (s.insert now path copy) t) (htally : t.tally = s.tally)
  | goes (misses loads bypasses : Nat) (halike : Alike s t)
      (hnext : next.Misses disk path s.limits)
      (hmissed : next.hasMissed.toNat = phase.hasMissed.toNat + misses)
      (hfetched : ((disk.answer path).isSome && next.hasFetched).toNat =
        ((disk.answer path).isSome && phase.hasFetched).toNat + loads)
      (hanswered : ((disk.answer path).isSome && next.hasAnswered).toNat =
        ((disk.answer path).isSome && phase.hasAnswered).toNat + bypasses)
      (htally : t.tally = s.tally.billed misses loads bypasses)
      (hvain : phase.hasAnswered = false → next.hasAnswered = true → ∀ copy,
        disk.read path = .copy copy → copy.size ≤ s.limits.maxFile →
          s.accepts path copy = false)

theorem Course.bills (h : Course now disk path s phase next t) (hon : s.enabled = true)
    (hfind : s.find? path = none) (hphase : phase.Misses disk path s.limits) :
    Bills now disk path s phase next t := by
  have hcopy {copy : Copy} (hread : disk.read path = .copy copy) :
      disk.answer path = some copy := by rw [Disk.answer, hread, ReadResult.answer]
  -- nobody who has not had the answer before has it now
  have hopen {before after : Lookup} (hafter : after.hasAnswered = false) :
      before.hasAnswered = false → after.hasAnswered = true → ∀ copy,
        disk.read path = .copy copy → copy.size ≤ s.limits.maxFile →
          s.accepts path copy = false := by
    intro _ h
    cases hafter.symm.trans h
  cases h with
  | enter => exact .goes 0 0 0 (.refl s) trivial rfl rfl rfl rfl (hopen rfl)
  | passBy hoff => cases hon.symm.trans hoff
  | find hfound => cases hfind.symm.trans hfound
  | miss => exact .goes 0 0 0 (.refl s) trivial rfl rfl rfl rfl (hopen rfl)
  | take => exact hphase.elim
  | reload => exact hphase.elim
  | arrive =>
    exact .goes 0 0 0 (Store.alike_arrive path s) trivial rfl rfl rfl
      (Store.tally_arrive path s) (hopen rfl)
  | pass => exact .goes 0 0 0 (Store.alike_lock _ s) trivial rfl rfl rfl rfl (hopen rfl)
  | findAgain hfound => cases hfind.symm.trans hfound
  | load =>
    exact .goes 1 0 0 (Store.alike_count _ s) (Reading.leads_opening disk path) rfl rfl rfl rfl
      (hopen rfl)
  | read hr => exact .goes 0 0 0 (.refl s) (hphase.advance hr) rfl rfl rfl rfl (hopen rfl)
  | keep hr hsize =>
    have hanswer := hcopy (hphase.result hr)
    exact .goes 0 1 0 (Store.alike_count _ s) ⟨hphase.result hr, hsize⟩ rfl
      (by rw [hanswer]; rfl) (by rw [hanswer]; rfl) rfl (hopen rfl)
  | outsized hr hsize =>
    have hread := hphase.result hr
    have hanswer := hcopy hread
    refine .goes 0 1 1 (((Store.alike_count _ s).trans (Store.alike_count _ _)).trans
      (Store.alike_unlock _ _)) hanswer.symm rfl (by rw [hanswer]; rfl) (by rw [hanswer]; rfl) rfl
      fun _ _ other hother hle => ?_
    cases hread.symm.trans hother
    exact absurd hle (Nat.not_le.mpr hsize)
  | vain hr hresult =>
    have hanswer : disk.answer path = none := by rw [Disk.answer, hphase.result hr, hresult]
    refine .goes 0 0 0 (Store.alike_unlock _ s) hanswer.symm rfl (by rw [hanswer]; rfl)
      (by rw [hanswer]; rfl) rfl fun _ _ other hother => ?_
    cases hanswer.symm.trans (hcopy hother)
  | insert haccepts => exact .stores rfl rfl haccepts (Store.alike_unlock _ _) rfl
  | refuse hrefused =>
    have hanswer := hcopy hphase.1
    refine .goes 0 0 1 ((Store.alike_count _ s).trans (Store.alike_unlock _ _)) hanswer.symm rfl
      rfl (by rw [hanswer]; rfl) rfl fun _ _ other hother _ => ?_
    cases hphase.1.symm.trans hother
    exact hrefused
  | readAside => exact hphase.elim
  | answer => exact hphase.elim
  | leave =>
    exact .goes 0 0 0 (Store.alike_leave _ path s) hphase rfl rfl rfl
      (Store.tally_leave _ path s) fun h => by cases h

/-- A lookup has read the file once it has performed an operation on it. -/
theorem Course.hasRead (h : Course now disk path s phase next t) (hon : s.enabled = true)
    (hfind : s.find? path = none) (hphase : phase.Misses disk path s.limits) :
    next.hasRead = (phase.hasRead || phase.op?.isSome) := by
  have hbegun (r : Reading) : (decide (r ≠ .opening) || r.op?.isSome) = true := by
    cases r <;> rfl
  cases h with
  | passBy hoff => cases hon.symm.trans hoff
  | find hfound => cases hfind.symm.trans hfound
  | take => exact hphase.elim
  | reload => exact hphase.elim
  | findAgain hfound => cases hfind.symm.trans hfound
  | @read gate r r' hr hgo =>
    have hne : r' ≠ .opening := by
      have hcourse := Reading.advance_course disk path r
      rw [hr] at hcourse
      rintro rfl
      cases hcourse
    exact (decide_eq_true hne).trans (hbegun r).symm
  | @keep gate r copy hr hsize => exact (hbegun r).symm
  | @outsized gate r copy hr hsize => exact (hbegun r).symm
  | @vain gate r result hr hresult => exact (hbegun r).symm
  | readAside => exact hphase.elim
  | answer => exact hphase.elim
  | _ => rfl

/-- A turn of a lookup once somebody has stored a copy: all that it can be counted as is a hit. -/
theorem Course.shares (h : Course now disk path s phase next t) (hon : s.enabled = true)
    {id : EntryId} {e : Entry} {copy : Copy} (hfind : s.find? path = some id)
    (he : s.entry? id = some e) (hcontent : e.content = .present copy)
    (hphase : phase.Shares copy id) :
    next.Shares copy id ∧ phase.op? = none ∧ (Alike s t ∨ Alike (s.markUsed now id) t) ∧
      ∃ hits, next.hasAnswered.toNat = phase.hasAnswered.toNat + hits ∧
        t.tally = { s.tally with hits := s.tally.hits + hits } := by
  cases h with
  | enter => exact ⟨trivial, rfl, .inl (.refl s), 0, rfl, rfl⟩
  | passBy hoff => cases hon.symm.trans hoff
  | find hfound =>
    cases hfind.symm.trans hfound
    exact ⟨rfl, rfl, .inl (.refl s), 0, rfl, rfl⟩
  | miss hnone => cases hfind.symm.trans hnone
  | @take gate _ e' answer he' hanswer =>
    cases hphase
    cases he.symm.trans he'
    rw [hcontent] at hanswer ⊢
    cases hanswer
    cases gate with
    | none => exact ⟨rfl, rfl, .inr (Store.alike_count _ _), 1, rfl, rfl⟩
    | some g =>
      exact ⟨rfl, rfl, .inr ((Store.alike_count _ _).trans (Store.alike_unlock g _)), 1, rfl, rfl⟩
  | reload he' hreloading =>
    cases hphase
    cases he.symm.trans he'
    cases hcontent.symm.trans hreloading
  | arrive =>
    exact ⟨trivial, rfl, .inl (Store.alike_arrive path s), 0, rfl, Store.tally_arrive path s⟩
  | pass => exact ⟨trivial, rfl, .inl (Store.alike_lock _ s), 0, rfl, rfl⟩
  | findAgain hfound =>
    cases hfind.symm.trans hfound
    exact ⟨rfl, rfl, .inl (.refl s), 0, rfl, rfl⟩
  | load hnone => cases hfind.symm.trans hnone
  | leave =>
    exact ⟨hphase, rfl, .inl (Store.alike_leave _ path s), 0, rfl, Store.tally_leave _ path s⟩
  | _ => exact hphase.elim

end Lookup

namespace World

variable {w u v v' : World} {path : Path} {event : Event} {events : List Event}
  {notices more : List Notice} {id : CallId} {phase : Lookup} {copy : Copy}

/-! ## Who has read the file -/

/-- A lookup performs an operation on the file in the course of a run. -/
def ReadsFile (w : World) (id : CallId) (events : List Event) : Prop :=
  ∃ x ∈ w.turnsOf (.call id) events, ∃ l, x.lookup? id = some l ∧ l.2.op?.isSome = true

theorem isTurnOf_iff {agent : Agent} : event.isTurnOf agent = true ↔ event = .turn agent := by
  cases event <;> simp [Event.isTurnOf]

theorem readsFile_snoc (hrun : w.run events = some (v, notices))
    (happly : v.apply event = some (v', more)) :
    w.ReadsFile id (events ++ [event]) ↔ w.ReadsFile id events ∨
      (event = .turn (.call id) ∧ ∃ l, v.lookup? id = some l ∧ l.2.op?.isSome = true) := by
  rw [ReadsFile, turnsOf_snoc _ hrun happly, ReadsFile]
  cases hturn : event.isTurnOf (.call id) with
  | true => simp [isTurnOf_iff.mp hturn, or_and_right, exists_or]
  | false =>
    have hother : event ≠ .turn (.call id) := fun h => by
      rw [isTurnOf_iff.mpr h] at hturn
      cases hturn
    simp [hother]

/-! ## Before a copy is stored -/

/-- Nobody has stored a copy since `u`. -/
structure Missing (u : World) (path : Path) (events : List Event) (v : World) : Prop
    extends Store.SameMap u.store v.store where
  tally : v.store.tally = u.store.tally.billed (v.crowd u.calls.length path Lookup.hasMissed)
    (v.crowd u.calls.length path fun l => (u.disk.answer path).isSome && l.hasFetched)
    (v.crowd u.calls.length path fun l => (u.disk.answer path).isSome && l.hasAnswered)
  phases : ∀ id phase, v.InCrowd u.calls.length path id phase →
    phase.Misses u.disk path u.store.limits
  readers : ∀ id, u.ReadsFile id events ↔
    ∃ phase, v.InCrowd u.calls.length path id phase ∧ phase.hasRead = true

/-- Somebody has stored the copy since `u`. -/
structure Stored (u : World) (path : Path) (copy : Copy) (events : List Event) (v : World) :
    Prop where
  entry : ∃ e, v.store.entries = u.store.entries ++ [e] ∧ e.path = path ∧
    e.content = .present copy
  mapped : v.store.mapped.Perm (u.store.entries.length :: u.store.mapped)
  used : v.store.used = u.store.used + copy.size
  tally : ∃ hits, v.crowd u.calls.length path Lookup.hasAnswered = hits + 1 ∧
    v.store.tally = { u.store.tally with
      misses := u.store.tally.misses + 1
      diskLoads := u.store.tally.diskLoads + 1
      hits := u.store.tally.hits + hits }
  phases : ∀ id phase, v.InCrowd u.calls.length path id phase →
    phase.Shares copy u.store.entries.length
  reader : ∃ reader phase, v.InCrowd u.calls.length path reader phase ∧
    ∀ id, u.ReadsFile id events ↔ id = reader

/-- The path has neither an entry nor a gate. -/
structure Uncached (u : World) (path : Path) : Prop where
  orderly : u.store.Orderly
  gated : u.Gated
  entry : u.store.find? path = none
  gate : u.store.findGate? path = none

theorem Uncached.fits (hu : u.Uncached path) {s : Store} {id : EntryId}
    (hid : id ∈ u.store.mapped) (hentry : s.entry? id = u.store.entry? id) :
    s.fits path id = false := by
  rw [Store.fits, hentry]
  exact Store.find?_eq_none_iff.mp hu.entry id hid

/-- While nobody has an answer, one lookup at a time has counted its miss. -/
theorem Gated.only_misses (hv : v.Gated) {first : CallId}
    (hquiet : ∀ id phase, v.InCrowd first path id phase → phase.hasAnswered = false)
    {gate : GateId} (hid : v.InCrowd first path id (.storing gate copy)) {other : CallId}
    (hother : v.InCrowd first path other phase) (hmissed : phase.hasMissed = true) :
    other = id := by
  have hloads : v.Loads other path :=
    ⟨phase, hother.2, Lookup.loads_of_hasMissed hmissed (hquiet other phase hother)⟩
  obtain ⟨g, hholds⟩ := hloads.holds
  have hmine : v.Holds id path gate := ⟨_, hid.2, rfl⟩
  have hsame := hv.same_gate hholds.knows hmine.knows path.same_refl
  exact hv.alone other path id path g hholds (hsame ▸ hmine)

namespace Missing

theorem refl (u : World) (path : Path) : Missing u path [] u := by
  have hnobody (at? : Lookup → Bool) : u.crowd u.calls.length path at? = 0 :=
    crowd_eq_zero fun id phase hid => absurd hid (u.not_inCrowd path id phase)
  refine ⟨⟨rfl, .refl _, rfl⟩, ?_, fun id phase hid => absurd hid (u.not_inCrowd path id phase),
    fun id => ?_⟩
  · rw [hnobody, hnobody, hnobody]
    rfl
  · constructor
    · rintro ⟨x, hx, -⟩
      cases hx
    · rintro ⟨phase, hid, -⟩
      exact absurd hid (u.not_inCrowd path id phase)

theorem find? (h : Missing u path events v) (hu : u.Uncached path) :
    v.store.find? path = none := by
  refine Store.find?_eq_none_iff.mpr fun id hid => hu.fits (h.mapped.mem_iff.mp hid) ?_
  rw [Store.entry?, h.entries, Store.entry?]

theorem aside (h : Missing u path events v) (haside : Aside u.calls.length path v v')
    (hother : ∀ id l, v.lookup? id = some l → event ≠ .turn (.call id))
    (hrun : u.run events = some (v, notices)) (happly : v.apply event = some (v', more)) :
    Missing u path (events ++ [event]) v' where
  entries := haside.entries.trans h.entries
  mapped := haside.mapped.trans h.mapped
  used := haside.used.trans h.used
  tally := by
    rw [haside.tally, h.tally, haside.crowd _ rfl, haside.crowd _ (Bool.and_false _),
      haside.crowd _ (Bool.and_false _)]
  phases id phase hid := by
    rcases haside.inCrowd hid with hold | rfl
    · exact h.phases id phase hold
    · trivial
  readers id := by
    rw [readsFile_snoc hrun happly, h.readers]
    constructor
    · rintro (⟨phase, ⟨hle, hat⟩, hread⟩ | ⟨hevent, l, hat, -⟩)
      · exact ⟨phase, ⟨hle, haside.kept id _ hat⟩, hread⟩
      · exact absurd hevent (hother id l hat)
    · rintro ⟨phase, hid, hread⟩
      rcases haside.inCrowd hid with hold | rfl
      · exact .inl ⟨phase, hold, hread⟩
      · cases hread

/-- A turn of a lookup in the crowd.  If it does not store a copy that could be stored, it has no
answer after it either. -/
theorem turn (h : Missing u path events v) (hu : u.Uncached path) (hdisk : v.disk = u.disk)
    (hlimits : v.store.limits = u.store.limits) (hon : v.store.enabled = true)
    (hrun : u.run events = some (v, notices)) {st : Step Lookup}
    (happly : v.apply (.turn (.call id)) = some (v', more))
    (hturn : CrowdTurn u.calls.length path v v' id phase st) :
    (∃ gate copy, phase = .storing gate copy ∧ st.next = .leaving gate (some copy) ∧
      v.store.accepts path copy = true ∧ Alike (v.store.insert v.now path copy) st.store ∧
      st.store.tally = v.store.tally) ∨
    (Missing u path (events ++ [.turn (.call id)]) v' ∧
      (phase.hasAnswered = false → st.next.hasAnswered = true → ∀ copy,
        u.disk.read path = .copy copy → copy.size ≤ u.store.limits.maxFile →
          v.store.accepts path copy = false)) := by
  have hphase := h.phases id phase hturn.before
  have hcourse := Lookup.step_course hturn.step
  rw [← hdisk, ← hlimits] at hphase
  have hread := hcourse.hasRead hon (h.find? hu) hphase
  cases hcourse.bills hon (h.find? hu) hphase with
  | stores hstoring hleaving haccepts halike htally =>
    exact .inl ⟨_, _, hstoring, hleaving, haccepts, halike, htally⟩
  | goes misses loads bypasses halike hnext hmissed hfetched hanswered htally hvain =>
    rw [hdisk, hlimits] at hnext hvain
    rw [hdisk] at hfetched hanswered
    refine .inr ⟨⟨⟨?_, ?_, ?_⟩, ?_, ?_, ?_⟩, hvain⟩
    · rw [hturn.store, halike.entries, h.entries]
    · rw [hturn.store, halike.mapped]
      exact h.mapped
    · rw [hturn.store, halike.used, h.used]
    · obtain ⟨a, hbefore, hafter⟩ := hturn.crowd Lookup.hasMissed
      obtain ⟨b, hbefore', hafter'⟩ :=
        hturn.crowd fun l => (u.disk.answer path).isSome && l.hasFetched
      obtain ⟨c, hbefore'', hafter''⟩ :=
        hturn.crowd fun l => (u.disk.answer path).isSome && l.hasAnswered
      rw [hturn.store, htally, h.tally, Tally.billed_billed, hbefore, hbefore', hbefore'', hafter,
        hafter', hafter'', hmissed, hfetched, hanswered]
      simp only [Nat.add_assoc]
    · intro other phase' hid
      rcases hturn.inCrowd hid with ⟨rfl, rfl⟩ | ⟨-, hold⟩
      · exact hnext
      · exact h.phases other phase' hold
    · intro other
      rw [readsFile_snoc hrun happly, h.readers]
      constructor
      · rintro (⟨phase', hid, hhas⟩ | ⟨hevent, l, hat, hop⟩)
        · by_cases hother : other = id
          · subst hother
            cases hturn.before.2.symm.trans hid.2
            exact ⟨st.next, ⟨hid.1, hturn.next⟩, by rw [hread, hhas, Bool.true_or]⟩
          · exact ⟨phase', ⟨hid.1, (hturn.others other hother).trans hid.2⟩, hhas⟩
        · cases hevent
          cases hturn.before.2.symm.trans hat
          exact ⟨st.next, ⟨hturn.before.1, hturn.next⟩, by rw [hread, hop, Bool.or_true]⟩
      · rintro ⟨phase', hid, hhas⟩
        rcases hturn.inCrowd hid with ⟨rfl, rfl⟩ | ⟨-, hold⟩
        · rw [hread, Bool.or_eq_true] at hhas
          rcases hhas with hhas | hop
          · exact .inl ⟨phase, hturn.before, hhas⟩
          · exact .inr ⟨rfl, _, hturn.before.2, hop⟩
        · exact .inl ⟨phase', hold, hhas⟩

/-- A copy is stored before anybody has an answer: by the only one who has read the file. -/
theorem stores (h : Missing u path events v) (hv : v.Gated)
    (hquiet : ∀ id phase, v.InCrowd u.calls.length path id phase → phase.hasAnswered = false)
    (hrun : u.run events = some (v, notices)) {st : Step Lookup}
    (happly : v.apply (.turn (.call id)) = some (v', more)) {gate : GateId}
    (hturn : CrowdTurn u.calls.length path v v' id (.storing gate copy) st)
    (hnext : st.next = .leaving gate (some copy))
    (halike : Alike (v.store.insert v.now path copy) st.store)
    (htally : st.store.tally = v.store.tally) :
    Stored u path copy (events ++ [.turn (.call id)]) v' := by
  have hid := hturn.before
  have honly {other : CallId} {phase : Lookup}
      (hother : v.InCrowd u.calls.length path other phase) (hmissed : phase.hasMissed = true) :
      other = id := hv.only_misses hquiet hid hother hmissed
  have hcopy : (u.disk.answer path).isSome = true := by
    rw [Disk.answer, (h.phases id _ hid).1]
    rfl
  have hmissed : v.crowd u.calls.length path Lookup.hasMissed = 1 :=
    crowd_eq_one hid rfl fun other phase => honly
  have hfetched : v.crowd u.calls.length path
      (fun l => (u.disk.answer path).isSome && l.hasFetched) = 1 := by
    refine crowd_eq_one hid ?_ fun other phase hother hfetched => honly hother ?_
    · rw [hcopy]
      rfl
    · rw [hcopy, Bool.true_and] at hfetched
      exact Lookup.hasMissed_of_hasFetched hfetched
  have hnobody : v.crowd u.calls.length path Lookup.hasAnswered = 0 := crowd_eq_zero hquiet
  have hanswered : v.crowd u.calls.length path
      (fun l => (u.disk.answer path).isSome && l.hasAnswered) = 0 := by
    refine crowd_eq_zero fun other phase hother => ?_
    rw [hquiet other phase hother, Bool.and_false]
  constructor
  case entry =>
    refine ⟨Entry.ofCopy v.now path copy, ?_, rfl, rfl⟩
    rw [hturn.store, halike.entries, Store.insert, h.entries]
  case mapped =>
    rw [hturn.store, halike.mapped, Store.insert, h.entries]
    exact (List.perm_append_singleton _ _).trans (h.mapped.cons _)
  case used => rw [hturn.store, halike.used, Store.insert, h.used]
  case tally =>
    obtain ⟨others, hbefore, hafter⟩ := hturn.crowd Lookup.hasAnswered
    refine ⟨0, ?_, ?_⟩
    · rw [hafter, hnext, ← hnobody, hbefore]
      rfl
    · rw [hturn.store, htally, h.tally, hmissed, hfetched, hanswered]
      rfl
  case phases =>
    intro other phase hother
    rcases hturn.inCrowd hother with ⟨rfl, rfl⟩ | ⟨hne, hold⟩
    · rw [hnext]
      rfl
    · refine (h.phases other phase hold).shares (Bool.eq_false_iff.mpr fun hmissed => ?_) _ _
      exact hne (honly hold hmissed)
  case reader =>
    refine ⟨id, st.next, ⟨hid.1, hturn.next⟩, fun other => ?_⟩
    rw [readsFile_snoc hrun happly, h.readers]
    constructor
    · rintro (⟨phase, hother, hhas⟩ | ⟨hevent, -⟩)
      · exact honly hother (Lookup.hasMissed_of_hasRead hhas)
      · cases hevent
        rfl
    · rintro rfl
      exact .inl ⟨_, hid, rfl⟩

end Missing

namespace Stored

theorem aside (h : Stored u path copy events v) (haside : Aside u.calls.length path v v')
    (hother : ∀ id l, v.lookup? id = some l → event ≠ .turn (.call id))
    (hrun : u.run events = some (v, notices)) (happly : v.apply event = some (v', more)) :
    Stored u path copy (events ++ [event]) v' where
  entry := by
    rw [haside.entries]
    exact h.entry
  mapped := haside.mapped.trans h.mapped
  used := haside.used.trans h.used
  tally := by
    rw [haside.tally, haside.crowd _ rfl]
    exact h.tally
  phases id phase hid := by
    rcases haside.inCrowd hid with hold | rfl
    · exact h.phases id phase hold
    · trivial
  reader := by
    obtain ⟨reader, phase, hin, hreader⟩ := h.reader
    refine ⟨reader, phase, haside.inCrowd_kept hin, fun id => ?_⟩
    rw [readsFile_snoc hrun happly, hreader]
    refine or_iff_left ?_
    rintro ⟨hevent, l, hat, -⟩
    exact hother id l hat hevent

/-- The entry that was stored is the only one for the path. -/
theorem find? (h : Stored u path copy events v) (hu : u.Uncached path) :
    v.store.find? path = some u.store.entries.length ∧
      ∃ e, v.store.entry? u.store.entries.length = some e ∧ e.content = .present copy := by
  obtain ⟨e, hentries, hpath, hcontent⟩ := h.entry
  have hentry : v.store.entry? u.store.entries.length = some e := by
    rw [Store.entry?, hentries, List.getElem?_concat_length]
  refine ⟨Store.find?_eq_some_of_only ?_ ?_ ?_, e, hentry, hcontent⟩
  · exact h.mapped.mem_iff.mpr List.mem_cons_self
  · rw [Store.fits, hentry, Option.any_some, hpath]
    exact path.same_refl
  · intro other hother hfits
    rcases List.mem_cons.mp (h.mapped.mem_iff.mp hother) with rfl | hold
    · rfl
    · have hlt := hu.orderly.known other hold
      have hsame : v.store.entry? other = u.store.entry? other := by
        rw [Store.entry?, hentries, List.getElem?_append_left hlt, Store.entry?]
      cases (hu.fits hold hsame).symm.trans hfits

theorem turn (h : Stored u path copy events v) (hu : u.Uncached path)
    (hon : v.store.enabled = true) (hrun : u.run events = some (v, notices)) {st : Step Lookup}
    (happly : v.apply (.turn (.call id)) = some (v', more))
    (hturn : CrowdTurn u.calls.length path v v' id phase st) :
    Stored u path copy (events ++ [.turn (.call id)]) v' := by
  obtain ⟨hfind, e, he, hcontent⟩ := h.find? hu
  obtain ⟨hnext, hop, halike, hits, hanswered, htally⟩ :=
    (Lookup.step_course hturn.step).shares hon hfind he hcontent (h.phases id phase hturn.before)
  constructor
  case entry =>
    obtain ⟨e, hentries, hpath, hcontent⟩ := h.entry
    rw [hturn.store]
    rcases halike with halike | halike
    · rw [halike.entries]
      exact ⟨e, hentries, hpath, hcontent⟩
    · refine ⟨e.markUsed v.now, ?_, hpath, hcontent⟩
      rw [halike.entries, Store.markUsed, Store.modify, hentries,
        List.modify_eq_take_cons_drop (by simp)]
      simp
  case mapped =>
    rw [hturn.store]
    rcases halike with halike | halike
    · rw [halike.mapped]
      exact h.mapped
    · rw [halike.mapped]
      exact h.mapped
  case used =>
    rw [hturn.store]
    rcases halike with halike | halike
    · rw [halike.used, h.used]
    · rw [halike.used]
      exact h.used
  case tally =>
    obtain ⟨earlier, hcount, htally'⟩ := h.tally
    obtain ⟨others, hbefore, hafter⟩ := hturn.crowd Lookup.hasAnswered
    refine ⟨earlier + hits, by omega, ?_⟩
    rw [hturn.store, htally, htally']
    simp only [Nat.add_assoc]
  case phases =>
    intro other phase' hother
    rcases hturn.inCrowd hother with ⟨rfl, rfl⟩ | ⟨-, hold⟩
    · exact hnext
    · exact h.phases other phase' hold
  case reader =>
    obtain ⟨reader, phase', hin, hreader⟩ := h.reader
    obtain ⟨after, hin'⟩ := hturn.inCrowd_kept hin
    refine ⟨reader, after, hin', fun other => ?_⟩
    rw [readsFile_snoc hrun happly, hreader]
    refine or_iff_left ?_
    rintro ⟨hevent, l, hat, hsome⟩
    cases hevent
    cases hturn.before.2.symm.trans hat
    rw [hop] at hsome
    cases hsome

end Stored

/-! ## Runs -/

/-- The file can be stored. -/
def Admits (u : World) (path : Path) (copy : Copy) : Prop :=
  u.disk.read path = .copy copy ∧ copy.size ≤ u.store.limits.maxFile ∧
    u.store.used + copy.size ≤ u.store.limits.capacity

/-- How far a crowd has come: nobody has stored a copy, nor has an answer if one can be stored, or
somebody has. -/
inductive Stage (u : World) (path : Path) (events : List Event) (v : World) : Prop
  | missing (h : Missing u path events v) (hquiet : ∀ copy, u.Admits path copy →
      ∀ id phase, v.InCrowd u.calls.length path id phase → phase.hasAnswered = false)
  | stored {copy : Copy} (hfits : u.Admits path copy) (h : Stored u path copy events v)

/-- Once somebody has an answer, a copy that can be stored is stored. -/
theorem Stage.isStored (h : Stage u path events v) (hadmits : u.Admits path copy)
    (hsome : 1 ≤ v.crowd u.calls.length path Lookup.hasAnswered) :
    Stored u path copy events v := by
  cases h with
  | missing _ hquiet =>
    rw [crowd_eq_zero (hquiet copy hadmits)] at hsome
    cases hsome
  | stored hother h =>
    cases hadmits.1.symm.trans hother.1
    exact h

theorem Stage.isMissing (h : Stage u path events v) (hrefused : ∀ copy, ¬ u.Admits path copy) :
    Missing u path events v := by
  cases h with
  | missing h => exact h
  | stored hother => exact absurd hother (hrefused _)

theorem Missing.accepts_iff (h : Missing u path events v) (hu : u.Uncached path)
    (hlimits : v.store.limits = u.store.limits) (hon : v.store.enabled = true) (copy : Copy) :
    v.store.accepts path copy = true ↔
      u.store.used + copy.size ≤ u.store.limits.capacity := by
  simp [Store.accepts, hon, h.find? hu, h.used, hlimits]

theorem Stage.snoc (h : Stage u path events v) (hu : u.Uncached path) (hv : v.Gated)
    (hcrowd : Crowd u path events v) (hlimits : v.store.limits = u.store.limits)
    (hon : v.store.enabled = true) (hrun : u.run events = some (v, notices))
    (happly : v.apply event = some (v', more))
    (hadvances : Advances u.calls.length path v event v') :
    Stage u path (events ++ [event]) v' := by
  cases hadvances with
  | aside haside hother =>
    cases h with
    | stored hfits h => exact .stored hfits (h.aside haside hother hrun happly)
    | missing h hquiet =>
      refine .missing (h.aside haside hother hrun happly) fun copy hfits id phase hid => ?_
      rcases haside.inCrowd hid with hold | rfl
      · exact hquiet copy hfits id phase hold
      · rfl
  | @goes id phase st hevent hturn =>
    subst hevent
    cases h with
    | stored hfits h => exact .stored hfits (h.turn hu hon hrun happly hturn)
    | missing h hquiet =>
      have haccepts := h.accepts_iff hu hlimits hon
      rcases h.turn hu hcrowd.disk hlimits hon hrun happly hturn with
        ⟨gate, copy, rfl, hnext, hroom, halike, htally⟩ | ⟨hmissing, hvain⟩
      · obtain ⟨hread, hsize⟩ := h.phases id _ hturn.before
        have hfits : u.Admits path copy := ⟨hread, hsize, (haccepts copy).mp hroom⟩
        exact .stored hfits
          (h.stores hv (hquiet copy hfits) hrun happly hturn hnext halike htally)
      · refine .missing hmissing fun copy hfits other phase' hother => ?_
        rcases hturn.inCrowd hother with ⟨rfl, rfl⟩ | ⟨-, hold⟩
        · refine Bool.eq_false_iff.mpr fun hanswered => ?_
          have hopen := hquiet copy hfits other phase hturn.before
          have hrefused := hvain hopen hanswered copy hfits.1 hfits.2.1
          cases hrefused.symm.trans ((haccepts copy).mpr hfits.2.2)
        · exact hquiet copy hfits other phase' hold

theorem stage_of_run (hu : u.Uncached path) (hgated : ∀ x ∈ u.passed events, x.Gated)
    (hon : ∀ x ∈ u.passed events, x.store.enabled = true)
    (honly : ∀ h ∈ u.happenings events, h.1.onlyLooksUp u.calls.length path h.2 = true)
    (hrun : u.run events = some (v, notices)) : Crowd u path events v ∧ Stage u path events v := by
  refine run_induction (P := fun events v => (∀ x ∈ u.passed events, x.Gated) →
    (∀ x ∈ u.passed events, x.store.enabled = true) →
    (∀ h ∈ u.happenings events, h.1.onlyLooksUp u.calls.length path h.2 = true) →
      Crowd u path events v ∧ Stage u path events v) ?_ ?_ hrun hgated hon honly
  · exact fun _ _ _ => ⟨.refl u path, .missing (.refl u path) fun _ _ id phase hid =>
      absurd hid (u.not_inCrowd path id phase)⟩
  · intro events v event v' first later hrun happly ih hgated hon honly
    rw [passed_snoc hrun happly] at hgated hon
    rw [happenings_snoc hrun happly] at honly
    obtain ⟨hcrowd, hstage⟩ := ih (fun x hx => hgated x (List.mem_append_left _ hx))
      (fun x hx => hon x (List.mem_append_left _ hx))
      (fun h hh => honly h (List.mem_append_left _ hh))
    have hv : v ∈ u.passed events := mem_passed_of_run hrun
    have hadvances := apply_advances happly
      (honly _ List.mem_concat_self)
    exact ⟨hcrowd.snoc hrun happly hadvances,
      hstage.snoc hu (hgated v (List.mem_append_left _ hv)) hcrowd (limits_passed v hv)
        (hon v (List.mem_append_left _ hv)) hrun happly hadvances⟩

/-- All lookups of the crowd have their answers. -/
def CrowdAnswered (w : World) (first : CallId) (path : Path) : Prop :=
  ∀ id phase, w.InCrowd first path id phase → phase.answer?.isSome = true

theorem CrowdAnswered.done {first : CallId} (h : v.CrowdAnswered first path)
    (hid : v.InCrowd first path id phase) : ∃ answer, phase = .done answer := by
  have hanswered := h id phase hid
  cases phase with
  | done answer => exact ⟨answer, rfl⟩
  | _ => cases hanswered

theorem CrowdAnswered.count {first : CallId} (h : v.CrowdAnswered first path)
    {at? : Lookup → Bool} (hdone : ∀ answer, at? (.done answer) = true) :
    v.crowd first path at? = v.crowd first path fun _ => true := by
  refine crowd_congr fun id phase hid => ?_
  obtain ⟨answer, rfl⟩ := h.done hid
  exact hdone answer

/-- When all have their answers and nobody has stored a copy, everybody has missed, and everybody
has read the copy and kept it out of the map, if there is one. -/
theorem Missing.answered (h : Missing u path events v)
    (hanswered : v.CrowdAnswered u.calls.length path) :
    (∀ id phase, v.InCrowd u.calls.length path id phase →
      phase = .done (u.disk.answer path)) ∧
    v.store.tally = u.store.tally.billed (v.crowd u.calls.length path fun _ => true)
      (if (u.disk.answer path).isSome then v.crowd u.calls.length path fun _ => true else 0)
      (if (u.disk.answer path).isSome then v.crowd u.calls.length path fun _ => true else 0) := by
  refine ⟨fun id phase hid => ?_, ?_⟩
  · obtain ⟨answer, rfl⟩ := hanswered.done hid
    exact congrArg Lookup.done (h.phases id _ hid)
  · rw [h.tally, hanswered.count fun _ => rfl]
    cases (u.disk.answer path).isSome with
    | true =>
      have hfetched : v.crowd u.calls.length path (fun l => true && l.hasFetched) =
        v.crowd u.calls.length path fun _ => true := hanswered.count fun _ => rfl
      have hdone : v.crowd u.calls.length path (fun l => true && l.hasAnswered) =
        v.crowd u.calls.length path fun _ => true := hanswered.count fun _ => rfl
      rw [hfetched, hdone, if_pos rfl]
    | false =>
      have hnobody (p : Lookup → Bool) :
          v.crowd u.calls.length path (fun l => false && p l) = 0 :=
        crowd_eq_zero fun _ _ _ => rfl
      rw [hnobody, hnobody, if_neg Bool.false_ne_true]

/-- When all have their answers and somebody has stored the copy, everybody has the copy, and
everybody else has hit it. -/
theorem Stored.answered (h : Stored u path copy events v)
    (hanswered : v.CrowdAnswered u.calls.length path) :
    (∀ id phase, v.InCrowd u.calls.length path id phase → phase = .done (some copy)) ∧
    v.store.tally = { u.store.tally with
      misses := u.store.tally.misses + 1
      diskLoads := u.store.tally.diskLoads + 1
      hits := u.store.tally.hits + ((v.crowd u.calls.length path fun _ => true) - 1) } := by
  refine ⟨fun id phase hid => ?_, ?_⟩
  · obtain ⟨answer, rfl⟩ := hanswered.done hid
    exact congrArg Lookup.done (h.phases id _ hid)
  · obtain ⟨hits, hcount, htally⟩ := h.tally
    rw [hanswered.count fun _ => rfl] at hcount
    rw [htally, hcount, Nat.add_sub_cancel]

/-- Any number of lookups of a path that has neither an entry nor a gate, in whatever order they
come and go, while nothing else looks at the store, changes it or changes the disk.  None of them
takes more turns than a lookup takes, and as long as one has no answer, one of them can go on.  When
all have their answers, the path has no gate.  If its file could be stored, one of them has read it,
and the others found the entry or waited for it; if it could not, all have read it and bypassed
the store; if there is none, or it cannot be read, all have missed it. -/
theorem misses_coalesce (disk : Disk) (limits : Limits) (wall : Time.Timestamp)
    (before : List Event) (u : World) (early : List Notice)
    (hbefore : (freshOn disk limits wall).run before = some (u, early)) (path : Path)
    (hentry : u.store.find? path = none) (hgate : u.store.findGate? path = none)
    (events : List Event) (v : World) (notices : List Notice)
    (hrun : u.run events = some (v, notices))
    (hon : ∀ x ∈ u.passed events, x.store.enabled = true)
    (honly : ∀ h ∈ u.happenings events, h.1.onlyLooksUp u.calls.length path h.2 = true)
    (n : Nat) (hn : n = v.crowd u.calls.length path fun _ => true) :
    (∀ id phase, v.InCrowd u.calls.length path id phase →
      (u.turnsOf (.call id) events).length + phase.load ≤ 11 ∧
      (phase.answer? = none → ∃ other phase',
        v.InCrowd u.calls.length path other phase' ∧ v.step (.call other) ≠ none)) ∧
    (v.CrowdAnswered u.calls.length path → 1 ≤ n →
      v.store.findGate? path = none ∧
      (∀ copy, u.disk.read path = .copy copy → copy.size ≤ limits.maxFile →
        u.store.used + copy.size ≤ limits.capacity →
        (∀ id phase, v.InCrowd u.calls.length path id phase → phase = .done (some copy)) ∧
        (∃ reader phase, v.InCrowd u.calls.length path reader phase ∧
          ∀ id, u.ReadsFile id events ↔ id = reader) ∧
        v.store.tally = { u.store.tally with
          misses := u.store.tally.misses + 1
          diskLoads := u.store.tally.diskLoads + 1
          hits := u.store.tally.hits + (n - 1) } ∧
        v.store.used = u.store.used + copy.size ∧
        v.store.mapped.Perm (u.store.entries.length :: u.store.mapped) ∧
        ∃ e, v.store.entries = u.store.entries ++ [e] ∧ e.path = path ∧
          e.content = .present copy) ∧
      (∀ copy, u.disk.read path = .copy copy →
        (limits.maxFile < copy.size ∨ limits.capacity < u.store.used + copy.size) →
        (∀ id phase, v.InCrowd u.calls.length path id phase → phase = .done (some copy)) ∧
        v.store.tally = { u.store.tally with
          misses := u.store.tally.misses + n
          diskLoads := u.store.tally.diskLoads + n
          bypasses := u.store.tally.bypasses + n } ∧
        Store.SameMap u.store v.store) ∧
      (u.disk.answer path = none →
        (∀ id phase, v.InCrowd u.calls.length path id phase → phase = .done none) ∧
        v.store.tally = { u.store.tally with misses := u.store.tally.misses + n } ∧
        Store.SameMap u.store v.store)) := by
  have hu : u.Uncached path :=
    { orderly := (Sound.passed u (mem_passed_of_run hbefore)).orderly
      gated := Gated.passed u (mem_passed_of_run hbefore)
      entry := hentry
      gate := hgate }
  have hlimits : u.store.limits = limits := limits_passed u (mem_passed_of_run hbefore)
  have hgated : ∀ x ∈ u.passed events, x.Gated := fun x hx =>
    Gated.passed x (mem_passed_append hbefore hx)
  have hv := mem_passed_of_run hrun
  have hsound : v.Sound := Sound.passed v (mem_passed_append hbefore hv)
  obtain ⟨hcrowd, hstage⟩ := stage_of_run hu hgated hon honly hrun
  refine ⟨fun id phase hid => ⟨hcrowd.few id phase hid, fun hopen =>
    hcrowd.goes hu.gated (hgated v hv) hsound hgate hid hopen⟩, fun hanswered hsome => ?_⟩
  have hcopy {copy : Copy} (hread : u.disk.read path = .copy copy) :
      u.disk.answer path = some copy := by rw [Disk.answer, hread, ReadResult.answer]
  refine ⟨hcrowd.gone hu.gated (hgated v hv) hgate hanswered, ?_, ?_, ?_⟩
  · intro copy hread hsize hroom
    have hadmits : u.Admits path copy := ⟨hread, hlimits ▸ hsize, hlimits ▸ hroom⟩
    have hstored := hstage.isStored hadmits (by rwa [hanswered.count fun _ => rfl, ← hn])
    obtain ⟨hdone, htally⟩ := hstored.answered hanswered
    rw [← hn] at htally
    exact ⟨hdone, hstored.reader, htally, hstored.used, hstored.mapped, hstored.entry⟩
  · intro copy hread hexceeds
    have hmissing := hstage.isMissing fun other hother => by
      cases hread.symm.trans hother.1
      have hsize := hother.2.1
      have hroom := hother.2.2
      rw [hlimits] at hsize hroom
      exact hexceeds.elim (Nat.not_lt.mpr hsize) (Nat.not_lt.mpr hroom)
    obtain ⟨hdone, htally⟩ := hmissing.answered hanswered
    rw [hcopy hread] at hdone htally
    rw [← hn] at htally
    exact ⟨hdone, htally, hmissing.toSameMap⟩
  · intro hnone
    have hmissing := hstage.isMissing fun copy hother => by cases hnone.symm.trans (hcopy hother.1)
    obtain ⟨hdone, htally⟩ := hmissing.answered hanswered
    rw [hnone] at hdone htally
    rw [← hn] at htally
    exact ⟨hdone, htally, hmissing.toSameMap⟩

/-- A store that is on, and a file of four bytes. -/
def opened : List Event :=
  [.edit (.write "a" [1, 1, 1, 1] ⟨1, 0⟩), .call (.toggle true), .turn (.call 0)]

/-- Three lookups come to the gate before the first one passes it. -/
def queued : List Event := List.flatten
  [List.replicate 3 (.call (.lookup ⟨"a"⟩)), List.replicate 3 (.turn (.call 1)),
    List.replicate 3 (.turn (.call 2)), List.replicate 3 (.turn (.call 3)),
    List.replicate 7 (.turn (.call 2)), List.replicate 4 (.turn (.call 3)),
    List.replicate 4 (.turn (.call 1))]

theorem misses_coalesce_queued :
    ∃ u v early notices, (freshOn Disk.empty ⟨7, 10, 1000⟩ ⟨0, 0⟩).run opened = some (u, early) ∧
      u.run queued = some (v, notices) ∧ v.crowd 1 ⟨"a"⟩ (fun _ => true) = 3 ∧
      v.store.findGate? ⟨"a"⟩ = none ∧
      v.store.tally = { u.store.tally with
        misses := u.store.tally.misses + 1
        diskLoads := u.store.tally.diskLoads + 1
        hits := u.store.tally.hits + (3 - 1) } ∧
      ∃ reader, ∀ id, u.ReadsFile id queued ↔ id = reader := by
  have hopened : ((freshOn Disk.empty ⟨7, 10, 1000⟩ ⟨0, 0⟩).run opened).map (fun r =>
      (r.1.disk.read ⟨"a"⟩, r.1.store.used, r.1.calls.length,
        decide (r.1.store.find? ⟨"a"⟩ = none ∧ r.1.store.findGate? ⟨"a"⟩ = none))) =
      some (.copy (.ofBytes [1, 1, 1, 1] ⟨1, 0⟩), 0, 1, true) := by decide +kernel
  have hqueued : ((freshOn Disk.empty ⟨7, 10, 1000⟩ ⟨0, 0⟩).run opened).map (fun r =>
      (decide (∀ x ∈ r.1.passed queued, x.store.enabled = true),
        decide (∀ h ∈ r.1.happenings queued, h.1.onlyLooksUp 1 ⟨"a"⟩ h.2 = true),
        (r.1.run queued).map fun r => (decide r.1.AllAnswered,
          r.1.crowd 1 ⟨"a"⟩ fun _ => true))) =
      some (true, true, some (true, 3)) := by decide +kernel
  obtain ⟨⟨u, early⟩, hbefore, hopened⟩ := Option.map_eq_some_iff.mp hopened
  rw [hbefore, Option.map_some, Option.some.injEq] at hqueued
  simp only [Prod.mk.injEq, decide_eq_true_eq, Option.map_eq_some_iff] at hopened hqueued
  obtain ⟨hread, hused, hcalls, hentry, hgate⟩ := hopened
  obtain ⟨hon, honly, ⟨v, notices⟩, hrun, hanswered, hcount⟩ := hqueued
  rw [← hcalls] at honly hcount
  have hcrowd : v.CrowdAnswered u.calls.length ⟨"a"⟩ := fun id phase hid =>
    hanswered id ⟨"a"⟩ phase hid.2
  obtain ⟨-, hcoalesce⟩ := misses_coalesce Disk.empty ⟨7, 10, 1000⟩ ⟨0, 0⟩ opened u early hbefore
    ⟨"a"⟩ hentry hgate queued v notices hrun hon honly 3 hcount.symm
  obtain ⟨hgone, hfits, -⟩ := hcoalesce hcrowd (by decide)
  obtain ⟨-, ⟨reader, -, -, hreader⟩, htally, -⟩ :=
    hfits _ hread (by decide) (by rw [hused]; decide)
  exact ⟨u, v, early, notices, hbefore, hrun, hcalls ▸ hcount, hgone, htally, reader, hreader⟩

end World
end FileCache
