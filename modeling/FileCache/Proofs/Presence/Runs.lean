import FileCache.Proofs.Presence.Readable
import FileCache.Proofs.Provenance.Evidence
import FileCache.Proofs.World.History

/-!
A file that can be read all the time is never said to be missing.

There are many moments at which an entry has nothing to give: it is being reloaded, it was
evicted, the store was cleared or had no room.  At none of them does a lookup take the
absence of an entry for the absence of the file: it says of a file what a reading came to,
or what an entry says, and an entry is a placeholder only after the disk denied the file.
-/

namespace FileCache

/-- A reading has come upon a file, if upon anything. -/
def Reading.Finds : Reading → Prop
  | .opening => True
  | .measuring handle => ∃ id, handle = .file id
  | .fetching _ _ => True
  | .finished _ => False

/-- What is known of readings while the file at `path` is readable: no spelling of the path is
said to be missing, and under the path itself the file is read. -/
def Evidence.present (path : Path) : Evidence where
  reading _ asked r := asked.same path = true → r.Finds
  result asked result := asked.same path = true →
    result ≠ .absent ∧ (asked = path → ∃ copy, result = .copy copy)
  missing asked := asked.same path = false

variable {d : Disk} {path asked : Path}

/-- A reading that goes on has come upon the file. -/
theorem Reading.Finds.goes {r r' : Reading} (hd : d.Readable path)
    (hsame : asked.same path = true) (hgo : r.advance d asked = r')
    (hnot : ∀ result, r' ≠ .finished result) : r'.Finds := by
  have hcourse := advance_course d asked r
  rw [hgo] at hcourse
  cases hcourse with
  | @opened handle hopen =>
    rcases hd.openPath_same hsame with ⟨id, hok⟩ | ⟨error, herror, -⟩
    · rw [hok] at hopen
      exact ⟨id, (Except.ok.inj hopen).symm⟩
    · rw [herror] at hopen
      cases hopen
  | measured => trivial
  | _ => exact absurd rfl (hnot _)

theorem Reading.Finds.ends {r : Reading} {result : ReadResult} (h : r.Finds)
    (hd : d.Readable path) (hsame : asked.same path = true)
    (hend : r.advance d asked = .finished result) :
    result ≠ .absent ∧ (asked = path → ∃ copy, result = .copy copy) := by
  have hcourse := advance_course d asked r
  rw [hend] at hcourse
  cases hcourse with
  | nowhere hopen =>
    rcases hd.openPath_same hsame with ⟨id, hok⟩ | ⟨error, herror, hne⟩
    · rw [hok] at hopen
      cases hopen
    · rw [herror] at hopen
      exact absurd (Except.error.inj hopen) hne
  | unopened hopen =>
    refine ⟨nofun, ?_⟩
    rintro rfl
    obtain ⟨id, hok⟩ := hd.openPath
    rw [hok] at hopen
    cases hopen
  | @irregular handle status hstat hregular =>
    obtain ⟨id, rfl⟩ := h
    rw [← Disk.statusOf_of_statHandle hstat] at hregular
    cases hregular
  | unmeasured hstat =>
    refine ⟨nofun, ?_⟩
    rintro rfl
    rw [hd.statHandle] at hstat
    cases hstat
  | fetched => exact ⟨nofun, fun _ => ⟨_, rfl⟩⟩
  | unfetched hread =>
    refine ⟨nofun, ?_⟩
    rintro rfl
    rw [hd.readHandle] at hread
    cases hread
  | complete => exact h.elim

/-- Of all turns of a lookup only the one that takes its answer from a placeholder counts as
a negative hit. -/
theorem Lookup.Course.negativeHits {now : Nat} {s t : Store} {phase next : Lookup}
    (h : Lookup.Course now d path s phase next t) :
    t.tally.negativeHits = s.tally.negativeHits ∨
      ∃ gate id e, phase = .found gate id ∧ s.entry? id = some e ∧ e.content = .missing := by
  cases h with
  | @take gate id e answer he hanswer =>
    cases hcontent : e.content with
    | missing => exact .inr ⟨gate, id, e, rfl, he, hcontent⟩
    | present copy => cases gate <;> exact .inl rfl
    | reloading => cases gate <;> exact .inl rfl
  | arrive =>
    refine .inl ?_
    unfold Store.arrive
    split <;> rfl
  | @answer gate => cases gate <;> exact .inl rfl
  | leave =>
    refine .inl ?_
    simp only [Store.leave]
    split <;> rfl
  | _ => exact .inl rfl

namespace World

variable {w v : World} {event : Event} {events : List Event} {disk : Disk} {limits : Limits}
  {wall : Time.Timestamp}

theorem present_grows (hw : w.disk.Readable path) :
    (Evidence.present path).Grows (.present path) w event where
  result _ _ h := h
  missing _ h := h
  absent _ h := Bool.eq_false_iff.mpr fun hsame => (h hsame).1 rfl
  denied _ h := Bool.eq_false_iff.mpr fun hsame => hw.not_denied hsame h
  opening _ _ _ := trivial
  waits _ _ _ _ h _ := h
  goes _ _ _ _ _ _ _ hgo hnot hsame := .goes hw hsame hgo hnot
  ends _ _ _ _ _ h _ hend hsame := (h hsame).ends hw hsame hend

/-- While the file at a path is readable, all that is said of it is that it is there. -/
theorem backed_present
    (hreadable : ∀ v ∈ (freshOn disk limits wall).passed events, v.disk.Readable path) :
    ∀ v ∈ (freshOn disk limits wall).passed events, v.Sound ∧ v.Backed (.present path) := by
  refine passed_induction_of (Q := fun v _ => v.disk.Readable path) ?_ ?_
    ⟨.freshOn disk limits wall, .freshOn _ disk limits wall⟩
  · rintro w event w' notices hw ⟨hsound, hbacked⟩ happly
    exact ⟨hsound.move (apply_move happly), hbacked.apply hsound (present_grows hw) happly⟩
  · intro v event hv
    exact hreadable v (passed_of_mem_happenings hv).1

theorem Backed.not_missing (hv : v.Backed (.present path)) {id : EntryId} {e : Entry}
    (he : v.store.entry? id = some e) (hsame : e.path.same path = true) :
    e.content ≠ .missing := by
  intro hmissing
  have hentry := hv.entries id e he
  rw [hmissing] at hentry
  exact Bool.eq_false_iff.mp hentry hsame

theorem Backed.answers (hv : v.Backed (.present path)) {id : CallId} {answer : Option Copy}
    (hat : v.lookup? id = some (path, .done answer)) : answer ≠ none := by
  rintro rfl
  rcases hv.lookups id path _ hat with
    ⟨result, hresult, hnone⟩ | ⟨kept, content, hsame, hcontent, hnone⟩
  · obtain ⟨copy, rfl⟩ := (hresult (decide_eq_true rfl)).2 rfl
    cases hnone
  · cases content with
    | present copy => cases hnone
    | missing => exact Bool.eq_false_iff.mp hcontent hsame
    | reloading => cases hnone

/-- As long as the file at a path can be read, whatever else happens to it, every lookup of
the path returns a copy, no entry says that the file is missing, and no negative hit is
counted for it. -/
theorem never_missing (disk : Disk) (limits : Limits) (wall : Time.Timestamp)
    (events : List Event) (path : Path)
    (hreadable : ∀ v ∈ (freshOn disk limits wall).passed events, v.disk.Readable path) :
    (∀ v ∈ (freshOn disk limits wall).passed events,
      (∀ id answer, v.lookup? id = some (path, .done answer) → answer ≠ none) ∧
      ∀ id e, v.store.entry? id = some e → e.path.same path = true → e.content ≠ .missing) ∧
    ∀ v id phase v' notices,
      (v, .turn (.call id)) ∈ (freshOn disk limits wall).happenings events →
      v.lookup? id = some (path, phase) → v.apply (.turn (.call id)) = some (v', notices) →
      v'.store.tally.negativeHits = v.store.tally.negativeHits := by
  have hbacked := backed_present hreadable
  refine ⟨fun v hv => ?_, fun v id phase v' notices hmem hat happly => ?_⟩
  · obtain ⟨-, hv⟩ := hbacked v hv
    exact ⟨fun id answer hat => hv.answers hat, fun id e he hsame => hv.not_missing he hsame⟩
  · obtain ⟨-, hv⟩ := hbacked v (passed_of_mem_happenings hmem).1
    obtain ⟨st, hturn⟩ := step_lookup hat happly
    rw [hturn.store]
    rcases (Lookup.step_course hturn.step).negativeHits with
      hkept | ⟨gate, entry, e, rfl, he, hmissing⟩
    · exact hkept
    · obtain ⟨e', he', hsame⟩ := hv.lookups id path _ hat
      rw [he, Option.some.injEq] at he'
      exact absurd hmissing (hv.not_missing he (he' ▸ hsame))

/-- A disk with one file. -/
def lone : Disk := (Disk.empty.edit? (.write "a" [1, 1, 1] ⟨1, 0⟩)).getD Disk.empty

/-- The file is written anew, and looked up when a sweep has given up what its entry held. -/
def vacated : List Event :=
  [Event.call (.toggle true), .turn (.call 0), .call (.lookup ⟨"a"⟩)] ++
  List.replicate 10 (Event.turn (.call 1)) ++
  [Event.edit (.write "a" [2, 2] ⟨2, 0⟩), .call .sweep] ++
  List.replicate 6 (Event.turn (.call 2)) ++
  [Event.call (.lookup ⟨"a"⟩)] ++ List.replicate 6 (Event.turn (.call 3))

theorem never_missing_vacated :
    (∀ v ∈ (freshOn lone ⟨3, 4, 1000⟩ ⟨0, 0⟩).passed vacated, v.disk.Readable ⟨"a"⟩) ∧
    ∃ v ∈ (freshOn lone ⟨3, 4, 1000⟩ ⟨0, 0⟩).passed vacated,
      v.store.entry? 0 = some ⟨⟨"a"⟩, .reloading, 0⟩ ∧
      ∃ answer, v.lookup? 3 = some (⟨"a"⟩, .done answer) ∧ answer ≠ none := by
  have hreadable : ∀ v ∈ (freshOn lone ⟨3, 4, 1000⟩ ⟨0, 0⟩).passed vacated,
      v.disk.Readable ⟨"a"⟩ := by decide +kernel
  have hrun : ((freshOn lone ⟨3, 4, 1000⟩ ⟨0, 0⟩).run vacated).map (fun r =>
      (r.1.store.entry? 0, r.1.lookup? 3)) =
      some (some ⟨⟨"a"⟩, .reloading, 0⟩,
        some (⟨"a"⟩, .done (some ⟨[2, 2], ⟨⟨2, 0⟩, 2⟩⟩))) := by decide +kernel
  obtain ⟨⟨v, notices⟩, hrun, hend⟩ := Option.map_eq_some_iff.mp hrun
  obtain ⟨hentry, hlookup⟩ := Prod.mk.inj hend
  have hv := mem_passed_of_run hrun
  obtain ⟨hsaid, -⟩ := never_missing lone ⟨3, 4, 1000⟩ ⟨0, 0⟩ vacated ⟨"a"⟩ hreadable
  exact ⟨hreadable, v, hv, hentry, _, hlookup, (hsaid v hv).1 3 _ hlookup⟩

end World
end FileCache
