import FileCache.Proofs.Sweep.Course
import FileCache.Proofs.Store.Outcome

/-!
What a sweep reports is what it does to the counters.

The report is drawn up from the verdicts and from what was noted of an entry when its visit began;
the counters are moved by the steps that change the store.  The two keep pace as long as the
entries still to be visited stay in the map and the entry at hand has the content that the sweep
has left it with.
-/

namespace FileCache

open Store (Alike Orderly)

/-! ## Reports -/

/-- Beyond what was counted before, the counters show what the report says. -/
structure Report.Explains (r : Report) (before after : Tally) : Prop where
  evictions : after.evictions = before.evictions + r.evicted
  refreshes : after.refreshes = before.refreshes + r.refreshed
  invalidations : after.invalidations = before.invalidations + r.invalidated

namespace Report

theorem visited_conclude (r : Report) (verdict : Verdict) (wasMissing : Bool) :
    (r.conclude verdict wasMissing).visited = r.visited + 1 := by
  have hadd : (r.add verdict).visited = r.visited + 1 := by
    cases verdict <;> simp only [add, visited] <;> omega
  unfold conclude
  simp only []
  split
  · exact hadd
  · exact hadd

/-- Nothing is reported as changed exactly if the three counters of changes stay as they are. -/
theorem Explains.hasChanges {r : Report} {before after : Tally} (h : r.Explains before after) :
    r.hasChanges = false ↔ after.evictions = before.evictions ∧
      after.refreshes = before.refreshes ∧ after.invalidations = before.invalidations := by
  obtain ⟨hevictions, hrefreshes, hinvalidations⟩ := h
  simp only [Report.hasChanges, decide_eq_false_iff_not]
  omega

namespace Explains

variable {r : Report} {before after after' : Tally}

theorem nothing (t : Tally) : ({} : Report).Explains t t := ⟨rfl, rfl, rfl⟩

/-- An entry is evicted, and the verdict says so. -/
theorem evict (h : r.Explains before after) {verdict : Verdict}
    (hverdict : verdict = .stale ∨ verdict = .failed) (wasMissing : Bool) :
    (r.conclude verdict wasMissing).Explains before (after.add .eviction) := by
  obtain ⟨hevictions, hrefreshes, hinvalidations⟩ := h
  have hcount : after.evictions + 1 = before.evictions + (r.evicted + 1) := by omega
  rcases hverdict with rfl | rfl
  · refine ⟨?_, hrefreshes, hinvalidations⟩
    show after.evictions + 1 = before.evictions + (r.stale + 1 + r.failed)
    rw [hcount, evicted]
    omega
  · refine ⟨?_, hrefreshes, hinvalidations⟩
    show after.evictions + 1 = before.evictions + (r.stale + (r.failed + 1))
    rw [hcount, evicted]
    omega

theorem refresh (h : r.Explains before after) {verdict : Verdict}
    (hverdict : verdict = .preloaded ∨ verdict = .swapped) (wasMissing : Bool) :
    (r.conclude verdict wasMissing).Explains before (after.add .refresh) := by
  obtain ⟨hevictions, hrefreshes, hinvalidations⟩ := h
  have hcount : after.refreshes + 1 = before.refreshes + (r.refreshed + 1) := by omega
  rcases hverdict with rfl | rfl
  · refine ⟨hevictions, ?_, hinvalidations⟩
    show after.refreshes + 1 = before.refreshes + (r.preloaded + 1 + r.swapped)
    rw [hcount, refreshed]
    omega
  · refine ⟨hevictions, ?_, hinvalidations⟩
    show after.refreshes + 1 = before.refreshes + (r.preloaded + (r.swapped + 1))
    rw [hcount, refreshed]
    omega

/-- The entry becomes a placeholder; if it was one before, this is no change. -/
theorem forget (h : r.Explains before after) :
    (r.conclude .notExist false).Explains before (after.add .invalidation) ∧
      (r.conclude .notExist true).Explains before after := by
  obtain ⟨hevictions, hrefreshes, hinvalidations⟩ := h
  refine ⟨⟨hevictions, hrefreshes, ?_⟩, ⟨hevictions, hrefreshes, hinvalidations⟩⟩
  show after.invalidations + 1 = before.invalidations + (r.invalidated + 1)
  omega

theorem keep (h : r.Explains before after) {verdict : Verdict}
    (hverdict : verdict = .unknown ∨ verdict = .noChange) (wasMissing : Bool) :
    (r.conclude verdict wasMissing).Explains before after := by
  obtain ⟨hevictions, hrefreshes, hinvalidations⟩ := h
  rcases hverdict with rfl | rfl
  · exact ⟨hevictions, hrefreshes, hinvalidations⟩
  · exact ⟨hevictions, hrefreshes, hinvalidations⟩

end Explains
end Report

/-! ## Visits -/

namespace Sweep

/-- What a sweep has noted of the entry at hand is true of its content. -/
def Phase.Accords (content : Content) (wasMissing : Bool) : Phase → Prop
  | .checking => wasMissing = decide (content = .missing)
  | .comparing _ => wasMissing = decide (content = .missing)
  | .weighing _ old => wasMissing = decide (content = .missing) ∧ old = content.size
  | .preloading _ => wasMissing = decide (content = .missing)
  | .vacating => wasMissing = false
  | .reloading _ => wasMissing = decide (content = .missing)
  | .forgetting => wasMissing = decide (content = .missing)
  | .discarding verdict => verdict = .stale ∨ verdict = .failed
  | _ => True

variable {now : Nat} {disk : Disk} {s t : Store} {sw : Sweep} {st : Step Sweep} {id : EntryId}
  {e : Entry}

/-- A placeholder holds nothing that would have to be given up to make room. -/
theorem Course.accords {phase next : Phase} (h : Course now disk s id e phase next t)
    (he : s.entry? id = some e) (hid : id ∈ s.mapped) {wasMissing : Bool}
    (hphase : phase.Accords e.content wasMissing)
    (hnoted : phase = .visiting → wasMissing = decide (e.content = .missing)) :
    ∃ e', t.entry? id = some e' ∧ next.Accords e'.content wasMissing := by
  cases h with
  | expire _ => exact ⟨e, he, .inl rfl⟩
  | check _ => exact ⟨e, he, hnoted rfl⟩
  | see _ _ => exact ⟨e, he, hphase⟩
  | lack _ => exact ⟨e, he, hphase⟩
  | differ _ => exact ⟨e, he, hphase, rfl⟩
  | overweigh _ => exact ⟨e, he, .inr rfl⟩
  | preload _ _ _ => exact ⟨e, he, hphase.1⟩
  | makeRoom hfile hroom hboth =>
    obtain ⟨hmissing, rfl⟩ := hphase
    refine ⟨e, he, ?_⟩
    show wasMissing = false
    rw [hmissing, decide_eq_false_iff_not]
    intro hcontent
    rw [hcontent, Content.size] at hroom
    omega
  | preread _ _ => exact ⟨e, he, hphase⟩
  | preloaded _ => exact ⟨e, he, trivial⟩
  | vanish _ => exact ⟨e, he, hphase⟩
  | vacate hvacate =>
    rw [Store.vacate?, if_pos (Store.isMapped_iff.mpr hid)] at hvacate
    cases hvacate
    exact ⟨e.vacate, Store.entry?_revise_self he _ _, hphase⟩
  | reread _ _ => exact ⟨e, he, hphase⟩
  | reloaded _ => exact ⟨e, he, trivial⟩
  | vanishLate _ => exact ⟨e, he, hphase⟩
  | failLate _ => exact ⟨e, he, .inr rfl⟩

/-- Within a visit nothing is counted, and no entry leaves the map. -/
theorem Course.kept {phase next : Phase} (h : Course now disk s id e phase next t) :
    t.tally = s.tally ∧ t.mapped = s.mapped ∧ next ≠ .listing := by
  cases h with
  | vacate hvacate =>
    unfold Store.vacate? at hvacate
    split at hvacate <;> cases hvacate
    exact ⟨rfl, rfl, nofun⟩
  | _ => exact ⟨rfl, rfl, nofun⟩

/-- The turn that ends a visit is reported as what it does to the counters. -/
theorem Ending.explains {phase : Phase} {verdict : Verdict}
    (h : Ending now disk s id e phase verdict t) (he : s.entry? id = some e)
    (hid : id ∈ s.mapped) {wasMissing : Bool} (hphase : phase.Accords e.content wasMissing)
    {r : Report} {before : Tally} (hr : r.Explains before s.tally) :
    (r.conclude verdict wasMissing).Explains before t.tally ∧
      t.tally.scanCycles = s.tally.scanCycles := by
  have hmapped := Store.isMapped_iff.mpr hid
  cases h with
  | discard =>
    rw [Store.discard, if_pos hmapped]
    exact ⟨hr.evict hphase wasMissing, rfl⟩
  | unseen _ _ => exact ⟨hr.keep (.inl rfl) wasMissing, rfl⟩
  | same _ _ => exact ⟨hr.keep (.inr rfl) wasMissing, rfl⟩
  | unread _ => exact ⟨hr.keep (.inl rfl) wasMissing, rfl⟩
  | lost _ => exact ⟨hr.keep (.inr rfl) wasMissing, rfl⟩
  | exchange =>
    rw [Store.exchange, if_pos hmapped]
    simp only []
    split
    · exact ⟨hr.refresh (.inl rfl) wasMissing, rfl⟩
    · exact ⟨hr.evict (.inr rfl) wasMissing, rfl⟩
  | refill =>
    rw [Store.refill, if_pos hmapped]
    split
    · exact ⟨hr.refresh (.inr rfl) wasMissing, rfl⟩
    · exact ⟨hr.evict (.inr rfl) wasMissing, rfl⟩
  | forget =>
    rw [Store.forget, if_pos hmapped]
    simp only [he, Option.any_some]
    obtain ⟨hlost, hkept⟩ := hr.forget
    by_cases hcontent : e.content = .missing
    · rw [Phase.Accords, hcontent, decide_eq_true rfl] at hphase
      rw [hphase, hcontent]
      exact ⟨hkept, rfl⟩
    · rw [Phase.Accords, decide_eq_false hcontent] at hphase
      rw [hphase, decide_eq_false hcontent]
      exact ⟨hlost, rfl⟩

/-- A turn of a sweep takes the entry at hand out of the map, and no other. -/
theorem Effect.mem_mapped_of_ne (h : Effect now sw s t) (hhead : sw.todo.head? = some id)
    {other : EntryId} (hne : other ≠ id) (hother : other ∈ s.mapped) : other ∈ t.mapped := by
  cases h with
  | nothing h => exact h.mapped ▸ hother
  | removed first _ hfirst h =>
    rw [hhead, Option.some.injEq] at hfirst
    rw [h.mapped, ← hfirst]
    exact (List.mem_erase_of_ne hne).mpr hother
  | forgotten _ _ _ _ h => exact h.mapped ▸ hother
  | vacated _ _ _ _ h => exact h.mapped ▸ hother
  | exchanged _ _ _ _ _ _ h => exact h.mapped ▸ hother
  | refilled _ _ _ _ _ _ h => exact h.mapped ▸ hother

theorem isUnderway_iff : sw.isUnderway = true ↔ sw.phase ≠ .listing ∧ sw.phase ≠ .finished := by
  rw [isUnderway, decide_eq_true_eq]

theorem step_ne_finished (hstep : sw.step now disk s = some st) : sw.phase ≠ .finished := by
  intro hphase
  cases htodo : sw.todo with
  | nil => simp [step, hphase, htodo] at hstep
  | cons id rest => simp [step, hphase, htodo, visit] at hstep

/-! ## Sweeps -/

/-- How far a sweep has come that took its list of a store `start`. -/
structure Progress (start s : Store) (sw : Sweep) : Prop where
  visited : sw.report.visited + sw.todo.length = start.mapped.length
  explains : sw.report.Explains start.tally s.tally
  scanCycles : s.tally.scanCycles = start.tally.scanCycles
  nodup : sw.todo.Nodup
  mapped : ∀ id ∈ sw.todo, id ∈ s.mapped
  accords : ∀ id e, sw.todo.head? = some id → s.entry? id = some e →
    sw.phase.Accords e.content sw.wasMissing

/-- A sweep is over that took its list of a store `start`. -/
structure Completes (start s : Store) (sw : Sweep) : Prop where
  finished : sw.phase = .finished
  visited : sw.report.visited = start.mapped.length
  explains : sw.report.Explains start.tally s.tally
  scanCycles : s.tally.scanCycles = start.tally.scanCycles + 1

variable {start : Store}

/-- Between two visits a sweep goes on to the next, or it is over. -/
theorem progress_proceed {todo : List EntryId} {notices : List Notice}
    (hvisited : sw.report.visited + todo.length = start.mapped.length)
    (hexplains : sw.report.Explains start.tally s.tally)
    (hcycles : s.tally.scanCycles = start.tally.scanCycles) (hnodup : todo.Nodup)
    (hmapped : ∀ id ∈ todo, id ∈ s.mapped) :
    ((sw.proceed todo s notices).next.isUnderway = true ∧
      Progress start (sw.proceed todo s notices).store (sw.proceed todo s notices).next) ∨
    Completes start (sw.proceed todo s notices).store (sw.proceed todo s notices).next := by
  cases todo with
  | nil =>
    refine .inr ⟨rfl, hvisited, ⟨hexplains.evictions, hexplains.refreshes,
      hexplains.invalidations⟩, ?_⟩
    show s.tally.scanCycles + 1 = start.tally.scanCycles + 1
    rw [hcycles]
  | cons id rest =>
    exact .inl ⟨rfl, hvisited, hexplains, hcycles, hnodup, hmapped, fun _ _ _ _ => trivial⟩

/-- A sweep begins by taking its list. -/
theorem progress_fresh (hs : s.Orderly) (hstep : fresh.step now disk s = some st) :
    (st.next.isUnderway = true ∧ Progress s st.store st.next) ∨
      Completes s st.store st.next := by
  cases hstep
  refine progress_proceed ?_ (.nothing s.tally) rfl hs.nodup fun _ h => h
  show 0 + s.mapped.length = s.mapped.length
  omega

/-- A sweep that is underway comes one turn further, or to its end. -/
theorem Progress.step (h : Progress start s sw) (hunderway : sw.isUnderway = true)
    (hstep : sw.step now disk s = some st) :
    (st.next.isUnderway = true ∧ Progress start st.store st.next) ∨
      Completes start st.store st.next := by
  rcases step_cases hstep with ⟨hlisting, -⟩ | ⟨id, rest, e, htodo, he, hvisit⟩
  · exact absurd hlisting (isUnderway_iff.mp hunderway).1
  · have hhead : sw.todo.head? = some id := by rw [htodo, List.head?_cons]
    have hid : id ∈ s.mapped := h.mapped id (htodo ▸ List.mem_cons_self)
    have haccords := h.accords id e hhead he
    have hnodup := h.nodup
    rw [htodo, List.nodup_cons] at hnodup
    rcases hvisit with ⟨hcourse⟩ | ⟨hending⟩
    · rename_i phase t notices
      obtain ⟨htally, hmapped, hlisting⟩ := hcourse.kept
      have hnoted : sw.phase = .visiting → sw.noted e = decide (e.content = .missing) := by
        intro hphase
        rw [noted, hphase]
      have hsame : sw.phase.Accords e.content (sw.noted e) := by
        unfold noted
        split
        · rename_i hphase
          rw [hphase]
          trivial
        · exact haccords
      obtain ⟨e', he', hnext⟩ := hcourse.accords he hid hsame hnoted
      refine .inl ⟨?_, h.visited, htally ▸ h.explains, htally ▸ h.scanCycles, h.nodup,
        fun other hother => hmapped ▸ h.mapped other hother, fun other e'' hother he'' => ?_⟩
      · exact isUnderway_iff.mpr ⟨hlisting, hcourse.ne_finished⟩
      · rw [hhead, Option.some.injEq] at hother
        subst hother
        rw [he', Option.some.injEq] at he''
        exact he'' ▸ hnext
    · rename_i verdict t notices
      obtain ⟨hexplains, hcycles⟩ := hending.explains he hid haccords h.explains
      refine progress_proceed ?_ hexplains (hcycles.trans h.scanCycles) hnodup.2 ?_
      · have hvisited := h.visited
        rw [htodo, List.length_cons] at hvisited
        show (sw.report.conclude verdict sw.wasMissing).visited + rest.length = start.mapped.length
        rw [Report.visited_conclude]
        omega
      · intro other hother
        have hne : other ≠ id := fun he => hnodup.1 (he ▸ hother)
        have hold := h.mapped other (htodo ▸ List.mem_cons_of_mem id hother)
        exact (hending.effect hhead).mem_mapped_of_ne hhead hne hold

end Sweep
end FileCache
