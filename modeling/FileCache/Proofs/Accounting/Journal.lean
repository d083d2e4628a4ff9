import FileCache.Proofs.Accounting.Balance
import FileCache.Proofs.Accounting.Ledger
import FileCache.Proofs.Sweep.Progress
import FileCache.Proofs.Transparency.Agreement
import FileCache.Proofs.World.History
import FileCache.Proofs.World.Load
import FileCache.Proofs.World.Reports
import FileCache.Proofs.World.Sound

/-!
The reports of all sweeps of a run add up to the counters.

The journal of a run has an entry for every sweep that came to its end.  As long as sweeps do
not overlap and the store is not cleared in the course of one, nothing but the sweep that is
underway evicts, refreshes or invalidates, and the entries it has still to visit stay in the map.
-/

namespace FileCache

open Store (Alike Orderly)

/-! ## The journal -/

/-- A sweep from its beginning to its end. -/
structure Round where
  /-- The store of which the sweep took its list. -/
  start : Store
  /-- The store that its last turn left behind. -/
  finish : Store
  report : Report

structure Journal where
  /-- The store of which an agent last took the list. -/
  begun : Agent → Store
  rounds : List Round

namespace Journal

/-- Notes down the turn of a sweep. -/
def turn (agent : Agent) (s : Store) (sw : Sweep) (st : Step Sweep) (j : Journal) : Journal :=
  let start := if sw.phase = .listing then s else j.begun agent
  match st.next.report? with
  | some report => { j with rounds := j.rounds ++ [{ start, finish := st.store, report }] }
  | none => { j with begun := fun other => if other = agent then start else j.begun other }

/-- Notes down what happens in a world. -/
def note (j : Journal) (w : World) : World.Event → Journal
  | .turn agent =>
    match w.sweep? agent with
    | none => j
    | some sw =>
      match sw.step w.now w.disk w.store with
      | none => j
      | some st => j.turn agent w.store sw st
  | _ => j

end Journal

namespace World

/-- The journal of a run. -/
def journal (w : World) (events : List Event) : Journal :=
  (w.happenings events).foldl (fun j h => j.note h.1 h.2)
    { begun := fun _ => w.store, rounds := [] }

/-- Whether in the event a scanner clears the store. -/
def clears (w : World) : Event → Bool
  | .turn (.scanner id) => (w.scanners[id]?).any fun sc => sc.phase = .clearing
  | _ => false

end World

/-- The rounds add up to what the counters show. -/
structure Totals (rounds : List Round) (t : Tally) : Prop where
  evictions : t.evictions = (rounds.map (·.report.evicted)).sum
  refreshes : t.refreshes = (rounds.map (·.report.refreshed)).sum
  invalidations : t.invalidations = (rounds.map (·.report.invalidated)).sum
  scanCycles : t.scanCycles = rounds.length

theorem Totals.concat {rounds : List Round} {start s : Store} {sw : Sweep}
    (h : Totals rounds start.tally) (hends : sw.Completes start s) :
    Totals (rounds ++ [⟨start, s, sw.report⟩]) s.tally := by
  have hexplains := hends.explains
  constructor
  · rw [hexplains.evictions, h.evictions]
    simp
  · rw [hexplains.refreshes, h.refreshes]
    simp
  · rw [hexplains.invalidations, h.invalidations]
    simp
  · rw [hends.scanCycles, h.scanCycles]
    simp

/-- The report of a round tells how many entries there were at its start, and what the counters
have grown by at its end. -/
structure Round.Fits (r : Round) : Prop where
  visited : r.report.visited = r.start.mapped.length
  explains : r.report.Explains r.start.tally r.finish.tally

/-! ## Between the turns of a sweep -/

/-- Nothing that a sweep reports on has changed from one store to the next. -/
structure Store.Calm (s t : Store) : Prop where
  evictions : t.tally.evictions = s.tally.evictions
  refreshes : t.tally.refreshes = s.tally.refreshes
  invalidations : t.tally.invalidations = s.tally.invalidations
  scanCycles : t.tally.scanCycles = s.tally.scanCycles
  mapped : ∀ id ∈ s.mapped, id ∈ t.mapped
  content : ∀ id e, s.entry? id = some e → ∃ e', t.entry? id = some e' ∧ e'.content = e.content

namespace Store.Calm

variable {s t : Store}

theorem of_same (htally : t.tally = s.tally) (hentries : t.entries = s.entries)
    (hmapped : ∀ id ∈ s.mapped, id ∈ t.mapped) : s.Calm t where
  evictions := by rw [htally]
  refreshes := by rw [htally]
  invalidations := by rw [htally]
  scanCycles := by rw [htally]
  mapped := hmapped
  content id e he := ⟨e, by rw [Store.entry?, hentries]; exact he, rfl⟩

theorem totals (h : s.Calm t) {rounds : List Round} (hs : Totals rounds s.tally) :
    Totals rounds t.tally :=
  ⟨h.evictions.trans hs.evictions, h.refreshes.trans hs.refreshes,
    h.invalidations.trans hs.invalidations, h.scanCycles.trans hs.scanCycles⟩

theorem progress (h : s.Calm t) {start : Store} {sw : Sweep} (hsw : sw.Progress start s)
    (hknown : ∀ id ∈ sw.todo, id < s.entries.length) : sw.Progress start t where
  visited := hsw.visited
  explains := ⟨h.evictions.trans hsw.explains.evictions,
    h.refreshes.trans hsw.explains.refreshes, h.invalidations.trans hsw.explains.invalidations⟩
  scanCycles := h.scanCycles.trans hsw.scanCycles
  nodup := hsw.nodup
  mapped id hid := h.mapped id (hsw.mapped id hid)
  accords id e' hhead he' := by
    have hlt := hknown id (List.mem_of_mem_head? hhead)
    obtain ⟨e, he⟩ : ∃ e, s.entry? id = some e := ⟨_, List.getElem?_eq_getElem hlt⟩
    obtain ⟨e'', he'', hcontent⟩ := h.content id e he
    rw [he', Option.some.injEq] at he''
    rw [he'', hcontent]
    exact hsw.accords id e hhead he

end Store.Calm

/-- Whatever a lookup counts, it is nothing that a sweep reports on. -/
theorem Lookup.Course.tally {now : Nat} {disk : Disk} {path : Path} {s t : Store}
    {phase next : Lookup} (h : Lookup.Course now disk path s phase next t) :
    t.tally.evictions = s.tally.evictions ∧ t.tally.refreshes = s.tally.refreshes ∧
      t.tally.invalidations = s.tally.invalidations ∧
      t.tally.scanCycles = s.tally.scanCycles := by
  cases h with
  | @take gate id e answer _ _ =>
    cases gate <;> cases e.content <;> exact ⟨rfl, rfl, rfl, rfl⟩
  | @answer gate r result _ => cases gate <;> exact ⟨rfl, rfl, rfl, rfl⟩
  | arrive =>
    rw [Store.tally_arrive]
    exact ⟨rfl, rfl, rfl, rfl⟩
  | leave =>
    rw [Store.tally_leave]
    exact ⟨rfl, rfl, rfl, rfl⟩
  | _ => exact ⟨rfl, rfl, rfl, rfl⟩

theorem Lookup.Course.calm {now : Nat} {disk : Disk} {path : Path} {s t : Store}
    {phase next : Lookup} (h : Lookup.Course now disk path s phase next t) : s.Calm t := by
  obtain ⟨hevictions, hrefreshes, hinvalidations, hcycles⟩ := h.tally
  refine ⟨hevictions, hrefreshes, hinvalidations, hcycles, fun id hid => ?_, fun id e he => ?_⟩
  · cases h.effect with
    | nothing h => exact h.mapped ▸ hid
    | used _ _ h => exact h.mapped ▸ hid
    | inserted _ _ _ _ h =>
      rw [h.mapped]
      exact List.mem_append_left _ hid
  · obtain ⟨e', he', -, hcontent⟩ := h.effect.entry he
    exact ⟨e', he', hcontent⟩

namespace World

variable {w w' v v' : World} {event : Event} {events : List Event} {notices more : List Notice}

theorem Switched.calm (h : Switched w w') : w.store.Calm w'.store := by
  obtain ⟨on, hstore⟩ := h.store
  rw [hstore]
  exact .of_same rfl rfl fun _ hid => hid

/-- But for the turns of sweeps and the clearing of the store, nothing happens that a sweep
reports on. -/
theorem apply_calm (h : w.apply event = some (w', notices))
    (hno : ∀ agent, event = .turn agent → w.sweep? agent = none) :
    (w.clears event = true ∧ w'.store.tally = w.store.tally) ∨ w.store.Calm w'.store := by
  have hsame (hstore : w'.store = w.store) : w.store.Calm w'.store := by
    rw [hstore]
    exact .of_same rfl rfl fun _ hid => hid
  cases apply_happens h with
  | @turn agent _ _ hstep =>
    have hnone := hno agent rfl
    cases step_turn hstep with
    | call hcall hturn =>
      cases hturn with
      | lookup hlookup => exact .inr (Lookup.step_course hlookup).calm
      | sweep => cases hnone.symm.trans (sweep?_call_eq_some_iff.mpr hcall)
      | toggle hturn => exact .inr hturn.switched.calm
      | shutdown hturn => exact .inr hturn.switched.calm
      | scan hturn => exact .inr hturn.switched.calm
      | read => exact .inr (hsame rfl)
      | stat => exact .inr (hsame rfl)
    | @scanner id sc st hsc hturn =>
      cases Scanner.step_turn hturn with
      | started => exact .inr (hsame rfl)
      | unstarted => exact .inr (hsame rfl)
      | dismissed => exact .inr (hsame rfl)
      | asked => exact .inr (hsame (Scanner.store_wake _ _ _))
      | unanswered => exact .inr (hsame rfl)
      | due => exact .inr (hsame (Scanner.store_wake _ _ _))
      | sweeps hphase => cases hnone.symm.trans (sweep?_of_phase hsc hphase)
      | swept hphase => cases hnone.symm.trans (sweep?_of_phase hsc hphase)
      | cleared hphase =>
        refine .inl ⟨?_, rfl⟩
        rw [clears, hsc, Option.any_some]
        exact decide_eq_true hphase
  | @request id => exact .inr (hsame (store_requestScan id w))
  | shuffle hperm => exact .inr (.of_same rfl rfl fun id hid => hperm.mem_iff.mpr hid)
  | _ => exact .inr (hsame rfl)

/-! ## Sweeps underway -/

theorem sweepsUnderway_eq_zero : w.sweepsUnderway = 0 ↔
    ∀ agent sw, w.sweep? agent = some sw → sw.isUnderway = false := by
  rw [sweepsUnderway, List.countP_eq_zero]
  constructor
  · intro h agent sw hat
    refine Bool.eq_false_iff.mpr fun hunderway => h agent (mem_agents_of_sweep hat) ?_
    rw [hat]
    exact hunderway
  · intro h agent _ hany
    obtain ⟨sw, hat, hunderway⟩ := (Option.any_eq_true _ _).mp hany
    rw [h agent sw hat] at hunderway
    cases hunderway

/-- What the journal and the counters have to do with each other. -/
structure Kept (j : Journal) (w : World) : Prop where
  fresh : ∀ agent sw, w.sweep? agent = some sw → sw.phase = .listing → sw = Sweep.fresh
  rounds : ∀ r ∈ j.rounds, r.Fits
  idle : w.sweepsUnderway = 0 → Totals j.rounds w.store.tally
  busy : ∀ agent sw, w.sweep? agent = some sw → sw.isUnderway = true →
    Totals j.rounds (j.begun agent).tally ∧ sw.Progress (j.begun agent) w.store

theorem Kept.freshOn (disk : Disk) (limits : Limits) (wall : Time.Timestamp) :
    (World.freshOn disk limits wall).Kept ((World.freshOn disk limits wall).journal []) where
  fresh agent sw h := by cases agent <;> cases h
  rounds r h := by cases h
  idle _ := ⟨rfl, rfl, rfl, rfl⟩
  busy agent sw h := by cases agent <;> cases h

variable {j : Journal}

/-- Sweeps that begin have done nothing yet. -/
theorem Kept.fresh_apply (hw : w.Kept j) (happly : w.apply event = some (w', notices))
    (agent : Agent) (sw : Sweep) (hat : w'.sweep? agent = some sw)
    (hlisting : sw.phase = .listing) : sw = Sweep.fresh := by
  rcases apply_sweep_cases happly hat with ⟨-, hold⟩ | hnew | ⟨before, st, -, -, hturn, rfl⟩
  · exact hw.fresh agent sw hold hlisting
  · exact hnew
  · exact absurd hlisting (Sweep.step_ne_listing hturn.step)

/-- An event that is no turn of a sweep. -/
theorem Kept.calm (hw : w.Kept j) (hsound : w.Sound) (happly : w.apply event = some (w', notices))
    (hno : ∀ agent, event = .turn agent → w.sweep? agent = none)
    (hclear : w.clears event = true → w.sweepsUnderway = 0) : w'.Kept j := by
  have hold {agent : Agent} {sw : Sweep} (hat : w'.sweep? agent = some sw)
      (hunderway : sw.isUnderway = true) : w.sweep? agent = some sw := by
    rcases apply_sweep_cases happly hat with ⟨-, hold⟩ | rfl | ⟨before, st, hevent, hbefore, -⟩
    · exact hold
    · cases hunderway
    · rw [hno agent hevent] at hbefore
      cases hbefore
  have hidle (hzero : w'.sweepsUnderway = 0) : w.sweepsUnderway = 0 := by
    rw [sweepsUnderway_eq_zero] at hzero ⊢
    intro agent sw hat
    have hother : event ≠ .turn agent := fun hevent => by
      rw [hno agent hevent] at hat
      cases hat
    exact hzero agent sw (apply_sweep_kept happly hother hat)
  have hfresh := hw.fresh_apply happly
  rcases apply_calm happly hno with ⟨hclears, htally⟩ | hcalm
  · refine ⟨hfresh, hw.rounds, fun _ => htally ▸ hw.idle (hclear hclears), ?_⟩
    intro agent sw hat hunderway
    rw [sweepsUnderway_eq_zero.mp (hclear hclears) agent sw (hold hat hunderway)] at hunderway
    cases hunderway
  · refine ⟨hfresh, hw.rounds, fun hzero => hcalm.totals (hw.idle (hidle hzero)), ?_⟩
    intro agent sw hat hunderway
    have hbefore := hold hat hunderway
    obtain ⟨htotals, hprogress⟩ := hw.busy agent sw hbefore hunderway
    exact ⟨htotals, hcalm.progress hprogress (hsound.todo agent sw hbefore)⟩

/-- The store of which an agent has taken the list of its sweep, or takes it in this turn. -/
def startOf (w : World) (j : Journal) (agent : Agent) (sw : Sweep) : Store :=
  if sw.phase = .listing then w.store else j.begun agent

/-- While sweeps keep apart, no other sweep is underway at the turn of a sweep. -/
theorem Kept.alone (hw : w.Kept j) (hsound : w.Sound) {agent : Agent} {sw : Sweep}
    (hat : w.sweep? agent = some sw) {st : Step Sweep} (hturn : SweepTurn w agent sw st w')
    (happly : w.apply (.turn agent) = some (w', notices)) (hone : w.sweepsUnderway ≤ 1)
    (hone' : w'.sweepsUnderway ≤ 1) {other : Agent} {sw' : Sweep} (hother : other ≠ agent)
    (hat' : w.sweep? other = some sw') : sw'.isUnderway = false := by
  by_cases hlisting : sw.phase = .listing
  · refine Bool.eq_false_iff.mpr fun hunderway => ?_
    -- the other sweep has entries to visit, so this one has them too, and both are underway
    obtain ⟨id, rest, htodo⟩ :=
      List.exists_cons_of_ne_nil (hsound.visits other sw' hat' hunderway)
    have hid := (hw.busy other sw' hat' hunderway).2.mapped id (htodo ▸ List.mem_cons_self)
    have hstep := hturn.step
    rw [hw.fresh agent sw hat hlisting] at hstep
    cases hstep
    have hgoes : (Sweep.fresh.proceed w.store.mapped w.store []).next.isUnderway = true := by
      cases hmapped : w.store.mapped with
      | nil =>
        rw [hmapped] at hid
        cases hid
      | cons first others => rfl
    have hnext := step_sweep_at hat hturn.step (Sweep.isUnderway_iff.mp hgoes).2 happly
    have hkept := apply_sweep_kept happly (fun hevent => hother (by cases hevent; rfl)) hat'
    have hnot := not_underway_of_ne hone' hnext hgoes hkept hother.symm
    rw [hunderway] at hnot
    cases hnot
  · have hunderway := Sweep.isUnderway_iff.mpr ⟨hlisting, Sweep.step_ne_finished hturn.step⟩
    exact not_underway_of_ne hone hat hunderway hat' hother.symm

/-- The turn of a sweep begins it, carries it on or ends it. -/
theorem Kept.goes (hw : w.Kept j) (hsound : w.Sound) {agent : Agent} {sw : Sweep}
    (hat : w.sweep? agent = some sw) {st : Step Sweep} (hturn : SweepTurn w agent sw st w')
    (hothers : ∀ other sw', other ≠ agent → w.sweep? other = some sw' → sw'.isUnderway = false) :
    Totals j.rounds (w.startOf j agent sw).tally ∧
      ((st.next.isUnderway = true ∧ st.next.Progress (w.startOf j agent sw) st.store) ∨
        st.next.Completes (w.startOf j agent sw) st.store) := by
  by_cases hlisting : sw.phase = .listing
  · have hzero : w.sweepsUnderway = 0 := by
      refine sweepsUnderway_eq_zero.mpr fun other sw' hat' => ?_
      by_cases hother : other = agent
      · subst hother
        rw [hat, Option.some.injEq] at hat'
        rw [← hat', hw.fresh other sw hat hlisting]
        rfl
      · exact hothers other sw' hother hat'
    rw [startOf, if_pos hlisting]
    have hstep := hturn.step
    rw [hw.fresh agent sw hat hlisting] at hstep
    exact ⟨hw.idle hzero, Sweep.progress_fresh hsound.orderly hstep⟩
  · have hunderway := Sweep.isUnderway_iff.mpr ⟨hlisting, Sweep.step_ne_finished hturn.step⟩
    obtain ⟨htotals, hprogress⟩ := hw.busy agent sw hat hunderway
    rw [startOf, if_neg hlisting]
    exact ⟨htotals, hprogress.step hunderway hturn.step⟩

theorem note_turn {agent : Agent} {sw : Sweep} {st : Step Sweep} (hat : w.sweep? agent = some sw)
    (hstep : sw.step w.now w.disk w.store = some st) (j : Journal) :
    j.note w (.turn agent) = j.turn agent w.store sw st := by
  simp only [Journal.note, hat, hstep]

/-- The turn of a sweep. -/
theorem Kept.turn (hw : w.Kept j) (hsound : w.Sound) {agent : Agent} {sw : Sweep}
    (hat : w.sweep? agent = some sw) (happly : w.apply (.turn agent) = some (w', notices))
    (hone : w.sweepsUnderway ≤ 1) (hone' : w'.sweepsUnderway ≤ 1) :
    w'.Kept (j.note w (.turn agent)) := by
  obtain ⟨st, hturn⟩ := step_sweep hat happly
  have halone (other : Agent) (sw' : Sweep) (hother : other ≠ agent)
      (hat' : w.sweep? other = some sw') : sw'.isUnderway = false :=
    hw.alone hsound hat hturn happly hone hone' hother hat'
  have hothers (other : Agent) (sw' : Sweep) (hother : other ≠ agent)
      (hat' : w'.sweep? other = some sw') : sw'.isUnderway = false :=
    halone other sw' hother (hturn.others other hother ▸ hat')
  obtain ⟨htotals, hgoes⟩ := hw.goes hsound hat hturn halone
  have hfresh := hw.fresh_apply happly
  rw [note_turn hat hturn.step]
  rcases hgoes with ⟨hunderway, hprogress⟩ | hends
  · have hnone : st.next.report? = none := by
      rw [Sweep.report?]
      split
      · rename_i hfinished
        exact absurd hfinished (Sweep.isUnderway_iff.mp hunderway).2
      · rfl
    have hnext := step_sweep_at hat hturn.step (Sweep.isUnderway_iff.mp hunderway).2 happly
    rw [Journal.turn, hnone]
    refine ⟨hfresh, hw.rounds, fun hzero => ?_, fun other sw' hat' hunderway' => ?_⟩
    · rw [sweepsUnderway_eq_zero.mp hzero agent st.next hnext] at hunderway
      cases hunderway
    · by_cases hother : other = agent
      · subst hother
        rw [hnext, Option.some.injEq] at hat'
        subst hat'
        rw [hturn.store]
        simp only [if_pos]
        exact ⟨htotals, hprogress⟩
      · rw [hothers other sw' hother hat'] at hunderway'
        cases hunderway'
  · have hreport : st.next.report? = some st.next.report := by
      rw [Sweep.report?, hends.finished]
    rw [Journal.turn, hreport]
    refine ⟨hfresh, fun r hr => ?_, fun _ => ?_, fun other sw' hat' hunderway' => ?_⟩
    · rcases List.mem_append.mp hr with hr | hr
      · exact hw.rounds r hr
      · rw [List.mem_singleton.mp hr]
        exact ⟨hends.visited, hends.explains⟩
    · rw [hturn.store]
      exact htotals.concat hends
    · by_cases hother : other = agent
      · subst hother
        rw [hturn.next sw' hat'] at hunderway'
        exact absurd hends.finished (Sweep.isUnderway_iff.mp hunderway').2
      · rw [hothers other sw' hother hat'] at hunderway'
        cases hunderway'

/-! ## Runs -/

theorem journal_snoc (hrun : w.run events = some (v, notices))
    (happly : v.apply event = some (v', more)) :
    w.journal (events ++ [event]) = (w.journal events).note v event := by
  rw [journal, happenings_snoc hrun happly, List.foldl_append]
  rfl

theorem note_calm (j : Journal)
    (hno : ∀ agent, event = .turn agent → w.sweep? agent = none) : j.note w event = j := by
  cases event with
  | turn agent => simp only [Journal.note, hno agent rfl]
  | _ => rfl

theorem Kept.apply (hw : w.Kept j) (hsound : w.Sound)
    (happly : w.apply event = some (w', notices)) (hone : w.sweepsUnderway ≤ 1)
    (hone' : w'.sweepsUnderway ≤ 1) (hclear : w.clears event = true → w.sweepsUnderway = 0) :
    w'.Kept (j.note w event) := by
  by_cases hsweep : ∃ agent sw, event = .turn agent ∧ w.sweep? agent = some sw
  · obtain ⟨agent, sw, rfl, hat⟩ := hsweep
    exact hw.turn hsound hat happly hone hone'
  · have hno (agent : Agent) (hevent : event = .turn agent) : w.sweep? agent = none :=
      Option.eq_none_iff_forall_ne_some.mpr fun sw hat => hsweep ⟨agent, sw, hevent, hat⟩
    rw [note_calm j hno]
    exact hw.calm hsound happly hno hclear

/-- The journal has the report of a sweep that comes to its end. -/
theorem mem_rounds_note (j : Journal) {agent : Agent} {sw : Sweep} {st : Step Sweep}
    (hat : w.sweep? agent = some sw) (hstep : sw.step w.now w.disk w.store = some st)
    (hfinished : st.next.phase = .finished) :
    ∃ r ∈ (j.note w (.turn agent)).rounds, r.report = st.next.report := by
  have hreport : st.next.report? = some st.next.report := by rw [Sweep.report?, hfinished]
  rw [note_turn hat hstep, Journal.turn, hreport]
  exact ⟨_, List.mem_append_right _ (List.mem_singleton.mpr rfl), rfl⟩

theorem rounds_note (j : Journal) (w : World) (event : Event) {r : Round}
    (hr : r ∈ j.rounds) : r ∈ (j.note w event).rounds := by
  cases event with
  | turn agent =>
    simp only [Journal.note]
    split
    · exact hr
    · split
      · exact hr
      · unfold Journal.turn
        simp only []
        split
        · exact List.mem_append_left _ hr
        · exact hr
  | _ => exact hr

theorem apply_scanned {cause : Wake} {report : Report}
    (happly : w.apply event = some (w', notices)) (h : Notice.scanned cause report ∈ notices)
    (j : Journal) : ∃ r ∈ (j.note w event).rounds, r.report = report := by
  cases apply_happens happly with
  | turn hstep =>
    obtain ⟨id, sw, st, -, hat, hturn, hfinished, rfl⟩ := step_scanned hstep h
    exact mem_rounds_note j hat hturn.step hfinished
  | _ => cases h

variable {disk : Disk} {limits : Limits} {wall : Time.Timestamp}

/-- Nothing is missing in the journal: it has every report that a scanner gave, and that of
every other sweep that is over. -/
theorem journal_complete (hrun : (freshOn disk limits wall).run events = some (v, notices)) :
    (∀ cause report, Notice.scanned cause report ∈ notices →
      ∃ r ∈ ((freshOn disk limits wall).journal events).rounds, r.report = report) ∧
    ∀ agent sw, v.sweep? agent = some sw → sw.phase = .finished →
      ∃ r ∈ ((freshOn disk limits wall).journal events).rounds, r.report = sw.report := by
  constructor
  · refine run_induction (P := fun events v => ∀ notices,
      (freshOn disk limits wall).run events = some (v, notices) →
        ∀ cause report, Notice.scanned cause report ∈ notices →
          ∃ r ∈ ((freshOn disk limits wall).journal events).rounds, r.report = report)
      ?_ ?_ hrun notices hrun
    · rintro _ ⟨⟩ _ _ h
      cases h
    · intro before u event u' first more hbefore happly hu all hall cause report h
      rw [run_snoc, hbefore, Option.bind_some, happly, Option.map_some] at hall
      cases hall
      rw [journal_snoc hbefore happly]
      rcases List.mem_append.mp h with hold | hnew
      · obtain ⟨r, hr, hreport⟩ := hu first hbefore cause report hold
        exact ⟨r, rounds_note _ u event hr, hreport⟩
      · exact apply_scanned happly hnew _
  · refine run_induction (P := fun events v => ∀ agent sw, v.sweep? agent = some sw →
      sw.phase = .finished →
        ∃ r ∈ ((freshOn disk limits wall).journal events).rounds, r.report = sw.report)
      (fun agent sw h => by cases agent <;> cases h) ?_ hrun
    intro before u event u' first more hbefore happly hu agent sw hat hfinished
    rw [journal_snoc hbefore happly]
    rcases apply_sweep_cases happly hat with ⟨-, hold⟩ | rfl | ⟨old, st, rfl, hbusy, hturn, rfl⟩
    · obtain ⟨r, hr, hreport⟩ := hu agent sw hold hfinished
      exact ⟨r, rounds_note _ u event hr, hreport⟩
    · cases hfinished
    · exact mem_rounds_note _ hbusy hturn.step hfinished

theorem kept_of_run (hrun : (freshOn disk limits wall).run events = some (v, notices))
    (halone : ∀ u ∈ (freshOn disk limits wall).passed events, u.sweepsUnderway ≤ 1)
    (hclear : ∀ h ∈ (freshOn disk limits wall).happenings events,
      h.1.clears h.2 = true → h.1.sweepsUnderway = 0) :
    v.Kept ((freshOn disk limits wall).journal events) := by
  refine run_induction (P := fun events v =>
    (∀ u ∈ (freshOn disk limits wall).passed events, u.sweepsUnderway ≤ 1) →
      (∀ h ∈ (freshOn disk limits wall).happenings events,
        h.1.clears h.2 = true → h.1.sweepsUnderway = 0) →
      v.Kept ((freshOn disk limits wall).journal events)) ?_ ?_ hrun halone hclear
  · intro _ _
    exact .freshOn disk limits wall
  · intro before u event u' first more hbefore happly hu halone hclear
    rw [passed_snoc hbefore happly] at halone
    rw [happenings_snoc hbefore happly] at hclear
    rw [journal_snoc hbefore happly]
    have hpassed := mem_passed_of_run hbefore
    have hkept := hu (fun x hx => halone x (List.mem_append_left _ hx))
      fun h hh => hclear h (List.mem_append_left _ hh)
    exact hkept.apply (Sound.passed u hpassed) happly
      (halone u (List.mem_append_left _ hpassed))
      (halone u' (List.mem_append_right _ (List.mem_singleton.mpr rfl)))
      (hclear (u, event) (List.mem_append_right _ (List.mem_singleton.mpr rfl)))

/-- In a run in which sweeps do not overlap and the store is not cleared in the course of one:
every report counts as many visits as there were entries in the map when the sweep took its
list, and tells of changes exactly if the counters of changes have moved from its beginning to
its end; and whenever no sweep is underway, those counters and the count of sweeps are the sums
over all reports.  No report is missing, be it one that a scanner gave or that of another sweep. -/
theorem reports_add_up (disk : Disk) (limits : Limits) (wall : Time.Timestamp)
    (events : List Event) (v : World) (notices : List Notice)
    (hrun : (freshOn disk limits wall).run events = some (v, notices))
    (halone : ∀ u ∈ (freshOn disk limits wall).passed events, u.sweepsUnderway ≤ 1)
    (hclear : ∀ h ∈ (freshOn disk limits wall).happenings events,
      h.1.clears h.2 = true → h.1.sweepsUnderway = 0) :
    (∀ r ∈ ((freshOn disk limits wall).journal events).rounds,
      r.report.visited = r.start.mapped.length ∧
      (r.report.hasChanges = false ↔ r.finish.tally.evictions = r.start.tally.evictions ∧
        r.finish.tally.refreshes = r.start.tally.refreshes ∧
        r.finish.tally.invalidations = r.start.tally.invalidations)) ∧
    (v.sweepsUnderway = 0 →
      v.store.tally.evictions =
        (((freshOn disk limits wall).journal events).rounds.map (·.report.evicted)).sum ∧
      v.store.tally.refreshes =
        (((freshOn disk limits wall).journal events).rounds.map (·.report.refreshed)).sum ∧
      v.store.tally.invalidations =
        (((freshOn disk limits wall).journal events).rounds.map (·.report.invalidated)).sum ∧
      v.store.tally.scanCycles =
        ((freshOn disk limits wall).journal events).rounds.length) ∧
    (∀ cause report, Notice.scanned cause report ∈ notices →
      ∃ r ∈ ((freshOn disk limits wall).journal events).rounds, r.report = report) ∧
    ∀ agent sw, v.sweep? agent = some sw → sw.phase = .finished →
      ∃ r ∈ ((freshOn disk limits wall).journal events).rounds, r.report = sw.report := by
  have hkept := kept_of_run hrun halone hclear
  refine ⟨fun r hr => ?_, fun hzero => ?_, journal_complete hrun⟩
  · have hfits := hkept.rounds r hr
    exact ⟨hfits.visited, hfits.explains.hasChanges⟩
  · have htotals := hkept.idle hzero
    exact ⟨htotals.evictions, htotals.refreshes, htotals.invalidations, htotals.scanCycles⟩

/-- A sweep finds one file gone and another rewritten while a third comes into the map, a second
sweep finds nothing new, and the store is turned off. -/
def stocktaking : List Event := List.flatten
  [[.edit (.write "a" [1] ⟨1, 0⟩), .edit (.write "b" [2, 2] ⟨1, 0⟩),
      .edit (.write "c" [3] ⟨1, 0⟩), .call (.toggle true), .turn (.call 0), .turn (.scanner 0),
      .call (.lookup ⟨"a"⟩), .call (.lookup ⟨"b"⟩), .call (.lookup ⟨"c"⟩)],
    List.replicate 10 (.turn (.call 1)), List.replicate 10 (.turn (.call 2)),
    [.edit (.write "b" [4] ⟨2, 0⟩), .edit (.remove "a"), .call .scan, .turn (.call 4)],
    List.replicate 6 (.turn (.scanner 0)), List.replicate 10 (.turn (.call 3)),
    List.replicate 7 (.turn (.scanner 0)), [.call .sweep], List.replicate 10 (.turn (.call 5)),
    [.call (.toggle false), .turn (.call 6)], List.replicate 2 (.turn (.scanner 0))]

theorem reports_add_up_stocktaking :
    ∃ v notices, (freshOn Disk.empty ⟨7, 10, 1000⟩ ⟨0, 0⟩).run stocktaking = some (v, notices) ∧
      (((freshOn Disk.empty ⟨7, 10, 1000⟩ ⟨0, 0⟩).journal stocktaking).rounds.map fun r =>
        (r.start.mapped, r.report)) =
          [([0, 1], { notExist := 1, preloaded := 1, invalidated := 1 }),
            ([0, 1, 2], { notExist := 1, noChange := 2 })] ∧
      v.store.tally.evictions = 0 ∧ v.store.tally.refreshes = 1 ∧
      v.store.tally.invalidations = 1 ∧ v.store.tally.scanCycles = 2 := by
  have halone : ∀ u ∈ (freshOn Disk.empty ⟨7, 10, 1000⟩ ⟨0, 0⟩).passed stocktaking,
      u.sweepsUnderway ≤ 1 := by decide +kernel
  have hclear : ∀ h ∈ (freshOn Disk.empty ⟨7, 10, 1000⟩ ⟨0, 0⟩).happenings stocktaking,
      h.1.clears h.2 = true → h.1.sweepsUnderway = 0 := by decide +kernel
  have hrounds : (((freshOn Disk.empty ⟨7, 10, 1000⟩ ⟨0, 0⟩).journal stocktaking).rounds.map
      fun r => (r.start.mapped, r.report)) =
        [([0, 1], { notExist := 1, preloaded := 1, invalidated := 1 }),
          ([0, 1, 2], { notExist := 1, noChange := 2 })] := by decide +kernel
  have hrun : ((freshOn Disk.empty ⟨7, 10, 1000⟩ ⟨0, 0⟩).run stocktaking).map (fun r =>
      r.1.sweepsUnderway) = some 0 := by decide +kernel
  obtain ⟨⟨v, notices⟩, hrun, hzero⟩ := Option.map_eq_some_iff.mp hrun
  obtain ⟨-, hsums, -⟩ := reports_add_up Disk.empty ⟨7, 10, 1000⟩ ⟨0, 0⟩ stocktaking v notices hrun
    halone hclear
  obtain ⟨hevictions, hrefreshes, hinvalidations, hcycles⟩ := hsums hzero
  exact ⟨v, notices, hrun, hrounds, hevictions.trans (by decide +kernel),
    hrefreshes.trans (by decide +kernel), hinvalidations.trans (by decide +kernel),
    hcycles.trans (by decide +kernel)⟩

end World
end FileCache
