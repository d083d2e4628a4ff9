import FileCache.Proofs.Accounting.Limits
import FileCache.Proofs.Age.Use
import FileCache.Proofs.Switch.Sequence

/-!
How long an entry can lie unused in the map.

A sweep drops every entry that has lain unused for longer than the interval, before it looks at
its file.  Whenever the store's scanner begins a sweep, its timer is due again within a period; so
of every entry in the map it holds that the timer is due before the entry has lain unused for the
interval and a period, or that the sweep underway has yet to judge its age.  At rest no sweep is
underway and the timer is not due.  A scanner breaks off only if the period is longer than the clock
has run, and then no entry can be so old.
-/

namespace FileCache

open Store (Alike Orderly)

/-! ## Sweeps -/

namespace Sweep

variable {now : Nat} {disk : Disk} {s : Store} {sw : Sweep} {id : EntryId} {e : Entry}
  {st : Step Sweep}

/-- The sweep is going to judge the age of the entry, or is about to drop it as too old. -/
def Faces (sw : Sweep) (id : EntryId) : Prop :=
  sw.phase = .listing ∨ (sw.phase ≠ .finished ∧ id ∈ sw.todo ∧
    (sw.todo.head? = some id → sw.phase = .visiting ∨ sw.phase = .discarding .stale))

theorem faces_fresh (id : EntryId) : fresh.Faces id := .inl rfl

theorem not_faces_of_report {r : Report} (h : sw.report? = some r) : ¬ sw.Faces id := by
  have hphase := (report?_eq_some_iff.mp h).1
  rintro (hlisting | ⟨hgoes, -⟩)
  · cases hphase.symm.trans hlisting
  · exact hgoes hphase

theorem faces_proceed {todo : List EntryId} (hid : id ∈ todo) (sw : Sweep) (s : Store)
    (notices : List Notice) : (sw.proceed todo s notices).next.Faces id := by
  cases todo with
  | nil => cases hid
  | cons first rest => exact .inr ⟨nofun, hid, fun _ => .inl rfl⟩

/-- A visit begins with the age of the entry; one that is too old is dropped. -/
theorem Course.faces {phase next : Phase} {t : Store} (h : Course now disk s id e phase next t)
    (hphase : phase = .visiting ∨ phase = .discarding .stale) :
    next = .discarding .stale ∨ now ≤ e.touched + s.limits.interval := by
  cases h with
  | expire => exact .inl rfl
  | check h =>
    rw [Entry.isExpired_millis, decide_eq_false_iff_not, Entry.idle] at h
    exact .inr (by omega)
  | _ => rcases hphase with hphase | hphase <;> cases hphase

/-- What a visit that is about to drop the entry leaves of the map is without it. -/
theorem Ending.faced {phase : Phase} {verdict : Verdict} {t : Store} (hs : s.Orderly)
    (h : Ending now disk s id e phase verdict t)
    (hphase : phase = .visiting ∨ phase = .discarding .stale) : id ∉ t.mapped := by
  cases h with
  | discard => exact hs.not_mem_discard
  | _ => rcases hphase with hphase | hphase <;> cases hphase

theorem Visit.ne_listing {rest : List EntryId} (h : Visit now disk s sw id e rest st) :
    sw.phase ≠ .listing := by
  intro hlisting
  rcases h with ⟨h⟩ | ⟨h⟩
  · rw [hlisting] at h
    cases h
  · rw [hlisting] at h
    cases h

/-- After a turn of a sweep that faces an entry, it still does, unless the entry has left the map
or was found to be of no great age. -/
theorem step_faces (hs : s.Orderly) (hstep : sw.step now disk s = some st)
    (hid : id ∈ st.store.mapped) (he : s.entry? id = some e) (hfaces : sw.Faces id) :
    st.next.Faces id ∨ now ≤ e.touched + s.limits.interval := by
  rcases step_cases hstep with ⟨-, rfl⟩ | ⟨first, rest, e₁, htodo, he₁, hvisit⟩
  · rw [(alike_proceed _ _ _ _).mapped] at hid
    exact .inl (faces_proceed hid _ _ _)
  · obtain ⟨-, hmem, hhead⟩ := hfaces.resolve_left hvisit.ne_listing
    rw [htodo, List.head?_cons] at hhead
    rcases hvisit with ⟨hcourse⟩ | ⟨hending⟩
    · by_cases hfirst : first = id
      · subst hfirst
        cases he.symm.trans he₁
        refine (hcourse.faces (hhead rfl)).imp_left fun hphase => ?_
        exact .inr ⟨hphase ▸ nofun, hmem, fun _ => .inr hphase⟩
      · refine .inl (.inr ⟨hcourse.ne_finished, hmem, fun hother => ?_⟩)
        rw [htodo, List.head?_cons, Option.some.injEq] at hother
        exact absurd hother hfirst
    · rw [(alike_conclude _ _ _ _ _ _).mapped] at hid
      have hne : id ≠ first := by
        rintro rfl
        exact hending.faced hs (hhead rfl) hid
      rw [htodo] at hmem
      exact .inl (faces_proceed ((List.mem_cons.mp hmem).resolve_left hne) _ _ _)

end Sweep

/-! ## Scanners -/

namespace Scanner

/-- By when a scanner that is at work begins its next sweep, or began the one underway. -/
def horizon (now : Nat) (limits : Limits) (sc : Scanner) : Nat :=
  match sc.phase with
  | .starting => now + period limits
  | _ => sc.deadline

/-- The timer of the scanner is due within a period, and of every mapped entry it is due before
the entry has lain unused for the interval and a period, or the sweep underway faces the entry. -/
structure Tends (now : Nat) (s : Store) (sc : Scanner) : Prop where
  soon : sc.horizon now s.limits ≤ now + period s.limits
  reaches : ∀ id ∈ s.mapped, ∀ e, s.entry? id = some e →
    sc.horizon now s.limits ≤ e.touched + s.limits.interval + period s.limits ∨
      ∃ sw, sc.sweep? = some sw ∧ sw.Faces id

variable {now : Nat} {disk : Disk} {s t : Store} {sc sc' : Scanner} {st : Step Scanner}

/-- The map may lose entries, and gain entries that are used now. -/
def Ages (now : Nat) (s t : Store) : Prop :=
  t.limits = s.limits ∧ ∀ id ∈ t.mapped, ∀ e', t.entry? id = some e' →
    s.KeepsTime id e' ∨ e'.touched = now

/-- The scanner rests while others take their turns. -/
theorem Tends.rests (h : sc.Tends now s) (hphase : sc'.phase = sc.phase)
    (hdeadline : sc'.deadline = sc.deadline) (hages : Ages now s t) : sc'.Tends now t := by
  obtain ⟨hlimits, hkept⟩ := hages
  have hhorizon : sc'.horizon now t.limits = sc.horizon now s.limits := by
    rw [horizon, horizon, hphase, hdeadline, hlimits]
  have hsweep : sc'.sweep? = sc.sweep? := by rw [sweep?, sweep?, hphase]
  have hsoon := h.soon
  refine ⟨by rw [hhorizon, hlimits]; exact hsoon, fun id hid e' he' => ?_⟩
  rw [hhorizon, hlimits, hsweep]
  rcases hkept id hid e' he' with ⟨hold, e, he, htouched⟩ | hnow
  · rw [htouched]
    exact h.reaches id hold e he
  · exact .inl (by omega)

/-- Time passes while the scanner sleeps. -/
theorem Tends.sleeps (h : sc.Tends now s) (hphase : sc.phase = .idle) (ms : Nat) :
    sc.Tends (now + ms) s := by
  have hhorizon (now : Nat) : sc.horizon now s.limits = sc.deadline := by rw [horizon, hphase]
  have hsoon := h.soon
  rw [hhorizon] at hsoon
  refine ⟨by rw [hhorizon]; omega, fun id hid e he => ?_⟩
  have hreaches := h.reaches id hid e he
  rw [hhorizon] at hreaches ⊢
  exact hreaches

theorem Tends.of_empty (hsoon : sc.horizon now s.limits ≤ now + period s.limits)
    (hmapped : s.mapped = []) : sc.Tends now s where
  soon := hsoon
  reaches id hid := by
    rw [hmapped] at hid
    cases hid

theorem nextDeadline_le {deadline : Nat} (hdue : deadline ≤ now) (period : Nat) :
    nextDeadline now deadline period ≤ now + period := by
  unfold nextDeadline
  split <;> omega

/-- A sweep that begins faces every entry. -/
theorem Tends.wakes {cause : Wake} (hsoon : sc.deadline ≤ now + period s.limits)
    (hworks : (wake cause s sc).next.works = true) :
    (wake cause s sc).next.Tends now (wake cause s sc).store := by
  cases hon : s.enabled with
  | true =>
    rw [wake, if_pos hon]
    exact ⟨hsoon, fun id _ _ _ => .inr ⟨Sweep.fresh, rfl, Sweep.faces_fresh id⟩⟩
  | false =>
    rw [wake, hon] at hworks
    cases hworks

/-- A turn of the sweep of a scanner. -/
theorem Tends.sweeps {cause : Wake} {sw : Sweep} {turn : Step Sweep} (h : sc.Tends now s)
    (hs : s.Orderly) (hphase : sc.phase = .sweeping cause sw)
    (hstep : sw.step now disk s = some turn) (hhorizon : sc'.horizon now turn.store.limits =
      sc.horizon now s.limits)
    (hsweep : ∀ id, turn.next.Faces id → ∃ sw', sc'.sweep? = some sw' ∧ sw'.Faces id) :
    sc'.Tends now turn.store := by
  have heffect := Sweep.step_effect hstep
  have hsoon := h.soon
  refine ⟨by rw [hhorizon, heffect.limits]; exact hsoon, fun id hid e' he' => ?_⟩
  rw [hhorizon, heffect.limits]
  rcases heffect.touched hs hid he' with ⟨hold, e, he, htouched⟩ | ⟨hnow, -⟩
  · rw [htouched]
    rcases h.reaches id hold e he with hreaches | ⟨sw₁, hsw₁, hfaces⟩
    · exact .inl hreaches
    · rw [sweep?, hphase] at hsw₁
      cases hsw₁
      rcases Sweep.step_faces hs hstep hid he hfaces with hgoes | hyoung
      · exact .inr (hsweep id hgoes)
      · exact .inl (by omega)
  · exact .inl (by omega)

/-- A scanner that is at work after a turn of its own tends the store. -/
theorem Turn.tends (hturn : sc.Turn now disk s st) (hs : s.Orderly)
    (h : sc.works = true → sc.Tends now s) (hworks : st.next.works = true) :
    st.next.Tends now st.store := by
  cases hturn with
  | started hphase =>
    have h := h (by simp [Scanner.works, hphase])
    refine ⟨Nat.le_refl _, fun id hid e he => .inl ?_⟩
    rcases h.reaches id hid e he with hreaches | ⟨sw, hsw, -⟩
    · rw [horizon, hphase] at hreaches
      exact hreaches
    · rw [sweep?, hphase] at hsw
      cases hsw
  | unstarted => cases hworks
  | dismissed => cases hworks
  | asked => exact .wakes (Nat.le_refl _) hworks
  | unanswered => cases hworks
  | due _ _ _ hdue => exact .wakes (nextDeadline_le hdue _) hworks
  | sweeps hphase hstep =>
    refine (h (by simp [Scanner.works, hphase])).sweeps hs hphase hstep ?_ fun id hfaces =>
      ⟨_, rfl, hfaces⟩
    simp only [horizon, hphase]
  | swept hphase hstep hreport =>
    refine (h (by simp [Scanner.works, hphase])).sweeps hs hphase hstep ?_ fun id hfaces =>
      absurd hfaces (Sweep.not_faces_of_report hreport)
    simp only [horizon, hphase]
  | cleared => cases hworks

end Scanner

namespace World

variable {w w' v : World} {event : Event} {notices : List Notice}

/-! ## Worlds -/

/-- Every scanner of the store's own that is at work tends the store, as long as the clock has time
for a deadline. -/
def Tended (w : World) : Prop :=
  w.HasTime → ∀ (id : ScannerId) (sc : Scanner), w.scanners[id]? = some sc → sc.own = true →
    sc.works = true → sc.Tends w.now w.store

theorem Move.ages (h : Move w event w') (hs : w.store.Orderly) :
    Scanner.Ages w.now w.store w'.store :=
  ⟨h.limits, fun _ hid _ he' => (h.touched hs hid he').imp_right (·.1)⟩

/-- When the store is turned on, nothing is left in the map. -/
theorem Sequenced.mapped_of_enabling (hw : w.Sequenced) (htime : w.HasTime)
    (h : w.apply event = some (w', notices)) (hoff : w.store.enabled = false)
    (hon : w'.store.enabled = true) : w'.store.mapped = [] := by
  have hended := hw.exclusive.ended_of_enabling (hw.solo.apart h) h hoff hon
  have hbare := hw.guarded.bare htime hoff hended
  refine List.eq_nil_iff_forall_not_mem.mpr fun id hid => ?_
  rcases (apply_move h).mapped_new hid with hold | ⟨-, hon'⟩
  · rw [hbare.mapped] at hold
    cases hold
  · cases hoff.symm.trans hon'

namespace Tended

theorem freshOn (disk : Disk) (limits : Limits) (wall : Time.Timestamp) :
    (freshOn disk limits wall).Tended := fun _ _ _ h => by cases h

theorem elapse (hw : w.Tended) (hsound : w.Sound) (hrest : w.AtRest) (ms : Nat) :
    (w.elapse ms).Tended := by
  intro htime id sc hsc hown hworks
  have hearlier : w.HasTime := htime.of_le rfl (Nat.le_add_right w.now ms)
  refine (hw hearlier id sc hsc hown hworks).sleeps ?_ ms
  rcases hrest.scanner_cases hsound hsc with hended | ⟨hidle, -⟩
  · simp [Scanner.works, hended] at hworks
  · exact hidle

theorem apply (hw : w.Tended) (hseq : w.Sequenced) (hpatient : w.Patient event)
    (h : w.apply event = some (w', notices)) : w'.Tended := by
  have hages := (apply_move h).ages hseq.sound.orderly
  have hworks_of {sc sc' : Scanner} (hphase : sc'.phase = sc.phase) (hworks : sc'.works = true) :
      sc.works = true := by
    rw [Scanner.works, hphase] at hworks
    exact hworks
  rcases apply_now h with hnow | ⟨ms, rfl, -⟩
  · intro hlater id sc' hsc' hown hworks
    have htime := hlater.before h
    rw [hnow]
    have hrests {sc : Scanner} (hsc : w.scanners[id]? = some sc) (hphase : sc'.phase = sc.phase)
        (hdeadline : sc'.deadline = sc.deadline) (hsame : sc'.own = sc.own) :
        sc'.Tends w.now w'.store :=
      (hw htime id sc hsc (hsame.symm.trans hown) (hworks_of hphase hworks)).rests hphase
        hdeadline hages
    cases apply_switchMove h with
    | quiet hquiet =>
      rcases hquiet.scanners id sc' hsc' with rfl | ⟨sc, hsc, honward⟩
      · cases hown
      · have hown' := honward.own.symm.trans hown
        cases honward with
        | rests hsame _ hphase hdeadline => exact hrests hsc hphase hdeadline hsame
        | goes _ hturn hstore =>
          rw [hstore]
          exact hturn.tends hseq.sound.orderly (hw htime id sc hsc hown') hworks
        | stops hextra => cases hextra.symm.trans hown'
    | toggle caller on phase after v _ _ hcaller hturn hset =>
      subst hset
      rcases hturn.scanner hsc' with ⟨rfl, hon, hwaits⟩ | ⟨sc, hsc, hphase, hdeadline, hsame⟩
      · have hoff : w.store.enabled = false := by
          cases phase with
          | waiting => exact hwaits rfl
          | joining previous => exact (hseq.locked.kept caller _ hcaller rfl).2.2
          | done => cases hturn
        exact .of_empty (Nat.le_refl _) (hseq.mapped_of_enabling htime h hoff hon)
      · exact hrests hsc hphase hdeadline hsame
    | shutdown _ _ _ _ _ _ _ hturn hset =>
      subst hset
      obtain ⟨sc, hsc, hphase, hdeadline, hsame⟩ := hturn.scanner hsc'
      exact hrests hsc hphase hdeadline hsame
  · cases apply_happens h
    exact hw.elapse hseq.sound (hpatient rfl) ms

/-- At rest, no entry has lain unused for the interval and a period, as long as the clock has time
for a deadline. -/
theorem young (hw : w.Tended) (hseq : w.Sequenced) (hrest : w.AtRest) (htime : w.HasTime)
    {id : EntryId} (hid : id ∈ w.store.mapped) {e : Entry} (he : w.store.entry? id = some e) :
    w.now < e.touched + w.store.limits.interval + Scanner.period w.store.limits := by
  cases hon : w.store.enabled with
  | false =>
    rw [(hrest.bare hseq htime hon).mapped] at hid
    cases hid
  | true =>
    obtain ⟨own, -, hposted⟩ := hseq.manned.on hon
    obtain ⟨sc, hsc, hown, -, hworks⟩ := hposted.working htime
    have htends := hw htime own sc hsc hown hworks
    rcases hrest.scanner_cases hseq.sound hsc with hended | ⟨hidle, -, -, hdue⟩
    · simp [Scanner.works, hended] at hworks
    · rcases htends.reaches id hid e he with hreaches | ⟨sw, hsw, -⟩
      · rw [Scanner.horizon, hidle] at hreaches
        exact Nat.lt_of_lt_of_le hdue hreaches
      · rw [Scanner.sweep?, hidle] at hsw
        cases hsw

end Tended

theorem tended_passed {disk : Disk} {limits : Limits} {wall : Time.Timestamp}
    {events : List Event}
    (hpatient : ∀ h ∈ (freshOn disk limits wall).happenings events, h.1.Patient h.2) :
    ∀ v ∈ (freshOn disk limits wall).passed events, v.Sequenced ∧ v.Tended := by
  refine passed_induction_of (Q := Patient) ?_ (fun v event hmem => hpatient (v, event) hmem)
    ⟨.freshOn disk limits wall, .freshOn disk limits wall⟩
  rintro w event w' notices hpatient ⟨hseq, hw⟩ happly
  exact ⟨hseq.apply hpatient happly, hw.apply hseq hpatient happly⟩

/-- Whatever is asked of a store and whatever becomes of the disk below it, one thing at a time:
at rest every entry in the map was last read or updated less than the interval and a period ago.
The requests that a server is sent are among the things that can be asked for so. -/
theorem idle_bounded (disk : Disk) (limits : Limits) (wall : Time.Timestamp)
    (events : List Event) (v : World) (notices : List Notice)
    (hrun : (freshOn disk limits wall).run events = some (v, notices))
    (hpatient : ∀ h ∈ (freshOn disk limits wall).happenings events, h.1.Patient h.2)
    (hrest : v.AtRest) :
    (∀ id ∈ v.store.mapped, ∃ e, v.store.entry? id = some e ∧
      (freshOn disk limits wall).UsedAt events id e.touched ∧ e.touched ≤ v.now ∧
      v.now < e.touched + limits.interval + Scanner.period limits) ∧
    ∀ root turns r, ∃ served more,
      v.run served = some ((({ world := v, root } : Server).handle turns r).2.world, more) ∧
        ∀ h ∈ v.happenings served, h.1.Patient h.2 := by
  have hv := mem_passed_of_run hrun
  obtain ⟨hseq, htended⟩ := tended_passed hpatient v hv
  have hlimits : v.store.limits = limits := limits_passed v hv
  refine ⟨fun id hid => ?_, fun root turns r => ?_⟩
  · obtain ⟨e, he⟩ := hseq.sound.orderly.entry hid
    obtain ⟨hpast, hused⟩ := used_of_run hrun id hid e he
    refine ⟨e, he, hused, hpast, ?_⟩
    by_cases htime : v.HasTime
    · have hyoung := htended.young hseq hrest htime hid he
      rw [hlimits] at hyoung
      exact hyoung
    · -- no clock runs for so long a period
      have hshort := now_lt_of_not_hasTime hlimits (uptime_passed v hv) htime
      omega
  · have hserver : ({ world := v, root } : Server).world.AtRest := hrest
    exact Server.handle_run hserver turns r

/-- Two requests for a sweep put the timer off, the second when the entry is as old as it may be;
the file cannot be looked at by then. -/
def lingering : List Event := List.flatten
  [[.edit (.write "a" [1, 2] ⟨1, 0⟩), .call (.toggle true), .turn (.call 0),
      .turn (.scanner 0), .call (.lookup ⟨"a"⟩)],
    List.replicate 10 (.turn (.call 1)),
    [.elapse 400, .call .scan, .turn (.call 2)], List.replicate 5 (.turn (.scanner 0)),
    [.edit (.setFault "a" .statPath (some .accessDenied)), .elapse 600, .call .scan,
      .turn (.call 3)],
    List.replicate 4 (.turn (.scanner 0)), [.elapse 999]]

theorem idle_bounded_lingering :
    (∀ h ∈ (freshOn Disk.empty ⟨7, 10, 1000⟩ ⟨0, 0⟩).happenings lingering, h.1.Patient h.2) ∧
    ∃ v notices, (freshOn Disk.empty ⟨7, 10, 1000⟩ ⟨0, 0⟩).run lingering = some (v, notices) ∧
      v.AtRest ∧ v.now = 1999 ∧ v.store.mapped = [0] ∧ ∃ e, v.store.entry? 0 = some e ∧
        e.touched = 0 ∧ (freshOn Disk.empty ⟨7, 10, 1000⟩ ⟨0, 0⟩).UsedAt lingering 0 0 ∧
        1999 < 0 + 1000 + Scanner.period ⟨7, 10, 1000⟩ := by
  have hpatient : ∀ h ∈ (freshOn Disk.empty ⟨7, 10, 1000⟩ ⟨0, 0⟩).happenings lingering,
      h.1.Patient h.2 := by decide +kernel
  have hrun : ((freshOn Disk.empty ⟨7, 10, 1000⟩ ⟨0, 0⟩).run lingering).map (fun r =>
      (decide r.1.AtRest, r.1.now, r.1.store.mapped, (r.1.store.entry? 0).map (·.touched))) =
      some (true, 1999, [0], some 0) := by decide +kernel
  obtain ⟨⟨v, notices⟩, hrun, hend⟩ := Option.map_eq_some_iff.mp hrun
  simp only [Prod.mk.injEq, decide_eq_true_eq, Option.map_eq_some_iff] at hend
  obtain ⟨hrest, hnow, hmapped, e, he, htouched⟩ := hend
  obtain ⟨hids, -⟩ := idle_bounded Disk.empty ⟨7, 10, 1000⟩ ⟨0, 0⟩ lingering v notices hrun
    hpatient hrest
  obtain ⟨e', he', hused, -, hyoung⟩ := hids 0 (hmapped ▸ List.mem_singleton.mpr rfl)
  cases he.symm.trans he'
  rw [hnow, htouched] at hyoung
  rw [htouched] at hused
  exact ⟨hpatient, v, notices, hrun, hrest, hnow, hmapped, e, he, htouched, hused, hyoung⟩

end World
end FileCache
