import FileCache.Proofs.Switch.Heeding

/-!
Requests for a sweep.

There is room for one request at a scanner, and waking for it makes room for the next.  So a
request that is taken on is answered with a sweep of its own, unless the scanner is told to stop
first; one that is refused finds another that still waits for its sweep to begin.  All this is so
while the clock can hold the deadlines of the scanner; one that breaks off takes its request with
it.
-/

namespace FileCache
namespace World

variable {w w' v v' : World} {event : Event} {events : List Event} {notices more : List Notice}
  {id : ScannerId} {sc sc' : Scanner}

/-! ## The count of requests -/

theorem accepted_snoc (hrun : w.run events = some (v, notices))
    (happly : v.apply event = some (v', more)) :
    w.accepted id (events ++ [event]) = w.accepted id events + (v.takesOn id event).toNat := by
  rw [accepted, happenings_snoc hrun happly, List.countP_append, accepted]
  cases h : v.takesOn id event <;> simp [h]

theorem served_snoc (hrun : w.run events = some (v, notices))
    (happly : v.apply event = some (v', more)) :
    w.served id (events ++ [event]) =
      w.served id events + if v.begins? id event = some .trigger then 1 else 0 := by
  rw [served, happenings_snoc hrun happly, List.countP_append, served]
  by_cases h : v.begins? id event = some .trigger <;> simp [h]

theorem begun_snoc (hrun : w.run events = some (v, notices))
    (happly : v.apply event = some (v', more)) :
    w.begun id (events ++ [event]) = (w.begun id events || (v.begins? id event).isSome) := by
  rw [begun, happenings_snoc hrun happly, List.any_append, begun]
  simp

/-- The requests that a scanner has taken on were answered with a sweep, or one of them still
waits, or one was dropped. -/
structure Settles (w : World) (id : ScannerId) (events : List Event) (v : World) : Prop where
  before : v.scanners[id]? = none → w.accepted id events = 0 ∧ w.served id events = 0
  own : ∀ sc, v.scanners[id]? = some sc → sc.own = true →
    ∃ dropped, dropped ≤ 1 ∧ (dropped = 1 → sc.works = false) ∧
      w.accepted id events = w.served id events + sc.owed + dropped

theorem Staffed.works (hv : v.Staffed) (hslot : v.switch.slot = some id)
    (hon : v.store.enabled = true) (hsc : v.scanners[id]? = some sc) : sc.works = true := by
  obtain ⟨other, hother, sc', hsc', -, -, hworks⟩ := hv.working hon
  cases hslot.symm.trans hother
  cases hsc.symm.trans hsc'
  exact hworks

/-- One event and the count of requests of a scanner. -/
theorem Fate.counts (h : Fate v event id sc sc') (hv : v.Staffed)
    (hsc : v.scanners[id]? = some sc) {dropped : Nat} (hle : dropped ≤ 1)
    (hdropped : dropped = 1 → sc.works = false) :
    ∃ dropped', dropped' ≤ 1 ∧ (dropped' = 1 → sc'.works = false) ∧
      sc.owed + dropped + (v.takesOn id event).toNat =
        (if v.begins? id event = some .trigger then 1 else 0) + sc'.owed + dropped' := by
  cases h with
  | rests hphase hpending _ hnot hother =>
    have hworks : sc'.works = sc.works := by rw [Scanner.works, hphase, Scanner.works]
    refine ⟨dropped, hle, hworks ▸ hdropped, ?_⟩
    simp [hnot, begins?_other hother, Scanner.owed, hworks, hpending]
  | asked hanswer hslot hon hrequest hother =>
    rename_i queued
    have hworks := hv.works hslot hon hsc
    obtain ⟨hphase, -, -, howed⟩ := request_of_works hworks hrequest
    have htakes : v.takesOn id event = queued := by
      cases queued <;> simp [takesOn, hanswer, hslot]
    have hworks' : sc'.works = sc.works := by rw [Scanner.works, hphase, Scanner.works]
    refine ⟨dropped, hle, hworks' ▸ hdropped, ?_⟩
    simp only [htakes, begins?_other hother, howed, reduceCtorEq, if_false]
    omega
  | goes hevent _ hheeds =>
    subst hevent
    have hnot : v.takesOn id (.turn (.scanner id)) = false := takesOn_of_answer (by simp [answers?])
    rw [begins?_self hsc, hnot]
    have hnone (hbefore : sc.works = true) : dropped = 0 := by
      rcases Nat.le_one_iff_eq_zero_or_eq_one.mp hle with h | h
      · exact h
      · cases (hdropped h).symm.trans hbefore
    cases hheeds with
    | begins hbegins hcause hbefore hafter hnext =>
      rename_i cause
      refine ⟨0, Nat.zero_le 1, (fun h => by cases h), ?_⟩
      rw [hnone hbefore, hbegins]
      simp only [Scanner.owed, hbefore, hnext]
      cases hpending : sc.pending <;> simp [hcause, hpending]
    | quits hbegins hbefore hafter _ =>
      refine ⟨sc.owed, ?_, fun _ => hafter, ?_⟩
      · exact Bool.toNat_le _
      · simp [hnone hbefore, hbegins, Scanner.owed, hafter]
    | goes hbegins hworks hpending _ =>
      refine ⟨dropped, hle, hworks ▸ hdropped, ?_⟩
      simp [hbegins, Scanner.owed, hworks, hpending]

theorem settles_snoc (hv : v.Staffed) (hlocked : v.Locked)
    (hrun : w.run events = some (v, notices)) (happly : v.apply event = some (v', more))
    (h : Settles w id events v) : Settles w id (events ++ [event]) v' := by
  have hnew (hnone : v.scanners[id]? = none) : v.takesOn id event = false ∧
      v.begins? id event = none := by
    constructor
    · refine Bool.eq_false_iff.mpr fun htakes => ?_
      obtain ⟨sc, hsc, -⟩ := hlocked.own id (of_decide_eq_true htakes).2
      cases hnone.symm.trans hsc
    · by_cases hself : event = .turn (.scanner id)
      · subst hself
        simp [begins?, hnone]
      · exact begins?_other hself
  constructor
  · intro hnone
    have hbefore : v.scanners[id]? = none := by
      cases hsc : v.scanners[id]? with
      | none => rfl
      | some sc =>
        obtain ⟨next, hnext, -⟩ := apply_own happly hsc
        cases hnone.symm.trans hnext
    obtain ⟨haccepted, hserved⟩ := h.before hbefore
    obtain ⟨htakes, hbegins⟩ := hnew hbefore
    simp [accepted_snoc hrun happly, served_snoc hrun happly, haccepted, hserved, htakes, hbegins]
  · intro sc' hsc' hown
    rw [accepted_snoc hrun happly, served_snoc hrun happly]
    cases hsc : v.scanners[id]? with
    | none =>
      obtain ⟨haccepted, hserved⟩ := h.before hsc
      obtain ⟨htakes, hbegins⟩ := hnew hsc
      obtain ⟨own, rfl⟩ := apply_new happly hsc hsc'
      refine ⟨0, Nat.zero_le 1, (fun h => by cases h), ?_⟩
      simp [haccepted, hserved, htakes, hbegins, Scanner.owed, Scanner.fresh]
    | some sc =>
      obtain ⟨next, hnext, hsame⟩ := apply_own happly hsc
      cases hnext.symm.trans hsc'
      rw [hsame] at hown
      obtain ⟨dropped, hle, hdropped, hcount⟩ := h.own sc hsc hown
      obtain ⟨next, hnext, hfate⟩ := apply_fate happly hsc hown
      cases hnext.symm.trans hsc'
      obtain ⟨dropped', hle', hdropped', hstep⟩ := hfate.counts hv hsc hle hdropped
      exact ⟨dropped', hle', hdropped', by omega⟩

/-- The requests of every scanner are settled at the end of a run. -/
theorem settles_of_run {disk : Disk} {limits : Limits} {wall : Time.Timestamp}
    (hrun : (freshOn disk limits wall).run events = some (v, notices))
    (hstaffed : ∀ x ∈ (freshOn disk limits wall).passed events, x.Staffed) (id : ScannerId) :
    Settles (freshOn disk limits wall) id events v := by
  refine run_induction (P := fun events v =>
    (∀ x ∈ (freshOn disk limits wall).passed events, x.Staffed) →
      Settles (freshOn disk limits wall) id events v) (fun _ => ?_) ?_ hrun hstaffed
  · exact ⟨fun _ => ⟨rfl, rfl⟩, fun _ h => by cases h⟩
  · intro events v event v' notices more hrun happly hv hstaffed
    rw [passed_snoc hrun happly] at hstaffed
    have hbefore : ∀ x ∈ (freshOn disk limits wall).passed events, x.Staffed :=
      fun x hx => hstaffed x (List.mem_append_left _ hx)
    have hmem := mem_passed_of_run hrun
    exact settles_snoc (hbefore v hmem) (Locked.passed v hmem) hrun happly (hv hbefore)

/-! ## After a request -/

/-- A request has been waiting since a run began, when the scanner was `sc`: the scanner is at
work, and it has not taken more turns than it takes to look at its request. -/
structure Waits (u : World) (id : ScannerId) (sc : Scanner) (events : List Event)
    (sc' : Scanner) : Prop where
  works : sc'.works = true
  pending : sc'.pending = true
  turns : ∀ n, (∀ x ∈ u.passed events, x.store.mapped.length ≤ n) →
    (u.turnsOf (.scanner id) events).length + sc'.delay n ≤ sc.delay n

theorem delay_of_phase (n : Nat) (h : sc'.phase = sc.phase) : sc'.delay n = sc.delay n := by
  rw [Scanner.delay, Scanner.delay, h]

/-- One more event finds the request waiting, unless a sweep begins or the scanner is told to
stop. -/
theorem Waits.snoc {u : World} {was : Scanner} (h : Waits u id was events sc) (hv : v.Staffed)
    (hrun : u.run events = some (v, notices)) (happly : v.apply event = some (v', more))
    (hsc : v.scanners[id]? = some sc) (hown : sc.own = true) (hfate : Fate v event id sc sc') :
    (v.begins? id event).isSome = true ∨ sc'.stopped = true ∨
      Waits u id was (events ++ [event]) sc' := by
  have hearlier {n : Nat} (hn : ∀ x ∈ u.passed (events ++ [event]), x.store.mapped.length ≤ n) :
      ∀ x ∈ u.passed events, x.store.mapped.length ≤ n := by
    rw [passed_snoc hrun happly] at hn
    exact fun x hx => hn x (List.mem_append_left _ hx)
  have hstays (hphase : sc'.phase = sc.phase) (hpending : sc'.pending = true)
      (hother : event ≠ .turn (.scanner id)) : Waits u id was (events ++ [event]) sc' := by
    refine ⟨?_, hpending, fun n hn => ?_⟩
    · rw [Scanner.works, hphase]
      exact h.works
    · rw [turnsOf_other hother hrun happly, delay_of_phase n hphase]
      exact h.turns n (hearlier hn)
  cases hfate with
  | rests hphase hpending _ _ hother =>
    exact .inr (.inr (hstays hphase (hpending.trans h.pending) hother))
  | asked _ _ _ hrequest hother =>
    obtain ⟨hphase, -, hpending, -⟩ := request_of_works h.works hrequest
    exact .inr (.inr (hstays hphase hpending hother))
  | goes hevent hstopped hheeds =>
    subst hevent
    rw [begins?_self hsc]
    cases hheeds with
    | begins hbegins =>
      rw [hbegins]
      exact .inl rfl
    | quits _ _ _ hwhy =>
      refine .inr (.inl (hstopped.trans ?_))
      rcases hwhy with hwhy | hoff | hfull
      · exact hwhy
      · cases hgoes : sc.stopped with
        | true => rfl
        | false => cases hoff.symm.trans (hv.working_of_unstopped hsc hown hgoes).1
      · cases hfull.symm.trans hv.time
    | goes _ hworks hpending hdelay =>
      refine .inr (.inr ⟨hworks.trans h.works, hpending.trans h.pending, fun n hn => ?_⟩)
      have hmapped := hearlier hn v (mem_passed_of_run hrun)
      have hlt := hdelay h.works n hmapped
      have hturns := h.turns n (hearlier hn)
      rw [turnsOf_turn hrun happly, List.length_append, List.length_singleton]
      omega

/-- What becomes of a request that waits at a scanner of the store's own. -/
theorem heeded_of_run {u : World} (hsc : u.scanners[id]? = some sc) (hown : sc.own = true)
    (hworks : sc.works = true) (hpending : sc.pending = true)
    (hstaffed : ∀ x ∈ u.passed events, x.Staffed) (hrun : u.run events = some (v, notices)) :
    ∃ sc', v.scanners[id]? = some sc' ∧ sc'.own = true ∧
      (u.begun id events = true ∨ sc'.stopped = true ∨ Waits u id sc events sc') := by
  refine run_induction (P := fun events v => (∀ x ∈ u.passed events, x.Staffed) →
    ∃ sc', v.scanners[id]? = some sc' ∧ sc'.own = true ∧
      (u.begun id events = true ∨ sc'.stopped = true ∨ Waits u id sc events sc'))
    (fun _ => ?_) ?_ hrun hstaffed
  · refine ⟨sc, hsc, hown, .inr (.inr ⟨hworks, hpending, fun n _ => ?_⟩)⟩
    exact Nat.le_of_eq (Nat.zero_add _)
  · intro events v event v' notices more hrun happly hv hstaffed
    rw [passed_snoc hrun happly] at hstaffed
    have hbefore : ∀ x ∈ u.passed events, x.Staffed :=
      fun x hx => hstaffed x (List.mem_append_left _ hx)
    obtain ⟨sc₁, hsc₁, hown₁, hcases⟩ := hv hbefore
    obtain ⟨sc₂, hsc₂, hfate⟩ := apply_fate happly hsc₁ hown₁
    obtain ⟨next, hnext, hsame⟩ := apply_own happly hsc₁
    cases hnext.symm.trans hsc₂
    refine ⟨sc₂, hsc₂, hsame.trans hown₁, ?_⟩
    rw [begun_snoc hrun happly, Bool.or_eq_true]
    rcases hcases with hbegun | hstopped | hwaits
    · exact .inl (.inl hbegun)
    · refine .inr (.inl ?_)
      cases hfate with
      | rests _ _ hstops _ _ => exact hstops hstopped
      | goes _ hkept _ => exact hkept.trans hstopped
      | asked _ _ _ hrequest _ =>
        have hkept := (sc₁.request_same).2.1
        rw [hrequest] at hkept
        exact hkept.trans hstopped
    · have hmem := mem_passed_of_run hrun
      have hnow := hwaits.snoc (hbefore v hmem) hrun happly hsc₁ hown₁ hfate
      rcases hnow with hbegins | hrest
      · exact .inl (.inr hbegins)
      · exact .inr hrest

/-- A scanner at which a request waits can take its turn. -/
theorem Sound.scanner_goes (hw : w.Sound) (hsc : w.scanners[id]? = some sc)
    (hworks : sc.works = true) (hpending : sc.pending = true) :
    (w.step (.scanner id)).isSome = true := by
  have hgoes : (sc.step w.now w.disk w.store).isSome = true := by
    cases hphase : sc.phase with
    | starting => simp [Scanner.step, hphase]
    | idle =>
      simp only [Scanner.step, hphase, hpending, if_true]
      split <;> rfl
    | sweeping cause sw =>
      have hat := sweep?_of_phase hsc hphase
      have hstep := hw.sweep_goes hat (hw.unfinished id sw hat)
      simpa only [Scanner.step, hphase, Option.isSome_map] using hstep
    | clearing => simp [Scanner.works, hphase] at hworks
    | ended => simp [Scanner.works, hphase] at hworks
  simpa only [step, hsc, Option.bind_some, stepScanner, Option.isSome_map] using hgoes

/-! ## Runs -/

/-- Requests for a sweep in every run in which no shutdown takes the scanner of a store that is
on, and at the end of which the clock can still hold the next deadline.  The requests that the
store's scanner has taken on are as many as the sweeps it has begun because of them, and one if a
request is waiting, and one at most that was dropped when it was
told to stop.  After every request that is made while the store is on, whatever its answer, a
request waits at the scanner, and from then on a sweep has begun, or the scanner was told to
stop, or the request is still waiting, the scanner can take a turn, and it has not taken more
turns than it takes to look at its request. -/
theorem requests_heeded (disk : Disk) (limits : Limits) (wall : Time.Timestamp)
    (events : List Event) (v : World) (notices : List Notice)
    (hrun : (freshOn disk limits wall).run events = some (v, notices))
    (htakes : ∀ u event, (u, event) ∈ (freshOn disk limits wall).happenings events →
      u.takesWhileOn event = false)
    (htime : v.now + Scanner.period limits ≤ Scanner.lastMoment) :
    (∀ id sc, v.scanners[id]? = some sc → sc.own = true →
      ∃ dropped, dropped ≤ 1 ∧ (dropped = 1 → sc.works = false ∧ sc.stopped = true) ∧
        (freshOn disk limits wall).accepted id events =
          (freshOn disk limits wall).served id events + (sc.pending && sc.works).toNat +
            dropped) ∧
    ∀ before caller after u first, events = before ++ .turn (.call caller) :: after →
      (freshOn disk limits wall).run before = some (u, first) →
      u.calls[caller]? = some (.scan .waiting) → u.store.enabled = true →
      ∃ (id : ScannerId) (u' : World) (sc sc' : Scanner),
        u.apply (.turn (.call caller)) = some (u', []) ∧ u.switch.slot = some id ∧
        u'.scanners[id]? = some sc ∧ sc.pending = true ∧ sc.works = true ∧
        v.scanners[id]? = some sc' ∧
        (u'.begun id after = true ∨ sc'.stopped = true ∨
          (Waits u' id sc after sc' ∧ (v.step (.scanner id)).isSome = true)) := by
  have hlimits : v.store.limits = limits := limits_passed v (mem_passed_of_run hrun)
  have hstaffed := Staffed.passed hrun ((hasTime_iff hlimits).mpr htime) htakes
  constructor
  · intro id sc hsc hown
    obtain ⟨dropped, hle, hdropped, hcount⟩ := (settles_of_run hrun hstaffed id).own sc hsc hown
    refine ⟨dropped, hle, fun hone => ⟨hdropped hone, ?_⟩, hcount⟩
    have hworks := hdropped hone
    cases hgoes : sc.stopped with
    | true => rfl
    | false =>
      have hv := hstaffed v (mem_passed_of_run hrun)
      cases hworks.symm.trans (hv.working_of_unstopped hsc hown hgoes).2
  · rintro before caller after u first rfl hbefore hcall hon
    have hrun' := hrun
    rw [run_append, hbefore, Option.bind_some] at hrun
    obtain ⟨⟨x, later⟩, hrest, hx⟩ := Option.map_eq_some_iff.mp hrun
    obtain ⟨⟨u', early⟩, happly, hrest⟩ := Option.bind_eq_some_iff.mp hrest
    obtain ⟨⟨y, rest⟩, hafter, hy⟩ := Option.map_eq_some_iff.mp hrest
    cases hy
    cases hx
    have hu : u.Staffed := hstaffed u (mem_passed_append hbefore (self_mem_passed u _))
    have hlater : ∀ x ∈ u'.passed after, x.Staffed := fun x hx =>
      hstaffed x (mem_passed_append hbefore (mem_passed_cons.mpr (.inr ⟨u', early, happly, hx⟩)))
    obtain ⟨id, hslot, sc, hsc, hown, -, hworks⟩ := hu.working hon
    obtain ⟨rfl, hsc'⟩ := asks_of_scan hcall hon hslot hsc happly
    have hrequest : sc.request = (sc.request.1, sc.request.2) := rfl
    obtain ⟨hphase, -, hpending, -⟩ := request_of_works hworks hrequest
    have hworks' : sc.request.2.works = true := by rw [Scanner.works, hphase]; exact hworks
    have hown' : sc.request.2.own = true := sc.request_same.1.trans hown
    obtain ⟨sc', hend, -, hcases⟩ :=
      heeded_of_run hsc' hown' hworks' hpending hlater hafter
    refine ⟨id, u', sc.request.2, sc', happly, hslot, hsc', hpending, hworks', hend, ?_⟩
    refine hcases.imp_right (Or.imp_right fun hwaits => ⟨hwaits, ?_⟩)
    exact (Sound.passed x (mem_passed_of_run hrun')).scanner_goes hend hwaits.works hwaits.pending

/-- Four requests: for a first sweep, two while it is on its way, of which the second is refused,
and one during the second sweep, which is dropped since the store is turned off. -/
def fourRequests : List Event := List.flatten
  [[.edit (.write "a" [1] ⟨1, 0⟩), .call (.toggle true), .turn (.call 0), .call (.lookup ⟨"a"⟩)],
    List.replicate 10 (.turn (.call 1)), [.turn (.scanner 0), .call .scan, .turn (.call 2)],
    List.replicate 2 (.turn (.scanner 0)),
    [.call .scan, .turn (.call 3), .call .scan, .turn (.call 4)],
    List.replicate 4 (.turn (.scanner 0)),
    [.call .scan, .turn (.call 5), .call (.toggle false), .turn (.call 6)],
    List.replicate 6 (.turn (.scanner 0))]

theorem requests_heeded_four :
    (∀ h ∈ (freshOn Disk.empty ⟨7, 10, 1000⟩ ⟨0, 0⟩).happenings fourRequests,
      h.1.takesWhileOn h.2 = false) ∧
    (∃ v notices sc, (freshOn Disk.empty ⟨7, 10, 1000⟩ ⟨0, 0⟩).run fourRequests =
        some (v, notices) ∧ v.now + Scanner.period ⟨7, 10, 1000⟩ ≤ Scanner.lastMoment ∧
      v.scanners[0]? = some sc ∧ sc.stopped = true ∧
      (freshOn Disk.empty ⟨7, 10, 1000⟩ ⟨0, 0⟩).accepted 0 fourRequests = 3 ∧
      (freshOn Disk.empty ⟨7, 10, 1000⟩ ⟨0, 0⟩).served 0 fourRequests = 2) ∧
    ∃ u first, (freshOn Disk.empty ⟨7, 10, 1000⟩ ⟨0, 0⟩).run (fourRequests.take 22) =
        some (u, first) ∧ u.calls[4]? = some (.scan .waiting) ∧
      ∃ (id : ScannerId) (u' : World) (sc : Scanner),
        u.apply (.turn (.call 4)) = some (u', []) ∧ u'.scanners[id]? = some sc ∧
        sc.pending = true := by
  have htakes : ∀ h ∈ (freshOn Disk.empty ⟨7, 10, 1000⟩ ⟨0, 0⟩).happenings fourRequests,
      h.1.takesWhileOn h.2 = false := by decide +kernel
  have haccepted : (freshOn Disk.empty ⟨7, 10, 1000⟩ ⟨0, 0⟩).accepted 0 fourRequests = 3 := by
    decide +kernel
  have hserved : (freshOn Disk.empty ⟨7, 10, 1000⟩ ⟨0, 0⟩).served 0 fourRequests = 2 := by
    decide +kernel
  have hends : ((freshOn Disk.empty ⟨7, 10, 1000⟩ ⟨0, 0⟩).run fourRequests).map (fun r =>
      (r.1.now, r.1.scanners.map fun sc => (sc.own, sc.works))) = some (0, [(true, false)]) := by
    decide +kernel
  obtain ⟨⟨v, notices⟩, hrun, hend⟩ := Option.map_eq_some_iff.mp hends
  obtain ⟨hnow, hend⟩ := Prod.mk.inj hend
  have htime : v.now + Scanner.period ⟨7, 10, 1000⟩ ≤ Scanner.lastMoment := by
    rw [hnow]
    decide
  obtain ⟨sc, hscanners, hsc⟩ := List.map_eq_singleton_iff.mp hend
  obtain ⟨hown, hworks⟩ := Prod.mk.inj hsc
  have hat : v.scanners[0]? = some sc := by rw [hscanners]; rfl
  obtain ⟨hcount, hheeded⟩ := requests_heeded Disk.empty ⟨7, 10, 1000⟩ ⟨0, 0⟩ fourRequests v
    notices hrun (fun u event => htakes (u, event)) htime
  obtain ⟨dropped, hle, hdropped, hsum⟩ := hcount 0 sc hat hown
  have hone : dropped = 1 := by
    rw [haccepted, hserved, hworks, Bool.and_false, Bool.toNat_false] at hsum
    omega
  have hbefore : ((freshOn Disk.empty ⟨7, 10, 1000⟩ ⟨0, 0⟩).run (fourRequests.take 22)).map
      (fun r => (r.1.calls[4]?, r.1.store.enabled)) = some (some (.scan .waiting), true) := by rfl
  obtain ⟨⟨u, first⟩, hfirst, hnow⟩ := Option.map_eq_some_iff.mp hbefore
  obtain ⟨hcall, hon⟩ := Prod.mk.inj hnow
  obtain ⟨id, u', sc', -, happly, -, hsc', hpending, -⟩ :=
    hheeded (fourRequests.take 22) 4 (fourRequests.drop 23) u first rfl hfirst hcall hon
  exact ⟨htakes, ⟨v, notices, sc, hrun, htime, hat, (hdropped hone).2, haccepted, hserved⟩, u,
    first, hfirst, hcall, id, u', sc', happly, hsc', hpending⟩

/-- The store is turned on, its scanner breaks off, and somebody asks for a sweep. -/
def unheard : List Event :=
  [.call (.toggle true), .turn (.call 0), .turn (.scanner 0), .call .scan]

/-- The store is on, but its scanner has neither kept the request nor swept, and never will; nobody
has told it to stop. -/
theorem unheard_unheeded :
    ∃ u first v sc, (freshOn Disk.empty endless ⟨0, 0⟩).run unheard = some (u, first) ∧
      u.calls[1]? = some (.scan .waiting) ∧ u.store.enabled = true ∧
      u.apply (.turn (.call 1)) = some (v, []) ∧ v.switch.slot = some 0 ∧
      v.scanners[0]? = some sc ∧ sc.own = true ∧ sc.pending = false ∧ sc.stopped = false ∧
      (freshOn Disk.empty endless ⟨0, 0⟩).begun 0 unheard = false ∧
      v.step (.scanner 0) = none := by
  have hbegun : (freshOn Disk.empty endless ⟨0, 0⟩).begun 0 unheard = false := by decide +kernel
  have hends : ((freshOn Disk.empty endless ⟨0, 0⟩).run unheard).bind (fun r =>
      (r.1.apply (.turn (.call 1))).map fun r' => (r.1.calls[1]?, r.1.store.enabled, r'.2,
        r'.1.switch.slot, r'.1.scanners)) =
      some (some (.scan .waiting), true, [], some 0,
        [{ phase := .ended, own := true, stopped := false, pending := false, deadline := 0 }]) := by
    rfl
  obtain ⟨⟨u, first⟩, hrun, hend⟩ := Option.bind_eq_some_iff.mp hends
  obtain ⟨⟨v, notices⟩, happly, hend⟩ := Option.map_eq_some_iff.mp hend
  simp only [Prod.mk.injEq] at hend
  obtain ⟨hcall, hon, rfl, hslot, hscanners⟩ := hend
  refine ⟨u, first, v, _, hrun, hcall, hon, happly, hslot, by rw [hscanners]; rfl, rfl, rfl, rfl,
    hbegun, ?_⟩
  simp [step, hscanners, stepScanner, Scanner.step]

end World
end FileCache
