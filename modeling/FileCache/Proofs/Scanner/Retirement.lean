import FileCache.Proofs.Scanner.Course
import FileCache.Proofs.Switch.Requests
import FileCache.Proofs.Switch.Sequence

/-!
What a scanner still does after it was told to stop.

Nothing makes it forget that it was.  So the sweep underway, if any, is its last, since it looks at
the signal before it looks for a reason to wake; it clears the store next, and has ended.  It ends
without a clear if it was told to stop before its first turn, and finds in that turn that the clock
cannot hold its deadline (`endless_never_clears`).
-/

namespace FileCache

namespace Scanner

variable {now : Nat} {disk : Disk} {s : Store} {sc : Scanner} {st : Step Scanner}

/-- A turn on the way to the end.  All that is done in it is done by the sweep underway, or it is
the clear with which the scanner ends, unless it ends as it starts. -/
def Retires (now : Nat) (disk : Disk) (s : Store) (sc : Scanner) (st : Step Scanner) : Prop :=
  match sc.phase with
  | .starting => st.next.phase = (if fits now s.limits then .idle else .ended) ∧ st.store = s
  | .sweeping cause sw =>
    ∃ turn, sw.step now disk s = some turn ∧ st.store = turn.store ∧
      st.next.phase = if turn.next.report?.isSome then .idle else .sweeping cause turn.next
  | .idle => st.next.phase = .clearing ∧ st.store = s
  | .clearing => st.next.phase = .ended ∧ st.store = s.dropAll
  | .ended => False

theorem Turn.retires (h : sc.Turn now disk s st) (hstopped : sc.stopped = true) :
    sc.Retires now disk s st := by
  cases h with
  | started hphase hfits => simp [Retires, hphase, hfits]
  | unstarted hphase hfull => simp [Retires, hphase, hfull, breakOff]
  | dismissed hphase => simp [Retires, hphase]
  | asked _ hgoes => cases hstopped.symm.trans hgoes
  | unanswered _ hgoes => cases hstopped.symm.trans hgoes
  | due _ hgoes => cases hstopped.symm.trans hgoes
  | sweeps hphase hstep hgoes =>
    rw [Retires, hphase]
    exact ⟨_, hstep, rfl, by rw [hgoes]; rfl⟩
  | swept hphase hstep hreport =>
    rw [Retires, hphase]
    exact ⟨_, hstep, rfl, by rw [hreport]; rfl⟩
  | cleared hphase => simp [Retires, hphase]

/-- How many turns a scanner that was told to stop still takes, with `n` entries in the map when
it lists them. -/
def lastTurns (n : Nat) (sc : Scanner) : Nat :=
  match sc.phase with
  | .starting => 3
  | .idle => 2
  | .sweeping _ sw => 2 + sw.load n
  | .clearing => 1
  | .ended => 0

/-- Whether the scanner has begun a sweep, but not listed the map yet. -/
def isListing (sc : Scanner) : Bool := sc.sweep?.any (·.phase = .listing)

theorem Turn.lastTurns_lt (h : sc.Turn now disk s st) (hstopped : sc.stopped = true) {n : Nat}
    (hn : sc.isListing = true → s.mapped.length ≤ n) : st.next.lastTurns n < sc.lastTurns n := by
  have hsweep {cause : Wake} {sw : Sweep} {turn : Step Sweep}
      (hphase : sc.phase = .sweeping cause sw) (hstep : sw.step now disk s = some turn) :
      turn.next.load n < sw.load n := by
    by_cases hlisting : sw.phase = .listing
    · exact Sweep.step_load_lt hstep (hn (by simp [isListing, sweep?, hphase, hlisting]))
    · rw [Sweep.load_of_listed (Sweep.step_ne_listing hstep) n s.mapped.length,
        Sweep.load_of_listed hlisting n s.mapped.length]
      exact Sweep.step_load hstep
  cases h with
  | started hphase => simp [lastTurns, hphase]
  | unstarted hphase => simp [lastTurns, hphase, breakOff]
  | dismissed hphase => simp [lastTurns, hphase]
  | asked _ hgoes => cases hstopped.symm.trans hgoes
  | unanswered _ hgoes => cases hstopped.symm.trans hgoes
  | due _ hgoes => cases hstopped.symm.trans hgoes
  | sweeps hphase hstep =>
    simp only [lastTurns, hphase]
    exact Nat.add_lt_add_left (hsweep hphase hstep) 2
  | swept hphase hstep =>
    simp only [lastTurns, hphase]
    exact Nat.lt_add_of_pos_right (Nat.zero_lt_of_lt (hsweep hphase hstep))
  | cleared hphase => simp [lastTurns, hphase]

theorem Turn.isListing (h : sc.Turn now disk s st) (hstopped : sc.stopped = true) :
    st.next.isListing = false := by
  cases h with
  | asked _ hgoes => cases hstopped.symm.trans hgoes
  | unanswered _ hgoes => cases hstopped.symm.trans hgoes
  | due _ hgoes => cases hstopped.symm.trans hgoes
  | sweeps _ hstep => simp [Scanner.isListing, sweep?, Sweep.step_ne_listing hstep]
  | _ => rfl

end Scanner

namespace World

variable {u v v' : World} {event : Event} {events : List Event} {notices more : List Notice}
  {id : ScannerId} {was sc sc' : Scanner}

/-- The sweep of a scanner comes to its report in its next step. -/
def reportsNext (w : World) (id : ScannerId) : Bool :=
  (w.sweep? (.scanner id)).any fun sw =>
    (sw.step w.now w.disk w.store).any fun st => st.next.report?.isSome

def clearsNext (w : World) (id : ScannerId) : Bool :=
  (w.scanners[id]?).any fun sc => sc.phase = .clearing

/-- How many sweeps a scanner finishes in a run. -/
def sweepsFinished (w : World) (id : ScannerId) (events : List Event) : Nat :=
  (w.turnsOf (.scanner id) events).countP (·.reportsNext id)

/-- How often a scanner clears the store in a run. -/
def clearings (w : World) (id : ScannerId) (events : List Event) : Nat :=
  (w.turnsOf (.scanner id) events).countP (·.clearsNext id)

/-- What a scanner that was told to stop when it was `was` has done in a run, by which it has become
`sc`. -/
structure Retirement (u : World) (id : ScannerId) (was : Scanner) (events : List Event)
    (sc : Scanner) : Prop where
  stopped : sc.stopped = true
  started : sc.phase = .starting → was.phase = .starting
  /-- No sweep is begun. -/
  begun : u.begun id events = false
  /-- The sweep underway, if any, is finished once or still underway. -/
  sweeps : u.sweepsFinished id events + sc.sweep?.isSome.toNat = was.sweep?.isSome.toNat
  /-- The store is cleared once, at the end, if the clock has time for a deadline whenever the
  scanner that was told to stop before it started takes a turn. -/
  clears : (was.phase = .starting → ∀ x ∈ u.turnsOf (.scanner id) events, x.HasTime) →
    u.clearings id events + (!sc.hasEnded).toNat = (!was.hasEnded).toNat
  turns : ∀ x ∈ u.turnsOf (.scanner id) events, ∃ before st, x.scanners[id]? = some before ∧
    before.step x.now x.disk x.store = some st ∧ before.Retires x.now x.disk x.store st
  few : ∀ n, (∀ x ∈ (u.turnsOf (.scanner id) events).head?, x.store.mapped.length ≤ n) →
    (u.turnsOf (.scanner id) events).length + sc.lastTurns n ≤ was.lastTurns n
  listed : u.turnsOf (.scanner id) events ≠ [] → sc.isListing = false

theorem Retirement.refl (hstopped : was.stopped = true) : Retirement u id was [] was where
  stopped := hstopped
  started h := h
  begun := rfl
  sweeps := Nat.zero_add _
  clears _ := Nat.zero_add _
  turns _ h := by cases h
  few n _ := Nat.le_of_eq (Nat.zero_add _)
  listed h := absurd rfl h

theorem countP_concat {α : Type} (p : α → Bool) (l : List α) (a : α) :
    (l ++ [a]).countP p = l.countP p + (p a).toNat := by
  rw [List.countP_append, List.countP_singleton]
  cases p a <;> rfl

theorem reportsNext_of_sweeping {cause : Wake} {sw : Sweep} {turn : Step Sweep}
    (hsc : v.scanners[id]? = some sc) (hphase : sc.phase = .sweeping cause sw)
    (hstep : sw.step v.now v.disk v.store = some turn) :
    v.reportsNext id = turn.next.report?.isSome := by
  rw [reportsNext, sweep?_of_phase hsc hphase, Option.any_some, hstep, Option.any_some]

theorem reportsNext_of_other (hsc : v.scanners[id]? = some sc) (hsweep : sc.sweep? = none) :
    v.reportsNext id = false := by
  rw [reportsNext, sweep?, hsc, Option.bind_some, hsweep]
  rfl

/-- A turn of the scanner finishes its sweep, if that comes to its report. -/
theorem sweep_of_turn {st : Step Scanner} (hsc : v.scanners[id]? = some sc)
    (hstopped : sc.stopped = true) (hturn : sc.Turn v.now v.disk v.store st) :
    (v.reportsNext id).toNat + st.next.sweep?.isSome.toNat = sc.sweep?.isSome.toNat := by
  have hother (hsweep : sc.sweep? = none) : v.reportsNext id = false :=
    reportsNext_of_other hsc hsweep
  cases hturn with
  | started hphase =>
    rw [hother (by simp [Scanner.sweep?, hphase])]
    simp [Scanner.sweep?, hphase]
  | unstarted hphase =>
    rw [hother (by simp [Scanner.sweep?, hphase])]
    simp [Scanner.sweep?, hphase, Scanner.breakOff]
  | dismissed hphase =>
    rw [hother (by simp [Scanner.sweep?, hphase])]
    simp [Scanner.sweep?, hphase]
  | asked _ hgoes => cases hstopped.symm.trans hgoes
  | unanswered _ hgoes => cases hstopped.symm.trans hgoes
  | due _ hgoes => cases hstopped.symm.trans hgoes
  | sweeps hphase hstep hgoes =>
    rw [reportsNext_of_sweeping hsc hphase hstep, hgoes]
    simp [Scanner.sweep?, hphase]
  | swept hphase hstep hreport =>
    rw [reportsNext_of_sweeping hsc hphase hstep, hreport]
    simp [Scanner.sweep?, hphase]
  | cleared hphase =>
    rw [hother (by simp [Scanner.sweep?, hphase])]
    simp [Scanner.sweep?, hphase]

/-- A turn of the scanner ends it, if it clears the store. -/
theorem clear_of_turn {st : Step Scanner} (hsc : v.scanners[id]? = some sc)
    (hstopped : sc.stopped = true) (htime : sc.phase = .starting → v.HasTime)
    (hturn : sc.Turn v.now v.disk v.store st) :
    (v.clearsNext id).toNat + (!st.next.hasEnded).toNat = (!sc.hasEnded).toNat := by
  rw [clearsNext, hsc, Option.any_some]
  cases hturn with
  | asked _ hgoes => cases hstopped.symm.trans hgoes
  | unanswered _ hgoes => cases hstopped.symm.trans hgoes
  | due _ hgoes => cases hstopped.symm.trans hgoes
  | started hphase => simp [Scanner.hasEnded, hphase]
  | unstarted hphase hfull => cases hfull.symm.trans (htime hphase)
  | dismissed hphase => simp [Scanner.hasEnded, hphase]
  | sweeps hphase => simp [Scanner.hasEnded, hphase]
  | swept hphase => simp [Scanner.hasEnded, hphase]
  | cleared hphase => simp [Scanner.hasEnded, hphase]

theorem Retirement.snoc (h : Retirement u id was events sc)
    (hrun : u.run events = some (v, notices)) (happly : v.apply event = some (v', more))
    (hsc : v.scanners[id]? = some sc) (hfares : Fares v event v' id sc sc') :
    Retirement u id was (events ++ [event]) sc' := by
  cases hfares with
  | rests hphase _ hstopped hother =>
    have hturns := turnsOf_other hother hrun happly
    have hsweep : sc'.sweep? = sc.sweep? := by rw [Scanner.sweep?, Scanner.sweep?, hphase]
    refine ⟨hstopped h.stopped, hphase ▸ h.started, ?_, ?_, ?_, hturns ▸ h.turns,
      fun n hn => ?_, ?_⟩
    · rw [begun_snoc hrun happly, h.begun, begins?_other hother]
      rfl
    · rw [sweepsFinished, hturns, hsweep]
      exact h.sweeps
    · rw [clearings, hturns, Scanner.hasEnded, hphase]
      exact h.clears
    · rw [hturns] at hn ⊢
      rw [Scanner.lastTurns, hphase]
      exact h.few n hn
    · rw [hturns, Scanner.isListing, hsweep]
      exact h.listed
  | @goes st hevent hstep =>
    subst hevent
    have hturn := Scanner.step_turn hstep
    have hturns := turnsOf_turn hrun happly
    refine ⟨hturn.stopped.trans h.stopped, fun hstarts => absurd hstarts hturn.ne_starting, ?_, ?_,
      fun htime => ?_, fun x hx => ?_, fun n hn => ?_,
      fun _ => hturn.isListing h.stopped⟩
    · rw [begun_snoc hrun happly, h.begun, begins?_self hsc, Scanner.begins?_eq,
        Scanner.woken?_of_stopped h.stopped, ite_self]
      rfl
    · have hsweeps := h.sweeps
      have hsweep := sweep_of_turn hsc h.stopped hturn
      rw [sweepsFinished] at hsweeps
      rw [sweepsFinished, hturns, countP_concat]
      omega
    · have hmem {x : World} (hx : x ∈ u.turnsOf (.scanner id) events ∨ x = v) :=
        (mem_turnsOf_turn hrun happly).mpr hx
      have hclears := h.clears fun hstarts x hx => htime hstarts x (hmem (.inl hx))
      have hclear := clear_of_turn hsc h.stopped
        (fun hstarts => htime (h.started hstarts) v (hmem (.inr rfl))) hturn
      rw [clearings] at hclears
      rw [clearings, hturns, countP_concat]
      omega
    · rcases (mem_turnsOf_turn hrun happly).mp hx with hold | rfl
      · exact h.turns x hold
      · exact ⟨sc, st, hsc, hstep, hturn.retires h.stopped⟩
    · rw [hturns] at hn ⊢
      have hlt : st.next.lastTurns n < sc.lastTurns n := by
        refine hturn.lastTurns_lt h.stopped fun hlisting => ?_
        -- the scanner lists the map in its first turn or not at all
        have hfirst : u.turnsOf (.scanner id) events = [] := by
          refine Classical.byContradiction fun hnot => ?_
          cases hlisting.symm.trans (h.listed hnot)
        rw [hfirst] at hn
        exact hn v rfl
      have hfew := h.few n fun x hx => hn x (by
        obtain ⟨rest, hrest⟩ := List.head?_eq_some_iff.mp hx
        rw [hrest]
        rfl)
      rw [List.length_append, List.length_singleton]
      omega

/-- A scanner that was told to stop, in whatever course of events. -/
theorem retirement_of_run (hsc : u.scanners[id]? = some was) (hstopped : was.stopped = true)
    (hrun : u.run events = some (v, notices)) :
    ∃ sc, v.scanners[id]? = some sc ∧ Retirement u id was events sc := by
  refine run_induction (P := fun events v => ∃ sc, v.scanners[id]? = some sc ∧
    Retirement u id was events sc) ⟨was, hsc, .refl hstopped⟩ ?_ hrun
  rintro events v event v' first later hrun happly ⟨sc, hsc, hretires⟩
  obtain ⟨sc', hsc', hfares⟩ := apply_fares happly hsc
  exact ⟨sc', hsc', hretires.snoc hrun happly hsc hfares⟩

/-! ## The end -/

/-- A scanner that was told to stop never waits. -/
theorem Sound.stopped_goes (hv : v.Sound) (hsc : v.scanners[id]? = some sc)
    (hstopped : sc.stopped = true) :
    (v.step (.scanner id)).isSome = true ↔ sc.phase ≠ .ended := by
  rw [World.step, hsc, Option.bind_some, stepScanner, Option.isSome_map]
  cases hphase : sc.phase with
  | starting => simp [Scanner.step, hphase]
  | idle => simp [Scanner.step, hphase, hstopped]
  | sweeping cause sw =>
    have hat := sweep?_of_phase hsc hphase
    have hgoes := hv.sweep_goes hat (hv.unfinished id sw hat)
    simp [Scanner.step, hphase, hgoes]
  | clearing => simp [Scanner.step, hphase]
  | ended => simp [Scanner.step, hphase]

/-- Whoever has ended takes on nothing. -/
theorem requestScan_of_ended (hsc : v.scanners[id]? = some sc) (hended : sc.phase = .ended) :
    v.requestScan id = (false, v) := by
  have hrequest : sc.request = (false, sc) := by simp [Scanner.request, Scanner.hasEnded, hended]
  obtain ⟨hlt, hget⟩ := List.getElem?_eq_some_iff.mp hsc
  have hsame : v.scanners.set id sc = v.scanners := hget ▸ List.set_getElem_self hlt
  simp only [requestScan, hsc, hrequest, hsame]

/-- A scanner that was told to stop, be it the store's own or not and wherever it was, does nothing
any more but finish the sweep underway and clear the store, once; only one that has not started
yet, and for whose deadline the clock has no time, ends without a clear.  It never waits on the way
there, it takes a bounded number of turns, and whenever the world is left alone it comes to its end.
From then on it takes no turn and no request. -/
theorem stopped_retires (disk : Disk) (limits : Limits) (wall : Time.Timestamp)
    (before : List Event) (u : World) (first : List Notice)
    (hbefore : (freshOn disk limits wall).run before = some (u, first))
    (id : ScannerId) (was : Scanner) (hwas : u.scanners[id]? = some was)
    (hstopped : was.stopped = true)
    (events : List Event) (v : World) (notices : List Notice)
    (hrun : u.run events = some (v, notices)) :
    ∃ sc, v.scanners[id]? = some sc ∧ Retirement u id was events sc ∧
      ((v.step (.scanner id)).isSome = true ↔ sc.phase ≠ .ended) ∧
      (∃ enough, ∀ turns, enough ≤ turns → (v.settle turns).1.hasEnded id = true) ∧
      (sc.phase = .ended → v.requestScan id = (false, v)) := by
  obtain ⟨sc, hsc, hretires⟩ := retirement_of_run hwas hstopped hrun
  have hsound : v.Sound := Sound.passed v (mem_passed_append hbefore (mem_passed_of_run hrun))
  refine ⟨sc, hsc, hretires, hsound.stopped_goes hsc hretires.stopped, ?_,
    requestScan_of_ended hsc⟩
  obtain ⟨enough, hrest⟩ := exists_rest v
  refine ⟨enough, fun turns hle => ?_⟩
  obtain ⟨settling, hsettle, -⟩ := v.settle_run turns
  obtain ⟨sc', hsc', hretires'⟩ := retirement_of_run hsc hretires.stopped hsettle
  exact (hrest turns hle).ended_of_stopped (hsound.settle turns) hsc' hretires'.stopped

/-- A scanner of somebody else's is told to stop in the middle of a sweep, when it has been asked
for another and its timer is long overdue. -/
def interrupted : List Event := List.flatten
  [[.edit (.write "a" [1, 2] ⟨1, 0⟩), .call (.toggle true), .turn (.call 0),
      .call (.lookup ⟨"a"⟩)],
    List.replicate 10 (.turn (.call 1)),
    [.spawn, .turn (.scanner 1), .request 1], List.replicate 3 (.turn (.scanner 1)),
    [.request 1, .elapse 5000, .stop 1]]

def dismissed : List Event := List.replicate 4 (.turn (.scanner 1))

theorem stopped_retires_interrupted :
    ∃ u was v sc first notices,
      (freshOn Disk.empty ⟨7, 10, 1000⟩ ⟨0, 0⟩).run interrupted = some (u, first) ∧
      u.scanners[1]? = some was ∧ was.stopped = true ∧ was.pending = true ∧
      was.sweep?.isSome = true ∧ was.deadline < u.now ∧
      u.run dismissed = some (v, notices) ∧ v.scanners[1]? = some sc ∧
      Retirement u 1 was dismissed sc ∧ sc.phase = .ended ∧ u.clearings 1 dismissed = 1 ∧
      v.requestScan 1 = (false, v) := by
  have hbefore : ((freshOn Disk.empty ⟨7, 10, 1000⟩ ⟨0, 0⟩).run interrupted).map (fun r =>
      ((r.1.scanners[1]?).map fun sc => (sc.stopped, sc.pending, sc.sweep?.isSome,
          decide (sc.deadline < r.1.now)),
        (r.1.run dismissed).map fun r => (r.1.scanners[1]?).map (·.phase))) =
      some (some (true, true, true, true), some (some .ended)) := by decide +kernel
  obtain ⟨⟨u, first⟩, hbefore, hend⟩ := Option.map_eq_some_iff.mp hbefore
  simp only [Prod.mk.injEq, Option.map_eq_some_iff, decide_eq_true_eq] at hend
  obtain ⟨⟨was, hwas, hstopped, hpending, hsweeps, hdue⟩, hend⟩ := hend
  obtain ⟨⟨v, notices⟩, hrun, last, hlast, hended⟩ := hend
  obtain ⟨sc, hsc, hretires, -, -, hends⟩ := stopped_retires Disk.empty ⟨7, 10, 1000⟩ ⟨0, 0⟩
    interrupted u first hbefore 1 was hwas hstopped dismissed v notices hrun
  cases hlast.symm.trans hsc
  have hstarted : was.phase ≠ .starting := fun hphase => by
    simp [Scanner.sweep?, hphase] at hsweeps
  have hlasts : was.phase ≠ .ended := fun hphase => by simp [Scanner.sweep?, hphase] at hsweeps
  have hclears := hretires.clears fun hphase => absurd hphase hstarted
  simp only [Scanner.hasEnded, hended, hlasts, decide_true, decide_false, Bool.not_true,
    Bool.not_false, Bool.toNat_false, Bool.toNat_true, Nat.add_zero] at hclears
  exact ⟨u, was, v, last, first, notices, hbefore, hwas, hstopped, hpending, hsweeps, hdue, hrun,
    hlast, hretires, hended, hclears, hends hended⟩

/-- A file is cached before the scanner starts, and the store is turned off. -/
def hasty : List Event :=
  [Event.edit (.write "a" [1] ⟨1, 0⟩), .call (.toggle true), .turn (.call 0),
    .call (.lookup ⟨"a"⟩)] ++
  List.replicate 10 (Event.turn (.call 1)) ++ [Event.call (.toggle false), .turn (.call 2)]

/-- The scanner was told to stop before it started, and ends in its first turn.  It has not cleared
the store. -/
theorem endless_never_clears :
    ∃ u was v sc first notices, (freshOn Disk.empty endless ⟨0, 0⟩).run hasty = some (u, first) ∧
      u.scanners[0]? = some was ∧ was.stopped = true ∧
      u.run [.turn (.scanner 0)] = some (v, notices) ∧ v.scanners[0]? = some sc ∧
      sc.phase = .ended ∧ u.clearings 0 [.turn (.scanner 0)] = 0 ∧ v.store.mapped = [0] := by
  have hends : ((freshOn Disk.empty endless ⟨0, 0⟩).run hasty).map (fun r =>
      ((r.1.scanners[0]?).map (·.stopped), r.1.clearings 0 [.turn (.scanner 0)],
        (r.1.run [.turn (.scanner 0)]).map fun r =>
          ((r.1.scanners[0]?).map (·.phase), r.1.store.mapped))) =
      some (some true, 0, some (some .ended, [0])) := by decide +kernel
  obtain ⟨⟨u, first⟩, hbefore, hend⟩ := Option.map_eq_some_iff.mp hends
  simp only [Prod.mk.injEq, Option.map_eq_some_iff] at hend
  obtain ⟨⟨was, hwas, hstopped⟩, hclears, ⟨v, notices⟩, hrun, ⟨sc, hsc, hended⟩, hmapped⟩ := hend
  exact ⟨u, was, v, sc, first, notices, hbefore, hwas, hstopped, hrun, hsc, hended, hclears,
    hmapped⟩

end World
end FileCache
