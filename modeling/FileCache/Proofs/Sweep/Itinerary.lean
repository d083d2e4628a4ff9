import FileCache.Proofs.Sweep.Alone
import FileCache.Proofs.Sweep.Progress
import FileCache.Proofs.World.History
import FileCache.Proofs.World.Reports
import FileCache.Proofs.World.Rest

/-!
The way of a sweep through its list.

A turn of a sweep that has taken its list goes on with the visit to the head of the list, or it
ends the visit, tells the verdict and leaves the rest of the list.  No verdict keeps a sweep from
going on.
-/

namespace FileCache

theorem Notice.verdict?_of_isWarning {n : Notice} (h : n.isWarning = true) : n.verdict? = none := by
  cases n with
  | statFailed path => rfl
  | reloadFailed path => rfl
  | _ => cases h

namespace Store

/-- The last visit of a sweep counts the sweep. -/
def signOff (rest : List EntryId) (s : Store) : Store :=
  match rest with
  | [] => s.count .scanCycle
  | _ :: _ => s

end Store

namespace Sweep

/-- The verdict that is told in a turn. -/
def verdictOf (st : Step Sweep) : Option Verdict :=
  (st.notices.findSome? Notice.verdict?).map (·.2)

variable {now : Nat} {disk : Disk} {s : Store} {sw : Sweep} {st : Step Sweep} {id : EntryId}
  {e : Entry} {rest : List EntryId}

theorem store_proceed (sw : Sweep) (todo : List EntryId) (s : Store) (notices : List Notice) :
    (sw.proceed todo s notices).store = s.signOff todo := by
  cases todo <;> rfl

/-- A turn of the visit to the entry `e`, with the verdict that is told in it. -/
inductive Leg (now : Nat) (disk : Disk) (s : Store) (sw : Sweep) (id : EntryId) (e : Entry)
    (rest : List EntryId) (st : Step Sweep) : Option Verdict → Prop
  | on {phase : Phase} (hcourse : Course now disk s id e sw.phase phase st.store)
      (hnext : st.next = { sw with phase, wasMissing := sw.noted e }) :
      Leg now disk s sw id e rest st none
  | ended {verdict : Verdict} {t : Store} (hending : Ending now disk s id e sw.phase verdict t)
      (hstore : st.store = t.signOff rest) (htodo : st.next.todo = rest) :
      Leg now disk s sw id e rest st (some verdict)

theorem findSome?_warnings {warnings : List Notice} (h : ∀ n ∈ warnings, n.isWarning = true) :
    warnings.findSome? Notice.verdict? = none :=
  List.findSome?_eq_none_iff.mpr fun n hn => Notice.verdict?_of_isWarning (h n hn)

theorem visit_leg (htodo : sw.todo = id :: rest)
    (h : sw.visit now disk s id e rest = some st) :
    Leg now disk s sw id e rest st (verdictOf st) := by
  cases visit_cases h with
  | on hcourse =>
    cases visit_tells h with
    | goes hwarnings hnotices _ =>
      have hquiet := findSome?_warnings hwarnings
      rw [verdictOf, hnotices, hquiet]
      exact .on hcourse rfl
    | ends _ _ hrest => exact absurd (htodo.symm.trans hrest) (List.cons_ne_self id rest)
  | @ended verdict t notices hending =>
    have hrest : (sw.conclude e.path rest verdict t notices).next.todo = rest :=
      todo_proceed _ _ _ _
    cases visit_tells h with
    | goes _ _ hsame =>
      exact absurd ((hsame.trans htodo).symm.trans hrest) (List.cons_ne_self id rest)
    | @ends warnings told hwarnings hnotices _ =>
      rw [conclude, notices_proceed] at hnotices
      obtain ⟨-, hlast⟩ := List.append_inj' hnotices rfl
      cases hlast
      have htold : verdictOf (sw.conclude e.path rest verdict t notices) = some verdict := by
        rw [verdictOf, conclude, notices_proceed, hnotices, List.findSome?_append,
          findSome?_warnings hwarnings]
        rfl
      rw [htold]
      exact .ended hending (store_proceed _ _ _ _) hrest

/-- What a turn of a sweep with a list is. -/
theorem step_leg (hlisting : sw.phase ≠ .listing) (h : sw.step now disk s = some st) :
    ∃ id rest e, sw.todo = id :: rest ∧ s.entry? id = some e ∧
      Leg now disk s sw id e rest st (verdictOf st) := by
  unfold step at h
  split at h
  · rename_i hphase
    exact absurd hphase hlisting
  · cases h
  · rename_i id rest htodo _
    obtain ⟨e, he, h⟩ := Option.bind_eq_some_iff.mp h
    exact ⟨id, rest, e, htodo, he, visit_leg htodo h⟩

theorem Phase.load_le {phase : Phase} (h : phase ≠ .listing) : phase.load ≤ 10 := by
  have hreading (r : Reading) : r.load ≤ 3 := by
    cases r <;> simp [Reading.load]
  cases phase with
  | listing => exact absurd rfl h
  | preloading r =>
    have hle := hreading r
    simp only [Phase.load]
    omega
  | reloading r =>
    have hle := hreading r
    simp only [Phase.load]
    omega
  | _ => simp [Phase.load]

/-- A sweep that is over has nothing left to visit. -/
theorem todo_of_finished (h : sw.step now disk s = some st) (hphase : st.next.phase = .finished) :
    st.next.todo = [] := by
  have hproceed (sw : Sweep) (todo : List EntryId) (s : Store) (notices : List Notice)
      (h : (sw.proceed todo s notices).next.phase = .finished) :
      (sw.proceed todo s notices).next.todo = [] := by
    cases todo with
    | nil => rfl
    | cons id rest => cases h
  rcases step_cases h with ⟨-, rfl⟩ | ⟨id, rest, e, -, -, hvisit⟩
  · exact hproceed _ _ _ _ hphase
  · rcases hvisit with ⟨hcourse⟩ | ⟨-⟩
    · exact absurd hphase hcourse.ne_finished
    · exact hproceed _ _ _ _ hphase

end Sweep

namespace World

/-- The entries that the sweep of an agent has still to visit, the one at hand first. -/
def toVisit (w : World) (agent : Agent) : List EntryId := (w.sweep? agent).elim [] (·.todo)

/-- Whether an agent is in the middle of a sweep. -/
def isSweeping (w : World) (agent : Agent) : Bool := (w.sweep? agent).any Sweep.isUnderway

/-- The verdict with which the next turn of an agent ends a visit, if it does. -/
def verdict? (w : World) (agent : Agent) : Option Verdict :=
  ((w.sweep? agent).bind fun sw => sw.step w.now w.disk w.store).bind Sweep.verdictOf

/-- The entry the visit to which ends with the next turn of an agent. -/
def ends? (w : World) (agent : Agent) : Option EntryId :=
  (w.verdict? agent).bind fun _ => (w.toVisit agent).head?

/-- The entries to which an agent has ended its visits, one after the other. -/
def visited (w : World) (agent : Agent) (events : List Event) : List EntryId :=
  (w.turnsOf agent events).filterMap (·.ends? agent)

/-- The turns that an agent in the middle of a sweep can still take up to the end of it. -/
def sweepLeft (w : World) (agent : Agent) : Nat :=
  match w.sweep? agent with
  | some sw => if sw.isUnderway then sw.load 0 else 0
  | none => 0

variable {w w' v : World} {event : Event} {events : List Event} {notices more : List Notice}
  {agent : Agent} {sw : Sweep} {st : Step Sweep}

theorem isSweeping_iff : w.isSweeping agent = true ↔
    ∃ sw, w.sweep? agent = some sw ∧ sw.isUnderway = true := Option.any_eq_true _ _

theorem toVisit_of_sweep (hat : w.sweep? agent = some sw) : w.toVisit agent = sw.todo := by
  rw [toVisit, hat, Option.elim_some]

theorem toVisit_step (hat : w.sweep? agent = some sw) (hturn : SweepTurn w agent sw st w')
    (hstep : w.step agent = some (w', notices)) : w'.toVisit agent = st.next.todo := by
  by_cases hfinished : st.next.phase = .finished
  · have htodo := Sweep.todo_of_finished hturn.step hfinished
    cases hnext : w'.sweep? agent with
    | none => rw [htodo, toVisit, hnext, Option.elim_none]
    | some sw' => rw [toVisit_of_sweep hnext, hturn.next sw' hnext]
  · exact toVisit_of_sweep (step_sweep_at hat hturn.step hfinished hstep)

/-- A turn of an agent in the middle of a sweep. -/
inductive Leg (w : World) (agent : Agent) (sw : Sweep) (id : EntryId) (e : Entry)
    (rest : List EntryId) (w' : World) : Prop
  | on {phase : Sweep.Phase}
      (hcourse : Sweep.Course w.now w.disk w.store id e sw.phase phase w'.store)
      (hnext : w'.sweep? agent = some { sw with phase, wasMissing := sw.noted e })
      (hverdict : w.verdict? agent = none)
  | ended {verdict : Verdict} {t : Store}
      (hending : Sweep.Ending w.now w.disk w.store id e sw.phase verdict t)
      (hstore : w'.store = t.signOff rest) (hnext : w'.toVisit agent = rest)
      (hverdict : w.verdict? agent = some verdict)

theorem step_leg (hat : w.sweep? agent = some sw) (hunderway : sw.isUnderway = true)
    (hstep : w.step agent = some (w', notices)) :
    ∃ id rest e, sw.todo = id :: rest ∧ w.store.entry? id = some e ∧
      Leg w agent sw id e rest w' := by
  obtain ⟨st, hturn⟩ := step_sweep hat hstep
  obtain ⟨id, rest, e, htodo, he, hleg⟩ :=
    Sweep.step_leg (Sweep.isUnderway_iff.mp hunderway).1 hturn.step
  have hverdict : w.verdict? agent = Sweep.verdictOf st := by
    rw [verdict?, hat, Option.bind_some, hturn.step, Option.bind_some]
  refine ⟨id, rest, e, htodo, he, ?_⟩
  generalize Sweep.verdictOf st = told at hleg hverdict
  cases hleg with
  | on hcourse hnext =>
    have hgoes : st.next.phase ≠ .finished := hnext ▸ hcourse.ne_finished
    exact .on (hturn.store ▸ hcourse) (hnext ▸ step_sweep_at hat hturn.step hgoes hstep) hverdict
  | ended hending hstore htodo =>
    exact .ended hending (hturn.store.trans hstore)
      ((toVisit_step hat hturn hstep).trans htodo) hverdict

/-- An agent in the middle of a sweep can take its turn. -/
theorem Sound.goes_of_sweeping (hw : w.Sound) (h : w.isSweeping agent = true) :
    (w.step agent).isSome = true := by
  obtain ⟨sw, hat, hunderway⟩ := isSweeping_iff.mp h
  refine Option.isSome_iff_ne_none.mpr fun hnone => ?_
  have hgoes := hw.sweep_goes hat (Sweep.isUnderway_iff.mp hunderway).2
  rw [stepSweep_none hat hnone] at hgoes
  cases hgoes

/-! ## Runs -/

/-- What an agent has done of the list of its sweep since `w`. -/
structure Itinerary (w : World) (agent : Agent) (events : List Event) (v : World) : Prop where
  visited : w.visited agent events ++ v.toVisit agent = w.toVisit agent
  few : (w.turnsOf agent events).length + v.sweepLeft agent ≤ w.sweepLeft agent
  sweeping : v.toVisit agent ≠ [] → v.isSweeping agent = true

theorem sweepLeft_of_sweeping (hat : w.sweep? agent = some sw) (hunderway : sw.isUnderway = true)
    (n : Nat) : w.sweepLeft agent = sw.load n := by
  simp only [sweepLeft, hat, if_pos hunderway]
  exact Sweep.load_of_listed (Sweep.isUnderway_iff.mp hunderway).1 0 n

theorem sweepLeft_le (h : w.isSweeping agent = true) :
    w.sweepLeft agent ≤ 11 * (w.toVisit agent).length + 10 := by
  obtain ⟨sw, hat, hunderway⟩ := isSweeping_iff.mp h
  have hlisting := (Sweep.isUnderway_iff.mp hunderway).1
  have hle := Sweep.Phase.load_le hlisting
  rw [sweepLeft_of_sweeping hat hunderway 0, Sweep.load, if_neg hlisting, toVisit_of_sweep hat]
  omega

/-- An agent whose sweep is not over stays in the middle of it. -/
theorem sweep?_step (hat : w.sweep? agent = some sw) (hturn : SweepTurn w agent sw st w')
    (hstep : w.step agent = some (w', notices)) (hopen : st.next.phase ≠ .finished) :
    w'.sweep? agent = some st.next ∧ st.next.isUnderway = true :=
  ⟨step_sweep_at hat hturn.step hopen hstep,
    Sweep.isUnderway_iff.mpr ⟨Sweep.step_ne_listing hturn.step, hopen⟩⟩

theorem sweepLeft_step (hat : w.sweep? agent = some sw) (hunderway : sw.isUnderway = true)
    (hturn : SweepTurn w agent sw st w') (hstep : w.step agent = some (w', notices)) :
    w'.sweepLeft agent < w.sweepLeft agent := by
  rw [sweepLeft_of_sweeping hat hunderway w.store.mapped.length]
  refine Nat.lt_of_le_of_lt ?_ (Sweep.step_load hturn.step)
  by_cases hover : st.next.phase = .finished
  · cases hnext : w'.sweep? agent with
    | none =>
      simp only [sweepLeft, hnext]
      exact Nat.zero_le _
    | some sw' =>
      have hended : sw'.isUnderway = false := by
        rw [hturn.next sw' hnext]
        simp [Sweep.isUnderway, hover]
      simp [sweepLeft, hnext, hended]
  · obtain ⟨hnext, hon⟩ := sweep?_step hat hturn hstep hover
    exact Nat.le_of_eq (sweepLeft_of_sweeping hnext hon _)

/-- Between its own turns a sweep stays where it is. -/
theorem sweep?_other (hother : event ≠ .turn agent) (happly : w.apply event = some (w', notices)) :
    w'.sweep? agent = w.sweep? agent ∨
      (w.sweep? agent = none ∧ w'.sweep? agent = some Sweep.fresh) := by
  cases hat : w.sweep? agent with
  | some sw => exact .inl (apply_sweep_kept happly hother hat)
  | none =>
    cases hnext : w'.sweep? agent with
    | none => exact .inl rfl
    | some sw =>
      rcases apply_sweep_cases happly hnext with ⟨-, hold⟩ | rfl | ⟨before, st, hown, -⟩
      · cases hat.symm.trans hold
      · exact .inr ⟨rfl, rfl⟩
      · exact absurd hown hother

theorem Itinerary.other (h : Itinerary w agent events v) (hother : event ≠ .turn agent)
    (hrun : w.run events = some (v, notices)) (happly : v.apply event = some (w', more)) :
    Itinerary w agent (events ++ [event]) w' := by
  have hturns := turnsOf_other hother hrun happly
  have hvisited : w.visited agent (events ++ [event]) = w.visited agent events := by
    rw [World.visited, hturns, World.visited]
  rcases sweep?_other hother happly with hsame | ⟨hnone, hfresh⟩
  · have htodo : w'.toVisit agent = v.toVisit agent := by rw [toVisit, hsame, toVisit]
    have hleft : w'.sweepLeft agent = v.sweepLeft agent := by rw [sweepLeft, hsame, sweepLeft]
    have hsweeping : w'.isSweeping agent = v.isSweeping agent := by
      rw [isSweeping, hsame, isSweeping]
    exact ⟨by rw [hvisited, htodo, h.visited], by rw [hturns, hleft]; exact h.few,
      by rw [htodo, hsweeping]; exact h.sweeping⟩
  · have hvisit : v.toVisit agent = [] := by rw [toVisit, hnone, Option.elim_none]
    have hvisit' : w'.toVisit agent = [] := toVisit_of_sweep hfresh
    have hleft : w'.sweepLeft agent = 0 := by
      simp only [sweepLeft, hfresh]
      rfl
    refine ⟨by rw [hvisited, hvisit', ← hvisit, h.visited], ?_, fun hne => absurd hvisit' hne⟩
    have hfew := h.few
    rw [hturns, hleft]
    omega

theorem Itinerary.turn (h : Itinerary w agent events v) (hsweeping : v.isSweeping agent = true)
    (hrun : w.run events = some (v, notices))
    (happly : v.apply (.turn agent) = some (w', more)) :
    Itinerary w agent (events ++ [.turn agent]) w' := by
  obtain ⟨sw, hat, hunderway⟩ := isSweeping_iff.mp hsweeping
  obtain ⟨st, hturn⟩ := step_sweep hat happly
  refine ⟨?_, ?_, fun hne => ?_⟩
  · have hvisited : w.visited agent (events ++ [.turn agent]) =
        w.visited agent events ++ (v.ends? agent).toList := by
      rw [World.visited, turnsOf_turn hrun happly, List.filterMap_append, World.visited]
      cases hends : v.ends? agent <;> simp [hends]
    have hwhole := h.visited
    obtain ⟨id, rest, e, htodo, -, hleg⟩ := step_leg hat hunderway happly
    rw [toVisit_of_sweep hat, htodo] at hwhole
    cases hleg with
    | on _ hon hverdict =>
      rw [hvisited, ends?, hverdict, toVisit_of_sweep hon, htodo]
      simpa using hwhole
    | ended _ _ hrest hverdict =>
      rw [hvisited, ends?, hverdict, toVisit_of_sweep hat, htodo, hrest]
      simpa using hwhole
  · have hlt := sweepLeft_step hat hunderway hturn happly
    have hfew := h.few
    rw [turnsOf_turn hrun happly, List.length_append, List.length_singleton]
    omega
  · rw [toVisit_step hat hturn happly] at hne
    exact isSweeping_iff.mpr ⟨st.next, sweep?_step hat hturn happly fun hfinished =>
      hne (Sweep.todo_of_finished hturn.step hfinished)⟩

/-- As long as the agent takes no other turns than those of the sweep in the middle of which it
is, it goes through the list in its order and leaves nothing out. -/
theorem itinerary_of_run (hstart : w.isSweeping agent = true)
    (hrun : w.run events = some (v, notices))
    (hsweeping : ∀ x ∈ w.turnsOf agent events, x.isSweeping agent = true) :
    Itinerary w agent events v := by
  refine run_induction (P := fun events v =>
    (∀ x ∈ w.turnsOf agent events, x.isSweeping agent = true) → Itinerary w agent events v)
    (fun _ => ⟨List.nil_append _, Nat.le_of_eq (Nat.zero_add _), fun _ => hstart⟩) ?_ hrun hsweeping
  intro events v event v' first later hrun happly ih hsweeping
  by_cases hevent : event = .turn agent
  · subst hevent
    have hturns {x : World} : x ∈ w.turnsOf agent (events ++ [.turn agent]) ↔ _ :=
      mem_turnsOf_turn hrun happly
    exact (ih fun x hx => hsweeping x (hturns.mpr (.inl hx))).turn
      (hsweeping v (hturns.mpr (.inr rfl))) hrun happly
  · rw [turnsOf_other hevent hrun happly] at hsweeping
    exact (ih hsweeping).other hevent hrun happly

end World
end FileCache
