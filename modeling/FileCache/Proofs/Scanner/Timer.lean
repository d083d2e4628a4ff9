import FileCache.Proofs.Age.Bound
import FileCache.Proofs.Scanner.Course

/-!
The timer of a scanner.

On every wake the timer is set to a period from now, or, if it was due and not late beyond the
tolerance, to a period after the time at which it was due.  So it is never due later than a period
from now, and every wake but the first that finds the clock where it was brings it a whole period
nearer to the clock, from no further behind than the tolerance.

A scanner that cannot set its timer comes to its end instead: told to stop by nobody, and with the
store on, it is not idle when the world comes to rest (`endless_never_idles`).
-/

namespace FileCache

namespace Scanner

variable {now before after : Nat} {disk : Disk} {s : Store} {sc : Scanner} {st : Step Scanner}

/-- By how much less than a period after a wake the timer may be due again. -/
def slack : Wake → Nat
  | .trigger => 0
  | .timer => tolerance

/-- Whether the scanner has a timer that runs. -/
def isTicking (sc : Scanner) : Bool := sc.phase = .idle ∨ sc.sweep?.isSome

/-- A timer was set at least a period ago to a time that the clock can hold, and is due within a
period. -/
structure Timed (now period : Nat) (sc : Scanner) : Prop where
  passed : period ≤ sc.deadline
  soon : sc.deadline ≤ now + period
  held : sc.deadline ≤ lastMoment

/-- When a timer that was due at `before` is due after one event. -/
inductive Ticks (now period : Nat) (woken : Option Wake) (before after : Nat) : Prop
  | kept (hwoken : woken = none) (hset : after = before)
  | asked (hwoken : woken = some .trigger) (hset : after = now + period)
  | due (hwoken : woken = some .timer) (hdue : before ≤ now)
      (hset : after = nextDeadline now before period)

theorem deadline_wake (cause : Wake) (s : Store) (sc : Scanner) :
    (wake cause s sc).next.deadline = sc.deadline := by
  unfold wake
  split <;> rfl

theorem isTicking_wake (cause : Wake) (s : Store) (sc : Scanner) :
    (wake cause s sc).next.isTicking = s.enabled := by
  unfold wake
  cases s.enabled <;> simp [isTicking, sweep?]

/-- A timer that has not come too late is due again a period after it was due. -/
theorem nextDeadline_cases (now before period : Nat) :
    (before + tolerance < now ∧ nextDeadline now before period = now + period) ∨
      (now ≤ before + tolerance ∧ nextDeadline now before period = before + period) := by
  unfold nextDeadline
  split
  · exact .inl ⟨‹_›, rfl⟩
  · exact .inr ⟨Nat.le_of_not_lt ‹_›, rfl⟩

namespace Timed

theorem of_deadline {period : Nat} {sc' : Scanner} (hdeadline : sc'.deadline = sc.deadline)
    (h : sc.Timed now period) : sc'.Timed now period :=
  ⟨hdeadline ▸ h.passed, hdeadline ▸ h.soon, hdeadline ▸ h.held⟩

theorem later {period : Nat} (h : sc.Timed before period) (hnow : before ≤ now) :
    sc.Timed now period :=
  ⟨h.passed, Nat.le_trans h.soon (Nat.add_le_add_right hnow _), h.held⟩

/-- A timer that is due can be set to a period later: neither the period nor the clock has got
beyond half of what the clock can hold. -/
theorem next {period : Nat} (h : sc.Timed now period) (hnow : now ≤ World.longestUptime)
    (hdue : sc.deadline ≤ now) :
    ({ sc with deadline := nextDeadline now sc.deadline period } : Scanner).Timed now period := by
  have hpassed := h.passed
  unfold World.longestUptime at hnow
  constructor <;>
    rcases nextDeadline_cases now sc.deadline period with ⟨-, hset⟩ | ⟨-, hset⟩ <;>
    simp only [hset] <;> omega

end Timed

namespace Turn

theorem ticks (h : sc.Turn now disk s st) (hset : sc.phase ≠ .starting) :
    Ticks now (period s.limits) (sc.woken? now) sc.deadline st.next.deadline := by
  cases h with
  | started hphase => exact absurd hphase hset
  | unstarted hphase => exact absurd hphase hset
  | dismissed hphase hstopped => exact .kept (woken?_of_stopped hstopped) rfl
  | asked hphase hgoes hpending =>
    exact .asked (woken?_of_pending hphase hgoes hpending) (deadline_wake _ _ _)
  | unanswered hphase hgoes hpending =>
    exact .asked (woken?_of_pending hphase hgoes hpending) rfl
  | due hphase hgoes hunasked hdue =>
    exact .due (woken?_of_due hphase hgoes hunasked hdue) hdue (deadline_wake _ _ _)
  | sweeps hphase => exact .kept (woken?_of_busy (by simp [hphase])) rfl
  | swept hphase => exact .kept (woken?_of_busy (by simp [hphase])) rfl
  | cleared hphase => exact .kept (woken?_of_busy (by simp [hphase])) rfl

theorem timed (h : sc.Turn now disk s st) (hnow : now ≤ World.longestUptime)
    (hold : sc.isTicking = true → sc.Timed now (period s.limits))
    (hnext : st.next.isTicking = true) : st.next.Timed now (period s.limits) := by
  cases h with
  | started _ hfits =>
    exact ⟨Nat.le_add_left _ _, Nat.le_refl _, of_decide_eq_true hfits⟩
  | asked _ _ _ hfits =>
    rw [isTicking_wake] at hnext
    exact .of_deadline (deadline_wake _ _ _)
      ⟨Nat.le_add_left _ _, Nat.le_refl _, of_decide_eq_true (hfits hnext)⟩
  | due hphase _ _ hdue =>
    exact .of_deadline (deadline_wake _ _ _) ((hold (by simp [isTicking, hphase])).next hnow hdue)
  | sweeps hphase =>
    have hold := hold (by simp [isTicking, sweep?, hphase])
    exact ⟨hold.passed, hold.soon, hold.held⟩
  | swept hphase =>
    have hold := hold (by simp [isTicking, sweep?, hphase])
    exact ⟨hold.passed, hold.soon, hold.held⟩
  | _ => simp [isTicking, sweep?, breakOff] at hnext

end Turn

/-- Whatever a wake is worth, the timer stays ahead of it by that much. -/
theorem Ticks.ahead {period earlier slack : Nat} {woken : Option Wake}
    (h : Ticks now period woken before after) (hpast : earlier ≤ now)
    (hahead : earlier + period ≤ before + slack) : earlier + period ≤ after + slack := by
  cases h with
  | kept _ hset => omega
  | asked _ hset => omega
  | due _ _ hset => rcases nextDeadline_cases now before period with ⟨-, h⟩ | ⟨-, h⟩ <;> omega

/-- A wake puts the timer off. -/
theorem Ticks.woken {period : Nat} {cause : Wake}
    (h : Ticks now period (some cause) before after) : now + period ≤ after + slack cause := by
  cases h with
  | kept hwoken => cases hwoken
  | asked hwoken hset =>
    cases hwoken
    exact Nat.le_of_eq hset.symm
  | due hwoken _ hset =>
    cases hwoken
    simp only [slack]
    rcases nextDeadline_cases now before period with ⟨-, h⟩ | ⟨hintime, h⟩ <;> omega

end Scanner

namespace World

open Scanner (Ticks period slack)

variable {w w' v v' : World} {event : Event} {events : List Event} {notices more : List Notice}
  {id : ScannerId} {sc : Scanner}

/-- What an event makes of the timer of a scanner that has set it before. -/
theorem apply_ticks (h : w.apply event = some (w', notices)) (hsc : w.scanners[id]? = some sc)
    (hset : sc.phase ≠ .starting) :
    ∃ sc', w'.scanners[id]? = some sc' ∧ sc'.phase ≠ .starting ∧
      Ticks w.now (period w.store.limits) (w.woken? id event) sc.deadline sc'.deadline := by
  obtain ⟨sc', hsc', hfares⟩ := apply_fares h hsc
  refine ⟨sc', hsc', ?_⟩
  cases hfares with
  | rests hphase hdeadline _ hother =>
    exact ⟨hphase ▸ hset, .kept (woken?_other hother) hdeadline⟩
  | goes hevent hstep =>
    have hturn := Scanner.step_turn hstep
    subst hevent
    rw [woken?_self hsc]
    exact ⟨hturn.ne_starting, hturn.ticks hset⟩

/-- A scanner that wakes has set its timer. -/
theorem scanner_of_woken {cause : Wake} (h : w.woken? id event = some cause) :
    ∃ sc, w.scanners[id]? = some sc ∧ sc.phase ≠ .starting := by
  cases hsc : w.scanners[id]? with
  | none =>
    rw [woken?_of_none hsc] at h
    cases h
  | some sc =>
    refine ⟨sc, rfl, fun hphase => ?_⟩
    by_cases hself : event = .turn (.scanner id)
    · rw [hself, woken?_self hsc, Scanner.woken?_of_busy (by simp [hphase])] at h
      cases h
    · rw [woken?_other hself] at h
      cases h

/-! ## The timer and the clock -/

def Timed (w : World) : Prop :=
  ∀ (id : ScannerId) (sc : Scanner), w.scanners[id]? = some sc → sc.isTicking = true →
    sc.Timed w.now (period w.store.limits)

theorem Timed.apply (hw : w.Timed) (hnow : w.now ≤ longestUptime)
    (h : w.apply event = some (w', notices)) : w'.Timed := by
  intro id sc' hsc' hticks
  rw [(apply_move h).limits]
  rcases fares_back h hsc' with ⟨own, rfl⟩ | ⟨sc, hsc, hfares⟩
  · cases hticks
  · cases hfares with
    | rests hphase hdeadline =>
      have hticks' : sc.isTicking = true := by
        rw [← hticks, Scanner.isTicking, Scanner.isTicking, Scanner.sweep?, Scanner.sweep?, hphase]
      exact ((hw id sc hsc hticks').later (now_le_of_apply h)).of_deadline hdeadline
    | goes _ hstep hsame =>
      rw [hsame]
      exact (Scanner.step_turn hstep).timed hnow (hw id sc hsc) hticks

theorem Timed.passed {disk : Disk} {limits : Limits} {wall : Time.Timestamp} :
    ∀ v ∈ (freshOn disk limits wall).passed events, v.Timed := by
  refine fun v hv => (passed_induction (P := fun v => v.now ≤ longestUptime ∧ v.Timed) ?_
    ⟨Nat.zero_le _, fun _ _ h => by cases h⟩ v hv).2
  exact fun v event v' notices hv happly =>
    ⟨uptime_of_apply hv.1 happly, hv.2.apply hv.1 happly⟩

/-- As long as the clock has time for a deadline, a scanner that was not told to stop, and never
found the store off, is at work. -/
theorem works_of_run {disk : Disk} {limits : Limits} {wall : Time.Timestamp}
    (hrun : (freshOn disk limits wall).run events = some (v, notices)) (htime : v.HasTime)
    (hsc : v.scanners[id]? = some sc) (hgoes : sc.stopped = false)
    (hon : ∀ x ∈ (freshOn disk limits wall).turnsOf (.scanner id) events,
      x.store.enabled = true) : sc.works = true := by
  revert sc
  refine run_induction (P := fun events v => v.HasTime → (∀ x ∈
    (World.freshOn disk limits wall).turnsOf (.scanner id) events, x.store.enabled = true) →
    ∀ {sc : Scanner}, v.scanners[id]? = some sc → sc.stopped = false → sc.works = true) ?_ ?_
    hrun htime hon
  · intro _ _ sc hsc
    cases hsc
  · intro events v event v' first later hrun happly ih htime hon sc' hsc' hgoes
    have hbefore : ∀ x ∈ (World.freshOn disk limits wall).turnsOf (.scanner id) events,
        x.store.enabled = true := by
      intro x hx
      refine hon x ?_
      rw [turnsOf_snoc _ hrun happly]
      exact List.mem_append_left _ hx
    have htime' : v.HasTime := htime.before happly
    rcases fares_back happly hsc' with ⟨own, rfl⟩ | ⟨sc, hsc, hfares⟩
    · rfl
    · cases hfares with
      | rests hphase _ hstopped =>
        have hgoes' : sc.stopped = false := Bool.eq_false_iff.mpr fun h => by
          cases hgoes.symm.trans (hstopped h)
        have hworks := ih htime' hbefore hsc hgoes'
        rw [Scanner.works, hphase]
        exact hworks
      | goes hevent hstep =>
        have hturn := Scanner.step_turn hstep
        subst hevent
        have hgoes' : sc.stopped = false := hturn.stopped.symm.trans hgoes
        have hworks := Scanner.works_iff.mp (ih htime' hbefore hsc hgoes')
        exact Scanner.works_iff.mpr
          ⟨hturn.phase_ne_clearing hgoes' (hon v ((mem_turnsOf_turn hrun happly).mpr (.inr rfl))),
            fun hended => hworks.1 (hturn.ended htime' hended).1⟩

/-! ## Wakes that follow one another -/

/-- A wake by the timer comes no earlier after another wake than the timer was set. -/
def Spread (id : ScannerId) (period : Nat) (earlier later : World × Event) : Prop :=
  ∀ cause, earlier.1.woken? id earlier.2 = some cause →
    later.1.woken? id later.2 = some .timer → earlier.1.now + period ≤ later.1.now + slack cause

/-- The wakes of a scanner so far are apart from one another, and the timer is ahead of them. -/
structure Spaced (w : World) (id : ScannerId) (events : List Event) (v : World) : Prop where
  apart : (w.happenings events).Pairwise (Spread id (period w.store.limits))
  ahead : ∀ h ∈ w.happenings events, ∀ cause, h.1.woken? id h.2 = some cause → h.1.now ≤ v.now ∧
    ∃ sc, v.scanners[id]? = some sc ∧ sc.phase ≠ .starting ∧
      h.1.now + period w.store.limits ≤ sc.deadline + slack cause

theorem spaced_of_run (hrun : w.run events = some (v, notices)) (id : ScannerId) :
    Spaced w id events v := by
  refine run_induction (P := Spaced w id) ⟨.nil, fun _ h => by cases h⟩ ?_ hrun
  intro events v event v' first later hrun happly ih
  have hlimits : v.store.limits = w.store.limits := limits_passed v (mem_passed_of_run hrun)
  have hlater := now_le_of_apply happly
  constructor
  · rw [happenings_snoc hrun happly]
    refine List.pairwise_append.mpr ⟨ih.apart, List.pairwise_singleton _ _, fun h hh k hk => ?_⟩
    rw [List.mem_singleton.mp hk]
    intro cause hwoken htimer
    -- the timer is ahead of the earlier wake, and it is due now
    obtain ⟨-, sc, hsc, hset, hahead⟩ := ih.ahead h hh cause hwoken
    obtain ⟨sc', -, -, hticks⟩ := apply_ticks happly hsc hset
    cases hticks with
    | kept hnone => cases htimer.symm.trans hnone
    | asked hasked => cases htimer.symm.trans hasked
    | due _ hdue => exact Nat.le_trans hahead (Nat.add_le_add_right hdue _)
  · intro h hh cause hwoken
    rw [happenings_snoc hrun happly] at hh
    rcases List.mem_append.mp hh with hold | hnew
    · obtain ⟨hpast, sc, hsc, hset, hahead⟩ := ih.ahead h hold cause hwoken
      obtain ⟨sc', hsc', hset', hticks⟩ := apply_ticks happly hsc hset
      rw [hlimits] at hticks
      exact ⟨Nat.le_trans hpast hlater, sc', hsc', hset', hticks.ahead hpast hahead⟩
    · rw [List.mem_singleton.mp hnew] at hwoken ⊢
      obtain ⟨sc, hsc, hset⟩ := scanner_of_woken hwoken
      obtain ⟨sc', hsc', hset', hticks⟩ := apply_ticks happly hsc hset
      rw [hlimits, hwoken] at hticks
      exact ⟨hlater, sc', hsc', hset', hticks.woken⟩

/-! ## Wakes while the clock stands still -/

/-- How often the timer wakes a scanner in a run. -/
def timerWakes (w : World) (id : ScannerId) (events : List Event) : Nat :=
  (w.happenings events).countP fun h => h.1.woken? id h.2 = some .timer

/-- How many sweeps a scanner begins in a run because its timer is due. -/
def timerSweeps (w : World) (id : ScannerId) (events : List Event) : Nat :=
  (w.happenings events).countP fun h => h.1.begins? id h.2 = some .timer

theorem timerSweeps_le (w : World) (id : ScannerId) (events : List Event) :
    w.timerSweeps id events ≤ w.timerWakes id events := by
  refine List.countP_mono_left fun h _ hbegins => ?_
  exact decide_eq_true (woken?_of_begins? (of_decide_eq_true hbegins))

theorem timerWakes_snoc (id : ScannerId) (hrun : w.run events = some (v, notices))
    (happly : v.apply event = some (v', more)) :
    w.timerWakes id (events ++ [event]) =
      w.timerWakes id events + if v.woken? id event = some .timer then 1 else 0 := by
  rw [timerWakes, happenings_snoc hrun happly, List.countP_append, timerWakes]
  by_cases h : v.woken? id event = some .timer <;> simp [h]

/-- After some wakes by the timer at one time, the timer is ahead of the clock, or has come a period
nearer to it with every wake. -/
structure Catches (w : World) (id : ScannerId) (events : List Event) (v : World) : Prop where
  now : v.now = w.now
  few : w.timerWakes id events ≤ 5 / period w.store.limits + 1
  near : w.timerWakes id events = 0 ∨ ∃ sc, v.scanners[id]? = some sc ∧ sc.phase ≠ .starting ∧
    (w.now < sc.deadline ∨
      w.now + w.timerWakes id events * period w.store.limits ≤ sc.deadline + 5)

theorem Catches.snoc (h : Catches w id events v) (hrun : w.run events = some (v, notices))
    (happly : v.apply event = some (v', more)) (hnow : v'.now = v.now) :
    Catches w id (events ++ [event]) v' := by
  have hlimits : v.store.limits = w.store.limits := limits_passed v (mem_passed_of_run hrun)
  have hpos : 0 < period w.store.limits := by
    unfold period
    omega
  have hcount := timerWakes_snoc id hrun happly
  by_cases htimer : v.woken? id event = some .timer
  case neg =>
    rw [if_neg htimer, Nat.add_zero] at hcount
    refine ⟨hnow.trans h.now, hcount ▸ h.few, hcount ▸ h.near.imp_right ?_⟩
    rintro ⟨sc, hsc, hset, hnear⟩
    obtain ⟨sc', hsc', hset', hticks⟩ := apply_ticks happly hsc hset
    rw [hlimits, h.now] at hticks
    refine ⟨sc', hsc', hset', ?_⟩
    cases hticks with
    | kept _ hsame => exact hsame ▸ hnear
    | asked _ hasked => exact .inl (by omega)
    | due hdue => exact absurd hdue htimer
  case pos =>
    rw [if_pos htimer] at hcount
    obtain ⟨sc, hsc, hset⟩ := scanner_of_woken htimer
    obtain ⟨sc', hsc', hset', hticks⟩ := apply_ticks happly hsc hset
    rw [hlimits, h.now] at hticks
    cases hticks with
    | kept hnone => cases htimer.symm.trans hnone
    | asked hasked => cases htimer.symm.trans hasked
    | due _ hdue hnext =>
      -- the wakes so far have all been needed to bring the timer as near as it is
      have hnear : w.timerWakes id events = 0 ∨
          w.now + w.timerWakes id events * period w.store.limits ≤ sc.deadline + 5 := by
        refine h.near.imp_right ?_
        rintro ⟨old, hold, -, hnear⟩
        cases hsc.symm.trans hold
        exact hnear.resolve_left (Nat.not_lt.mpr hdue)
      have hfew : w.timerWakes id events ≤ 5 / period w.store.limits := by
        rw [Nat.le_div_iff_mul_le hpos]
        rcases hnear with hzero | hnear
        · simp [hzero]
        · omega
      refine ⟨hnow.trans h.now, hcount ▸ Nat.succ_le_succ hfew, .inr ⟨sc', hsc', hset', ?_⟩⟩
      rw [hcount, Nat.succ_mul, hnext]
      rcases Scanner.nextDeadline_cases w.now sc.deadline (period w.store.limits) with
        ⟨-, hset⟩ | ⟨htolerated, hset⟩
      · exact .inl (by omega)
      · unfold Scanner.tolerance at htolerated
        refine .inr ?_
        rcases hnear with hzero | hnear
        · rw [hzero]
          omega
        · omega

/-- However late the timers are, while the clock stands still they wake a scanner no more often
than periods fit in the tolerance, and once. -/
theorem timerWakes_le (hrun : w.run events = some (v, notices))
    (hstill : ∀ ms, .elapse ms ∉ events) (id : ScannerId) :
    w.timerWakes id events ≤ 5 / period w.store.limits + 1 := by
  suffices h : (∀ ms, .elapse ms ∉ events) → Catches w id events v from (h hstill).few
  refine run_induction (P := fun events v => (∀ ms, Event.elapse ms ∉ events) →
    Catches w id events v) (fun _ => ⟨rfl, Nat.zero_le _, .inl rfl⟩) ?_ hrun
  intro events v event v' first later hrun happly ih hstill
  have hbefore : ∀ ms, Event.elapse ms ∉ events := fun ms hmem =>
    hstill ms (List.mem_append_left _ hmem)
  refine (ih hbefore).snoc hrun happly ?_
  rcases apply_now happly with hsame | ⟨ms, rfl, -⟩
  · exact hsame
  · exact absurd List.mem_concat_self (hstill ms)

/-- In whatever order the agents of a world take their turns, they come to an end. -/
theorem turns_end (w : World) (agents : Nat → Agent) :
    ∃ n, w.run ((List.range n).map fun i => .turn (agents i)) = none := by
  cases hstep : w.step (agents 0) with
  | none => exact ⟨1, by simp [run, apply, hstep]⟩
  | some r =>
    obtain ⟨w', notices⟩ := r
    have hload := step_load hstep
    obtain ⟨n, hnone⟩ := turns_end w' fun i => agents (i + 1)
    refine ⟨n + 1, ?_⟩
    rw [List.range_succ_eq_map, List.map_cons, List.map_map]
    simp only [run, apply, hstep, Option.bind_some]
    exact Option.map_eq_none_iff.mpr hnone
termination_by (w.callLoad, w.sweepLoad)
decreasing_by
  rcases hload with hlt | ⟨heq, hlt⟩
  · exact Prod.Lex.left _ _ hlt
  · rw [heq]
    exact Prod.Lex.right _ hlt

/-- In every run of a fresh store, whatever its interval: as long as the clock has time for a
deadline, at rest every scanner that was not told to stop and never found the store off is idle, and
its timer is due within a period.  No timer runs for longer than that, or to a time that the clock
cannot hold.  After a pause of any length the timer wakes a scanner no more often than periods fit
in the tolerance, and once, before the clock goes on; and all turns come to an end.  Of two wakes by
the timer the later comes a period after the earlier but for the tolerance, and none comes within a
period after a wake by request. -/
theorem timer_settles (disk : Disk) (limits : Limits) (wall : Time.Timestamp)
    (events : List Event) (v : World) (notices : List Notice)
    (hrun : (freshOn disk limits wall).run events = some (v, notices)) (id : ScannerId) :
    (v.now + period limits ≤ Scanner.lastMoment →
      v.AtRest → ∀ sc, v.scanners[id]? = some sc → sc.stopped = false →
      (∀ x ∈ (freshOn disk limits wall).turnsOf (.scanner id) events, x.store.enabled = true) →
      sc.phase = .idle ∧ v.now < sc.deadline ∧ sc.deadline ≤ v.now + period limits) ∧
    (∀ sc, v.scanners[id]? = some sc → sc.isTicking = true →
      sc.deadline ≤ v.now + period limits ∧ sc.deadline ≤ Scanner.lastMoment) ∧
    (∀ ms later u more, (v.elapse ms).run later = some (u, more) →
      (∀ other, .elapse other ∉ later) →
      (v.elapse ms).timerSweeps id later ≤ (v.elapse ms).timerWakes id later ∧
        (v.elapse ms).timerWakes id later ≤ 5 / period limits + 1) ∧
    (∀ ms (agents : Nat → Agent), ∃ n,
      (v.elapse ms).run ((List.range n).map fun i => .turn (agents i)) = none) ∧
    ((freshOn disk limits wall).happenings events).Pairwise fun earlier later =>
      later.1.woken? id later.2 = some .timer →
        (earlier.1.woken? id earlier.2 = some .timer →
          earlier.1.now + period limits ≤ later.1.now + 5) ∧
        (earlier.1.woken? id earlier.2 = some .trigger →
          earlier.1.now + period limits ≤ later.1.now) := by
  have hv := mem_passed_of_run hrun
  have hlimits : v.store.limits = limits := limits_passed v hv
  have htimed (sc : Scanner) (hsc : v.scanners[id]? = some sc) (hticks : sc.isTicking = true) :
      sc.Timed v.now (period limits) := hlimits ▸ Timed.passed v hv id sc hsc hticks
  refine ⟨fun htime hrest sc hsc hgoes hon => ?_, fun sc hsc hticks => ?_,
    fun ms later u more hlater hstill => ?_, fun ms agents => turns_end _ agents, ?_⟩
  · have hworks := works_of_run hrun ((hasTime_iff hlimits).mpr htime) hsc hgoes hon
    rcases hrest.scanner_cases (Sound.passed v hv) hsc with hended | ⟨hidle, -, -, hdue⟩
    · simp [Scanner.works, hended] at hworks
    · exact ⟨hidle, hdue, (htimed sc hsc (by simp [Scanner.isTicking, hidle])).soon⟩
  · exact ⟨(htimed sc hsc hticks).soon, (htimed sc hsc hticks).held⟩
  · have hfew := timerWakes_le hlater hstill id
    have hsame : (v.elapse ms).store.limits = limits := hlimits
    rw [hsame] at hfew
    exact ⟨timerSweeps_le _ id later, hfew⟩
  · refine (spaced_of_run hrun id).apart.imp fun hapart htimer =>
      ⟨fun hwoken => ?_, fun hwoken => ?_⟩
    · exact hapart .timer hwoken htimer
    · exact hapart .trigger hwoken htimer

/-- The store is turned on, and its scanner takes its first turn. -/
def started : List Event := [.call (.toggle true), .turn (.call 0), .turn (.scanner 0)]

/-- Six wakes, each with a sweep of an empty map. -/
def drained : List Event := List.replicate 12 (.turn (.scanner 0))

/-- A timer with the shortest of periods is late beyond the tolerance. -/
theorem timer_settles_hurried :
    ∃ v notices u more,
      (freshOn Disk.empty ⟨7, 10, 0⟩ ⟨0, 0⟩).run started = some (v, notices) ∧
      (v.elapse 6).run drained = some (u, more) ∧
      (v.elapse 6).timerSweeps 0 drained = 6 ∧
      (v.elapse 6).timerWakes 0 drained ≤ 5 / period ⟨7, 10, 0⟩ + 1 ∧
      u.AtRest ∧ u.now + period ⟨7, 10, 0⟩ ≤ Scanner.lastMoment ∧
      ∃ sc, u.scanners[0]? = some sc ∧ sc.phase = .idle ∧ u.now < sc.deadline ∧
        sc.deadline ≤ u.now + period ⟨7, 10, 0⟩ := by
  have hrun : ((freshOn Disk.empty ⟨7, 10, 0⟩ ⟨0, 0⟩).run started).map (fun r =>
      (((r.1.elapse 6).run drained).map fun r => (decide (r.1.AtRest ∧
          r.1.now + period ⟨7, 10, 0⟩ ≤ Scanner.lastMoment), (r.1.scanners[0]?).map (·.stopped)),
        (r.1.elapse 6).timerSweeps 0 drained, r.1.now)) =
      some (some (true, some false), 6, 0) := by decide +kernel
  have hon : ∀ x ∈ (freshOn Disk.empty ⟨7, 10, 0⟩ ⟨0, 0⟩).turnsOf (.scanner 0)
      (started ++ .elapse 6 :: drained), x.store.enabled = true := by decide +kernel
  obtain ⟨⟨v, notices⟩, hrun, hend⟩ := Option.map_eq_some_iff.mp hrun
  simp only [Prod.mk.injEq, Option.map_eq_some_iff] at hend
  obtain ⟨⟨⟨u, more⟩, hdrained, hend, sc, hsc, hgoes⟩, hsweeps, hnow⟩ := hend
  obtain ⟨hrest, htime⟩ := of_decide_eq_true hend
  have hpause : v.now + 6 ≤ longestUptime := by
    rw [hnow]
    decide
  have hwhole : (freshOn Disk.empty ⟨7, 10, 0⟩ ⟨0, 0⟩).run (started ++ .elapse 6 :: drained) =
      some (u, notices ++ ([] ++ more)) := by
    rw [run_append, hrun]
    simp only [Option.bind_some, run, apply, if_pos hpause, hdrained, Option.map_some]
  obtain ⟨-, -, hfew, -⟩ :=
    timer_settles Disk.empty ⟨7, 10, 0⟩ ⟨0, 0⟩ started v notices hrun 0
  obtain ⟨hidle, -⟩ := timer_settles Disk.empty ⟨7, 10, 0⟩ ⟨0, 0⟩ _ u _ hwhole 0
  have hfew := (hfew 6 drained u more hdrained (by simp [drained])).2
  exact ⟨v, notices, u, more, hrun, hdrained, hsweeps, hfew, hrest, htime, sc, hsc,
    hidle htime hrest sc hsc hgoes hon⟩

/-- A server takes an interval with which the scanner of a store that has been on ever since, and
that nobody told to stop, is not idle at rest: it has ended. -/
theorem endless_never_idles :
    (Settings.ofEnvironment (scanEvery "18446744073709551615")).limits.interval =
      endless.interval ∧
    ∃ v notices sc, (freshOn Disk.empty endless ⟨0, 0⟩).run started = some (v, notices) ∧
      v.AtRest ∧ v.scanners[0]? = some sc ∧ sc.stopped = false ∧
      (∀ x ∈ (freshOn Disk.empty endless ⟨0, 0⟩).turnsOf (.scanner 0) started,
        x.store.enabled = true) ∧ sc.phase = .ended := by
  refine ⟨endless_interval, ?_⟩
  have hends : ((freshOn Disk.empty endless ⟨0, 0⟩).run started).map (fun r => (decide r.1.AtRest,
      (r.1.scanners[0]?).map fun sc => (sc.stopped, sc.phase))) =
      some (true, some (false, .ended)) := by decide +kernel
  have hon : ∀ x ∈ (freshOn Disk.empty endless ⟨0, 0⟩).turnsOf (.scanner 0) started,
      x.store.enabled = true := by decide +kernel
  obtain ⟨⟨v, notices⟩, hrun, hend⟩ := Option.map_eq_some_iff.mp hends
  simp only [Prod.mk.injEq, decide_eq_true_eq, Option.map_eq_some_iff] at hend
  obtain ⟨hrest, sc, hsc, hgoes, hended⟩ := hend
  exact ⟨v, notices, sc, hrun, hrest, hsc, hgoes, hon, hended⟩

end World
end FileCache
