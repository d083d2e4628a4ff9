import FileCache.Proofs.Accounting.Limits
import FileCache.Proofs.World.History

/-!
What the clock shows in the course of a run.

The clock stands still while agents take their turns and never goes back, and the limits of the
store stay what they are.  So a clock that can hold the next deadline now could hold it at every
moment before (`HasTime.before`): a scanner that cannot set its timer finds a clock that no scanner
can set one by any more.
-/

namespace FileCache
namespace World

variable {w w' v : World} {event : Event} {events : List Event} {notices : List Notice}

/-! ## One event -/

theorem turnOff_now (w : World) : w.turnOff.now = w.now := by
  unfold turnOff
  simp only []
  split <;> rfl

theorem ToggleTurn.now {on : Bool} {phase next : Toggle}
    (h : ToggleTurn w on phase next w' notices) : w'.now = w.now := by
  cases h with
  | off => exact turnOff_now w
  | _ => rfl

theorem ShutdownTurn.now {phase next : Shutdown} (h : ShutdownTurn w phase next w' notices) :
    w'.now = w.now := by
  cases h with
  | off => exact turnOff_now w
  | _ => rfl

theorem requestScan_now (id : ScannerId) (w : World) : (w.requestScan id).2.now = w.now := by
  unfold requestScan
  split <;> rfl

/-- Time passes in no turn. -/
theorem step_now {agent : Agent} (h : w.step agent = some (w', notices)) : w'.now = w.now := by
  cases step_turn h with
  | call _ hturn =>
    cases hturn with
    | toggle hturn => exact hturn.now
    | shutdown hturn => exact hturn.now
    | scan hturn =>
      cases hturn with
      | @asks other => exact requestScan_now other w
      | refused => rfl
    | _ => rfl
  | scanner => rfl

theorem apply_now (h : w.apply event = some (w', notices)) :
    w'.now = w.now ∨
      ∃ ms, event = .elapse ms ∧ w'.now = w.now + ms ∧ w'.now ≤ longestUptime := by
  cases apply_happens h with
  | turn hstep => exact .inl (step_now hstep)
  | @elapse ms hms => exact .inr ⟨ms, rfl, rfl, hms⟩
  | @request id => exact .inl (requestScan_now id w)
  | _ => exact .inl rfl

theorem now_le_of_apply (h : w.apply event = some (w', notices)) : w.now ≤ w'.now := by
  rcases apply_now h with hsame | ⟨ms, -, hlater, -⟩
  · exact Nat.le_of_eq hsame.symm
  · exact Nat.le_trans (Nat.le_add_right _ ms) (Nat.le_of_eq hlater.symm)

theorem uptime_of_apply (hnow : w.now ≤ longestUptime) (h : w.apply event = some (w', notices)) :
    w'.now ≤ longestUptime := by
  rcases apply_now h with hsame | ⟨-, -, -, hlater⟩
  · exact hsame ▸ hnow
  · exact hlater

/-! ## Runs -/

/-- The clock is never read after it has run for longer than it is read. -/
theorem uptime_passed {disk : Disk} {limits : Limits} {wall : Time.Timestamp} :
    ∀ v ∈ (freshOn disk limits wall).passed events, v.now ≤ longestUptime :=
  passed_induction (fun _ _ _ _ hnow happly => uptime_of_apply hnow happly) (Nat.zero_le _)

/-! ## Time for a deadline -/

/-- The clock can still hold the time at which a timer that is set now is due. -/
def HasTime (w : World) : Prop := Scanner.fits w.now w.store.limits = true

theorem hasTime_iff {limits : Limits} (hlimits : w.store.limits = limits) :
    w.HasTime ↔ w.now + Scanner.period limits ≤ Scanner.lastMoment := by
  rw [HasTime, hlimits, Scanner.fits, decide_eq_true_eq]

theorem HasTime.of_le (h : w'.HasTime) (hlimits : w'.store.limits = w.store.limits)
    (hnow : w.now ≤ w'.now) : w.HasTime := by
  rw [hasTime_iff hlimits] at h
  exact (hasTime_iff rfl).mpr (Nat.le_trans (Nat.add_le_add_right hnow _) h)

theorem HasTime.before (h : w'.HasTime) (happly : w.apply event = some (w', notices)) :
    w.HasTime :=
  h.of_le (apply_move happly).limits (now_le_of_apply happly)

theorem HasTime.passed (h : v.HasTime) (hrun : w.run events = some (v, notices)) :
    ∀ x ∈ w.passed events, x.HasTime := by
  refine run_induction (P := fun events v => v.HasTime → ∀ x ∈ w.passed events, x.HasTime)
    (fun h x hx => List.mem_singleton.mp hx ▸ h) ?_ hrun h
  intro events v event v' first more hrun happly hv h
  rw [passed_snoc hrun happly]
  exact List.forall_mem_append.mpr ⟨hv (h.before happly), List.forall_mem_singleton.mpr h⟩

/-- A clock that has no time for a deadline has run for less than a period. -/
theorem now_lt_of_not_hasTime {limits : Limits} (hlimits : w.store.limits = limits)
    (hnow : w.now ≤ longestUptime) (hfull : ¬ w.HasTime) : w.now < Scanner.period limits := by
  rw [hasTime_iff hlimits] at hfull
  unfold longestUptime at hnow
  omega

end World
end FileCache
