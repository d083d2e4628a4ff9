import FileCache.Proofs.Age.Use
import FileCache.Proofs.Switch.Heeding

/-!
What becomes of a scanner in one event, whoever has started it.

It takes its turn, or it stays where it is: others can only tell it to stop or ask it for a
sweep, and no longer either once it has ended.
-/

namespace FileCache

namespace Scanner

/-- Why an idle scanner wakes in its next turn, if it does. -/
def woken? (now : Nat) (sc : Scanner) : Option Wake :=
  if sc.phase = .idle ∧ sc.stopped = false then
    if sc.pending then some .trigger
    else if sc.deadline ≤ now then some .timer
    else none
  else none

variable {now : Nat} {disk : Disk} {s : Store} {sc : Scanner} {st : Step Scanner}

theorem woken?_of_busy (h : sc.phase ≠ .idle) : sc.woken? now = none :=
  if_neg fun hidle => h hidle.1

theorem woken?_of_stopped (h : sc.stopped = true) : sc.woken? now = none :=
  if_neg fun hgoes => by cases h.symm.trans hgoes.2

theorem woken?_of_pending (hphase : sc.phase = .idle) (hgoes : sc.stopped = false)
    (hpending : sc.pending = true) : sc.woken? now = some .trigger := by
  rw [woken?, if_pos ⟨hphase, hgoes⟩, if_pos hpending]

theorem woken?_of_due (hphase : sc.phase = .idle) (hgoes : sc.stopped = false)
    (hunasked : sc.pending = false) (hdue : sc.deadline ≤ now) :
    sc.woken? now = some .timer := by
  rw [woken?, if_pos ⟨hphase, hgoes⟩, hunasked, if_neg Bool.false_ne_true, if_pos hdue]

/-- Whoever wakes begins a sweep if the store is on, unless it cannot set its timer. -/
theorem begins?_eq (now : Nat) (disk : Disk) (s : Store) (sc : Scanner) :
    sc.begins? now disk s =
      if s.enabled = true ∧ (sc.setsTimer = true → fits now s.limits = true) then sc.woken? now
      else none := by
  by_cases hphase : sc.phase = .idle
  case neg => rw [begins?_of_busy hphase, woken?_of_busy hphase, ite_self]
  case pos =>
    cases hstopped : sc.stopped with
    | true =>
      have hstep : sc.step now disk s =
          some { next := { sc with phase := .clearing }, store := s } := by
        simp [step, hphase, hstopped]
      rw [begins?_of_not_works hstep rfl, woken?_of_stopped hstopped, ite_self]
    | false =>
      cases hpending : sc.pending with
      | true =>
        have hstep : sc.step now disk s = some (sc.answer now s) := by
          simp [step, hphase, hstopped, hpending]
        rw [begins?, hstep, Option.bind_some, hphase, woken?_of_pending hphase hstopped hpending]
        cases hon : s.enabled <;> cases hfits : fits now s.limits <;>
          simp [setsTimer, answer, wake, breakOff, hphase, hstopped, hpending, hon, hfits]
      | false =>
        cases hon : s.enabled <;> by_cases hdue : sc.deadline ≤ now <;>
          simp [begins?, woken?, step, setsTimer, wake, hphase, hstopped, hpending, hdue, hon]

theorem wake_ne_starting (cause : Wake) (s : Store) (sc : Scanner) :
    (wake cause s sc).next.phase ≠ .starting := by
  unfold wake
  split <;> nofun

/-- A scanner starts once. -/
theorem Turn.ne_starting (h : sc.Turn now disk s st) : st.next.phase ≠ .starting := by
  cases h with
  | asked => exact wake_ne_starting _ _ _
  | due => exact wake_ne_starting _ _ _
  | _ => nofun

end Scanner

namespace World

variable {w w' : World} {event : Event} {notices : List Notice} {id : ScannerId}
  {sc sc' : Scanner}

/-- Why a scanner wakes in this event, if it does. -/
def woken? (w : World) (id : ScannerId) : Event → Option Wake
  | .turn (.scanner other) =>
    if other = id then (w.scanners[id]?).bind (·.woken? w.now) else none
  | _ => none

theorem woken?_self (hsc : w.scanners[id]? = some sc) :
    w.woken? id (.turn (.scanner id)) = sc.woken? w.now := by
  simp only [woken?, if_true, hsc, Option.bind_some]

theorem woken?_other (hother : event ≠ .turn (.scanner id)) : w.woken? id event = none := by
  unfold woken?
  split
  · rename_i other
    refine if_neg ?_
    rintro rfl
    exact hother rfl
  · rfl

theorem woken?_of_none (hnone : w.scanners[id]? = none) : w.woken? id event = none := by
  unfold woken?
  split
  · rw [hnone, Option.bind_none, ite_self]
  · rfl

/-- A scanner begins a sweep in no other turn than that in which it wakes. -/
theorem woken?_of_begins? {cause : Wake} (h : w.begins? id event = some cause) :
    w.woken? id event = some cause := by
  by_cases hself : event = .turn (.scanner id)
  case neg =>
    rw [begins?_other hself] at h
    cases h
  case pos =>
    subst hself
    cases hsc : w.scanners[id]? with
    | none =>
      rw [begins?, if_pos rfl, hsc] at h
      cases h
    | some sc =>
      rw [begins?_self hsc, Scanner.begins?_eq] at h
      rw [woken?_self hsc]
      split at h
      · exact h
      · cases h

/-- What an event makes of a scanner. -/
inductive Fares (w : World) (event : Event) (w' : World) (id : ScannerId) (sc : Scanner) :
    Scanner → Prop
  | rests {sc' : Scanner} (hphase : sc'.phase = sc.phase) (hdeadline : sc'.deadline = sc.deadline)
      (hstopped : sc.stopped = true → sc'.stopped = true)
      (hother : event ≠ .turn (.scanner id)) : Fares w event w' id sc sc'
  | goes {st : Step Scanner} (hevent : event = .turn (.scanner id))
      (hstep : sc.step w.now w.disk w.store = some st) (hnow : w'.now = w.now)
      (hstore : w'.store = st.store) : Fares w event w' id sc st.next

/-- Turning the store off leaves a scanner where it is. -/
theorem turnOff_fares (hsc : w.scanners[id]? = some sc) (hother : event ≠ .turn (.scanner id)) :
    ∃ sc', w.turnOff.scanners[id]? = some sc' ∧ Fares w event w' id sc sc' := by
  refine ⟨_, by rw [turnOff_scanner, hsc]; rfl, ?_⟩
  split
  · exact .rests rfl rfl (fun _ => rfl) hother
  · exact .rests rfl rfl (fun h => h) hother

theorem apply_fares (h : w.apply event = some (w', notices)) (hsc : w.scanners[id]? = some sc) :
    ∃ sc', w'.scanners[id]? = some sc' ∧ Fares w event w' id sc sc' := by
  by_cases hself : event = .turn (.scanner id)
  case pos =>
    subst hself
    have hstep : w.step (.scanner id) = some (w', notices) := h
    have hnow := step_now hstep
    cases step_turn hstep with
    | scanner hold hturn =>
      cases hsc.symm.trans hold
      exact ⟨_, List.getElem?_set_self (List.getElem?_eq_some_iff.mp hsc).1,
        .goes rfl hturn hnow rfl⟩
  case neg =>
    have hsame : Fares w event w' id sc sc := .rests rfl rfl (fun h => h) hself
    cases apply_switchMove h with
    | quiet hquiet =>
      obtain ⟨sc', hsc', honward⟩ := hquiet.kept id sc hsc
      refine ⟨sc', hsc', ?_⟩
      cases honward with
      | rests _ hstopped hphase hdeadline =>
        exact .rests hphase hdeadline (fun h => hstopped.trans h) hself
      | goes hevent => exact absurd hevent hself
      | stops => exact .rests rfl rfl (fun _ => rfl) hself
    | toggle _ _ _ _ _ _ _ _ hturn hset =>
      subst hset
      cases hturn with
      | same => exact ⟨sc, hsc, hsame⟩
      | joins => exact ⟨sc, hsc, hsame⟩
      | on => exact ⟨sc, turnOn_kept hsc, hsame⟩
      | joined => exact ⟨sc, turnOn_kept hsc, hsame⟩
      | off => exact turnOff_fares hsc hself
    | shutdown _ _ _ _ _ _ _ hturn hset =>
      subst hset
      cases hturn with
      | off => exact turnOff_fares hsc hself
      | _ => exact ⟨sc, hsc, hsame⟩

/-- A scanner in a run is at its very beginning, or has come from one that was there before. -/
theorem fares_back (h : w.apply event = some (w', notices)) (hsc' : w'.scanners[id]? = some sc') :
    (∃ own, sc' = Scanner.fresh own) ∨
      ∃ sc, w.scanners[id]? = some sc ∧ Fares w event w' id sc sc' := by
  cases hsc : w.scanners[id]? with
  | none => exact .inl (apply_new h hsc hsc')
  | some sc =>
    obtain ⟨next, hnext, hfares⟩ := apply_fares h hsc
    cases hsc'.symm.trans hnext
    exact .inr ⟨sc, rfl, hfares⟩

end World
end FileCache
