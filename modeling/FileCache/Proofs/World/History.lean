import FileCache.Proofs.World.Run

/-!
Runs together with what happened in them.

A run is taken apart at its last event: `run_induction` carries a property of the events so
far and of the world they lead to from one event to the next.
-/

namespace FileCache
namespace World

def Event.isTurnOf (agent : Agent) : Event → Bool
  | .turn other => other = agent
  | _ => false

/-- The worlds in which an agent takes its turns, one after the other. -/
def turnsOf (w : World) (agent : Agent) (events : List Event) : List World :=
  ((w.happenings events).filter fun h => h.2.isTurnOf agent).map (·.1)

variable {w v v' : World} {event : Event} {events : List Event} {notices more : List Notice}

/-! ## One more event -/

theorem run_append (w : World) (before rest : List Event) :
    w.run (before ++ rest) = (w.run before).bind fun r =>
      (r.1.run rest).map fun r' => (r'.1, r.2 ++ r'.2) := by
  induction before generalizing w with
  | nil =>
    cases hrest : w.run rest <;> simp [run, hrest]
  | cons first before ih =>
    simp only [List.cons_append, run]
    cases w.apply first with
    | none => rfl
    | some r =>
      rw [Option.bind_some, Option.bind_some, ih]
      cases r.1.run before with
      | none => rfl
      | some r' =>
        simp only [Option.bind_some, Option.map_some]
        cases r'.1.run rest <;> simp

theorem run_snoc (w : World) (events : List Event) (event : Event) :
    w.run (events ++ [event]) = (w.run events).bind fun r =>
      (r.1.apply event).map fun r' => (r'.1, r.2 ++ r'.2) := by
  have hone (v : World) : v.run [event] = v.apply event := by
    cases happly : v.apply event <;> simp [run, happly]
  simp only [run_append, hone]

theorem happenings_snoc (hrun : w.run events = some (v, notices))
    (happly : v.apply event = some (v', more)) :
    w.happenings (events ++ [event]) = w.happenings events ++ [(v, event)] := by
  induction events generalizing w notices with
  | nil =>
    cases hrun
    simp only [List.nil_append, happenings, happly]
  | cons first rest ih =>
    obtain ⟨⟨u, early⟩, hfirst, hrun⟩ := Option.bind_eq_some_iff.mp hrun
    obtain ⟨⟨x, others⟩, hrest, hx⟩ := Option.map_eq_some_iff.mp hrun
    cases hx
    simp only [List.cons_append, happenings, hfirst, ih hrest]

theorem passed_snoc (hrun : w.run events = some (v, notices))
    (happly : v.apply event = some (v', more)) :
    w.passed (events ++ [event]) = w.passed events ++ [v'] := by
  induction events generalizing w notices with
  | nil =>
    cases hrun
    simp only [List.nil_append, passed, happly, List.singleton_append]
  | cons first rest ih =>
    obtain ⟨⟨u, early⟩, hfirst, hrun⟩ := Option.bind_eq_some_iff.mp hrun
    obtain ⟨⟨x, others⟩, hrest, hx⟩ := Option.map_eq_some_iff.mp hrun
    cases hx
    simp only [List.cons_append, passed, hfirst, ih hrest]

theorem turnsOf_snoc (agent : Agent) (hrun : w.run events = some (v, notices))
    (happly : v.apply event = some (v', more)) :
    w.turnsOf agent (events ++ [event]) =
      w.turnsOf agent events ++ if event.isTurnOf agent then [v] else [] := by
  rw [turnsOf, happenings_snoc hrun happly, List.filter_append, List.map_append, turnsOf]
  cases h : event.isTurnOf agent <;> simp [h]

theorem turnsOf_turn {agent : Agent} (hrun : w.run events = some (v, notices))
    (happly : v.apply (.turn agent) = some (v', more)) :
    w.turnsOf agent (events ++ [.turn agent]) = w.turnsOf agent events ++ [v] := by
  rw [turnsOf_snoc agent hrun happly]
  simp [Event.isTurnOf]

theorem mem_turnsOf_turn {agent : Agent} {x : World} (hrun : w.run events = some (v, notices))
    (happly : v.apply (.turn agent) = some (v', more)) :
    x ∈ w.turnsOf agent (events ++ [.turn agent]) ↔ x ∈ w.turnsOf agent events ∨ x = v := by
  rw [turnsOf_turn hrun happly, List.mem_append, List.mem_singleton]

theorem turnsOf_other {agent : Agent} (hother : event ≠ .turn agent)
    (hrun : w.run events = some (v, notices)) (happly : v.apply event = some (v', more)) :
    w.turnsOf agent (events ++ [event]) = w.turnsOf agent events := by
  have hnot : event.isTurnOf agent = false := by
    cases event with
    | turn other => exact decide_eq_false fun h => hother (h ▸ rfl)
    | _ => rfl
  rw [turnsOf_snoc agent hrun happly, hnot]
  exact List.append_nil _

/-! ## Runs -/

/-- What a run passes after its beginning, it passes. -/
theorem mem_passed_append {u x : World} {before rest : List Event} {first : List Notice}
    (hbefore : w.run before = some (u, first)) (hx : x ∈ u.passed rest) :
    x ∈ w.passed (before ++ rest) := by
  obtain ⟨k, later, hrun⟩ := mem_passed_iff.mp hx
  refine mem_passed_iff.mpr ⟨before.length + k, first ++ later, ?_⟩
  rw [List.take_length_add_append, run_append, hbefore, Option.bind_some, hrun, Option.map_some]

/-- What every event carries on from the end of a run, holds when the run has gone on. -/
theorem run_induction_from {P : List Event → World → Prop}
    (hstep : ∀ events v event v' notices more, w.run events = some (v, notices) →
      v.apply event = some (v', more) → P events v → P (events ++ [event]) v')
    {before : List Event} {u : World} {first : List Notice}
    (hbefore : w.run before = some (u, first)) (hu : P before u)
    (hrun : u.run events = some (v, notices)) : P (before ++ events) v := by
  induction events generalizing before u first notices with
  | nil =>
    cases hrun
    rw [List.append_nil]
    exact hu
  | cons event rest ih =>
    obtain ⟨⟨u', early⟩, happly, hrun⟩ := Option.bind_eq_some_iff.mp hrun
    obtain ⟨⟨x, others⟩, hrest, hx⟩ := Option.map_eq_some_iff.mp hrun
    cases hx
    have hnext : w.run (before ++ [event]) = some (u', first ++ early) := by
      rw [run_snoc, hbefore, Option.bind_some, happly, Option.map_some]
    have hend := ih hnext (hstep before u event u' first early hbefore happly hu) hrest
    rw [List.append_assoc, List.singleton_append] at hend
    exact hend

/-- What holds at the outset and what every event carries on, holds at the end of every
run.  The property may speak of the events so far. -/
theorem run_induction {P : List Event → World → Prop} (hstart : P [] w)
    (hstep : ∀ events v event v' notices more, w.run events = some (v, notices) →
      v.apply event = some (v', more) → P events v → P (events ++ [event]) v')
    (hrun : w.run events = some (v, notices)) : P events v := by
  have hempty : w.run [] = some (w, []) := rfl
  exact run_induction_from hstep hempty hstart hrun

end World
end FileCache
