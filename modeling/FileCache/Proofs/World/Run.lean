import FileCache.Proofs.World.Move
import FileCache.World.Settle

/-!
The worlds that a run passes.

A property that every event keeps holds of all of them; so does one that every event
keeps as long as some condition holds on the way.
-/

namespace FileCache
namespace World

/-- A fresh store beside a disk of any kind. -/
def freshOn (disk : Disk) (limits : Limits) (wall : Time.Timestamp) : World :=
  { fresh limits wall with disk }

/-- The worlds that a run passes, from the first on, up to an event that cannot
happen. -/
def passed (w : World) : List Event → List World
  | [] => [w]
  | event :: rest =>
    match w.apply event with
    | none => [w]
    | some (w', _) => w :: w'.passed rest

/-- The events that take place in a run, each with the world it finds. -/
def happenings (w : World) : List Event → List (World × Event)
  | [] => []
  | event :: rest =>
    match w.apply event with
    | none => []
    | some (w', _) => (w, event) :: w'.happenings rest

theorem call_mem_agents {w : World} {id : CallId} {call : Call} (h : w.calls[id]? = some call) :
    .call id ∈ w.agents := by
  have hlt : id < w.calls.length := (List.getElem?_eq_some_iff.mp h).1
  exact List.mem_append_left _ (List.mem_map.mpr ⟨id, List.mem_range.mpr hlt, rfl⟩)

theorem scanner_mem_agents {w : World} {id : ScannerId} {sc : Scanner}
    (h : w.scanners[id]? = some sc) : .scanner id ∈ w.agents := by
  have hlt : id < w.scanners.length := (List.getElem?_eq_some_iff.mp h).1
  exact List.mem_append_right _ (List.mem_map.mpr ⟨id, List.mem_range.mpr hlt, rfl⟩)

theorem self_mem_passed (w : World) (events : List Event) : w ∈ w.passed events := by
  cases events with
  | nil => exact List.mem_singleton.mpr rfl
  | cons event rest =>
    simp only [passed]
    split
    · exact List.mem_singleton.mpr rfl
    · exact List.mem_cons_self

theorem mem_passed_cons {w v : World} {event : Event} {rest : List Event} :
    v ∈ w.passed (event :: rest) ↔
      v = w ∨ ∃ w' notices, w.apply event = some (w', notices) ∧ v ∈ w'.passed rest := by
  simp only [passed]
  cases happly : w.apply event with
  | none => simp
  | some r =>
    obtain ⟨w', notices⟩ := r
    simp

/-- A run passes the worlds in which its beginnings end. -/
theorem mem_passed_iff {w v : World} {events : List Event} :
    v ∈ w.passed events ↔ ∃ k notices, w.run (events.take k) = some (v, notices) := by
  induction events generalizing w with
  | nil =>
    constructor
    · intro h
      exact ⟨0, [], by rw [List.mem_singleton.mp h]; rfl⟩
    · rintro ⟨k, notices, h⟩
      rw [List.take_nil] at h
      cases h
      exact List.mem_singleton.mpr rfl
  | cons event rest ih =>
    rw [mem_passed_cons]
    constructor
    · rintro (rfl | ⟨w', notices, happly, h⟩)
      · exact ⟨0, [], rfl⟩
      · obtain ⟨k, more, hrun⟩ := ih.mp h
        exact ⟨k + 1, notices ++ more, by simp [run, happly, hrun]⟩
    · rintro ⟨k, notices, h⟩
      cases k with
      | zero =>
        cases h
        exact .inl rfl
      | succ k =>
        obtain ⟨⟨w', first⟩, happly, h⟩ := Option.bind_eq_some_iff.mp h
        obtain ⟨⟨u, more⟩, hrun, h⟩ := Option.map_eq_some_iff.mp h
        cases h
        exact .inr ⟨w', first, happly, ih.mpr ⟨k, more, hrun⟩⟩

theorem mem_passed_of_run {w v : World} {events : List Event} {notices : List Notice}
    (h : w.run events = some (v, notices)) : v ∈ w.passed events :=
  mem_passed_iff.mpr ⟨events.length, notices, by rw [List.take_length]; exact h⟩

theorem mem_happenings_cons {w v : World} {event other : Event} {rest : List Event} :
    (v, other) ∈ w.happenings (event :: rest) ↔
      ∃ w' notices, w.apply event = some (w', notices) ∧
        ((v = w ∧ other = event) ∨ (v, other) ∈ w'.happenings rest) := by
  simp only [happenings]
  cases happly : w.apply event with
  | none => simp
  | some r =>
    obtain ⟨w', notices⟩ := r
    simp

/-- A run passes the world before an event that takes place in it, and the world after. -/
theorem passed_of_mem_happenings {w v : World} {event : Event} {events : List Event}
    (h : (v, event) ∈ w.happenings events) :
    v ∈ w.passed events ∧
      ∃ v' notices, v.apply event = some (v', notices) ∧ v' ∈ w.passed events := by
  induction events generalizing w with
  | nil => cases h
  | cons first rest ih =>
    obtain ⟨w', notices, happly, h⟩ := mem_happenings_cons.mp h
    have hlater {u : World} (hu : u ∈ w'.passed rest) : u ∈ w.passed (first :: rest) :=
      mem_passed_cons.mpr (.inr ⟨w', notices, happly, hu⟩)
    rcases h with ⟨rfl, rfl⟩ | h
    · exact ⟨self_mem_passed v _, w', notices, happly, hlater (self_mem_passed w' rest)⟩
    · obtain ⟨hv, v', more, happly', hv'⟩ := ih h
      exact ⟨hlater hv, v', more, happly', hlater hv'⟩

/-- What an event keeps under a condition holds throughout a run whose events all meet the
condition. -/
theorem passed_induction_of {P : World → Prop} {Q : World → Event → Prop}
    (hstep : ∀ w event w' notices, Q w event → P w → w.apply event = some (w', notices) → P w')
    {w : World} {events : List Event} (hQ : ∀ v event, (v, event) ∈ w.happenings events → Q v event)
    (hP : P w) : ∀ v ∈ w.passed events, P v := by
  induction events generalizing w with
  | nil =>
    intro v hv
    rw [List.mem_singleton.mp hv]
    exact hP
  | cons event rest ih =>
    intro v hv
    rcases mem_passed_cons.mp hv with rfl | ⟨w', notices, happly, hv'⟩
    · exact hP
    · have hnow : Q w event :=
        hQ w event (mem_happenings_cons.mpr ⟨w', notices, happly, .inl ⟨rfl, rfl⟩⟩)
      have hlater (u : World) (other : Event) (hu : (u, other) ∈ w'.happenings rest) :
          Q u other :=
        hQ u other (mem_happenings_cons.mpr ⟨w', notices, happly, .inr hu⟩)
      exact ih hlater (hstep w event w' notices hnow hP happly) v hv'

/-- What every event keeps holds throughout every run. -/
theorem passed_induction {P : World → Prop}
    (hstep : ∀ w event w' notices, P w → w.apply event = some (w', notices) → P w')
    {w : World} {events : List Event} (hP : P w) : ∀ v ∈ w.passed events, P v :=
  passed_induction_of (Q := fun _ _ => True)
    (fun w event w' notices _ => hstep w event w' notices) (fun _ _ _ => trivial) hP

end World
end FileCache
