import FileCache.Proofs.Provenance.Evidence
import FileCache.Proofs.Provenance.Reading
import FileCache.Proofs.World.History

/-!
No copy is put together from two readings.

Whatever bytes and stamp an entry holds or a lookup returns, one agent opened the file, took
the stamp from what it had opened and then the bytes, in three turns on end, and the size in
the stamp is the number of the bytes.
-/

namespace FileCache
namespace World

/-- In the course of the events some agent has read the file at `path`, in three turns on
end, and came by this copy. -/
def ReadWhole (w : World) (events : List Event) (path : Path) (copy : Copy) : Prop :=
  ∃ agent u v x, [u, v, x] <:+: w.turnsOf agent events ∧ u.Reads agent path .opening ∧
    ((Reading.opening.advance u.disk path).advance v.disk path).advance x.disk path =
      .finished (.copy copy)

/-- A reading is what its agent has made of it in its last turns. -/
inductive Underway (turns : List World) (agent : Agent) (path : Path) : Reading → Prop
  | opening : Underway turns agent path .opening
  | measuring {u : World} {handle : Item} (hturns : [u] <:+ turns)
      (hbegins : u.Reads agent path .opening)
      (h : Reading.opening.advance u.disk path = .measuring handle) :
      Underway turns agent path (.measuring handle)
  | fetching {u v : World} {handle : Item} {modified : Time.Timestamp} (hturns : [u, v] <:+ turns)
      (hbegins : u.Reads agent path .opening)
      (h : (Reading.opening.advance u.disk path).advance v.disk path =
        .fetching handle modified) :
      Underway turns agent path (.fetching handle modified)

/-- What is known of readings: that they are whole. -/
def whole (w : World) (events : List Event) : Evidence where
  reading agent path r := Underway (w.turnsOf agent events) agent path r
  result path result := ∀ copy, result = .copy copy → w.ReadWhole events path copy
  missing _ := True

variable {turns : List World} {agent : Agent} {path : Path} {w v v' : World}
  {events : List Event} {notices more : List Notice}

/-- Every turn of its agent takes a reading on. -/
theorem Underway.goes {r r' : Reading} (h : Underway turns agent path r)
    (hreads : v.Reads agent path r) (hgo : r.advance v.disk path = r')
    (hnot : ∀ result, r' ≠ .finished result) : Underway (turns ++ [v]) agent path r' := by
  have hcourse := Reading.advance_course v.disk path r
  cases h with
  | opening =>
    rw [hgo] at hcourse
    cases hcourse with
    | opened => exact .measuring (List.suffix_append _ [v]) hreads hgo
    | nowhere => exact absurd rfl (hnot _)
    | unopened => exact absurd rfl (hnot _)
  | measuring hturns hbegins hopen =>
    rw [← hopen] at hgo
    rw [← hopen, hgo, hopen] at hcourse
    cases hcourse with
    | measured => exact .fetching (List.suffix_append_self_iff.mpr hturns) hbegins hgo
    | irregular => exact absurd rfl (hnot _)
    | unmeasured => exact absurd rfl (hnot _)
  | fetching =>
    rw [hgo] at hcourse
    cases hcourse with
    | fetched => exact absurd rfl (hnot _)
    | unfetched => exact absurd rfl (hnot _)

/-- A reading that ends with a copy ends in its third turn. -/
theorem Underway.ends {r : Reading} {copy : Copy} (h : Underway turns agent path r)
    (hend : r.advance v.disk path = .finished (.copy copy)) :
    ∃ u x, [u, x, v] <:+ turns ++ [v] ∧ u.Reads agent path .opening ∧
      ((Reading.opening.advance u.disk path).advance x.disk path).advance v.disk path =
        .finished (.copy copy) := by
  have hcourse := Reading.advance_course v.disk path r
  rw [hend] at hcourse
  cases h with
  | opening => cases hcourse
  | measuring => cases hcourse
  | @fetching u x handle modified hturns hbegins hread =>
    exact ⟨u, x, List.suffix_append_self_iff.mpr hturns, hbegins, by rw [hread]; exact hend⟩

theorem ReadWhole.later {copy : Copy} (h : w.ReadWhole events path copy)
    (hrun : w.run events = some (v, notices)) {event : Event}
    (happly : v.apply event = some (v', more)) : w.ReadWhole (events ++ [event]) path copy := by
  obtain ⟨agent, u, x, y, hturns, hreads⟩ := h
  refine ⟨agent, u, x, y, ?_, hreads⟩
  rw [turnsOf_snoc agent hrun happly]
  exact hturns.trans (List.prefix_append _ _).isInfix

theorem whole_grows (hrun : w.run events = some (v, notices)) {event : Event}
    (happly : v.apply event = some (v', more)) :
    (w.whole events).Grows (w.whole (events ++ [event])) v event where
  result path result h copy hcopy := (h copy hcopy).later hrun happly
  missing _ _ := trivial
  absent _ _ := trivial
  denied _ _ := trivial
  opening _ _ := .opening
  waits agent path r _ h hother := by
    show Underway _ agent path r
    rw [turnsOf_other hother hrun happly]
    exact h
  goes agent path r r' hreads h hevent hgo hnot := by
    subst hevent
    show Underway _ agent path r'
    rw [turnsOf_turn hrun happly]
    exact h.goes hreads hgo hnot
  ends agent path r result _ h hevent hend copy hcopy := by
    subst hevent hcopy
    obtain ⟨u, x, hturns, hbegins, hread⟩ := h.ends hend
    refine ⟨agent, u, x, v, ?_, hbegins, hread⟩
    rw [turnsOf_turn hrun happly]
    exact hturns.isInfix

theorem Sound.of_run {disk : Disk} {limits : Limits} {wall : Time.Timestamp}
    (hrun : (World.freshOn disk limits wall).run events = some (v, notices)) : v.Sound :=
  Sound.passed v (mem_passed_of_run hrun)

/-- All that is said after a run was read whole. -/
theorem backed_whole {disk : Disk} {limits : Limits} {wall : Time.Timestamp}
    (hrun : (freshOn disk limits wall).run events = some (v, notices)) :
    v.Backed ((freshOn disk limits wall).whole events) := by
  refine run_induction (P := fun events v => v.Backed ((freshOn disk limits wall).whole events))
    (.freshOn _ disk limits wall) ?_ hrun
  intro before u event u' first more hbefore happly hu
  exact hu.apply (.of_run hbefore) (whole_grows hbefore happly) happly

/-- The size in the stamp of a copy is that of its bytes. -/
theorem ReadWhole.size {copy : Copy} (h : w.ReadWhole events path copy) :
    copy.stamp.size = copy.bytes.length := by
  obtain ⟨agent, u, v, x, -, -, hread⟩ := h
  generalize hbefore : (Reading.opening.advance u.disk path).advance v.disk path = r at hread
  have hcourse := Reading.advance_course x.disk path r
  rw [hread] at hcourse
  cases hcourse with
  | fetched => rfl
  | complete =>
    -- a reading does not end in two turns with a copy
    exfalso
    generalize hfirst : Reading.opening.advance u.disk path = r at hbefore
    have hopen := Reading.advance_course u.disk path .opening
    have hmeasure := Reading.advance_course v.disk path r
    rw [hfirst] at hopen
    rw [hbefore] at hmeasure
    cases hopen <;> cases hmeasure

end World
end FileCache
