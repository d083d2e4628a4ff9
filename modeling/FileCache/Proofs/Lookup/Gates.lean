import FileCache.Proofs.Lookup.Course

/-!
Who keeps a gate locked.

A gate is locked by the lookup that passes it and opened again by the same lookup, once
it has its answer.  In between, that lookup never has to wait.
-/

namespace FileCache

namespace Store

/-! ## Locked gates -/

theorem isLocked_modifyGate (id : GateId) (change : Gate → Gate)
    (hkeeps : ∀ g, (change g).locked = g.locked) (s : Store) (g : GateId) :
    (s.modifyGate id change).isLocked g = s.isLocked g := by
  simp only [isLocked, gate?, modifyGate, List.getElem?_modify]
  cases s.gates[g]? with
  | none => rfl
  | some gate =>
    simp only [Option.map_eq_map, Option.map_some, Option.any_some]
    split
    · exact hkeeps gate
    · rfl

theorem isLocked_of_lock {s : Store} {id g : GateId} (h : (s.lock id).isLocked g = true) :
    g = id ∨ s.isLocked g = true := by
  by_cases hid : g = id
  · exact .inl hid
  · have hne : ¬ id = g := fun e => hid e.symm
    simp only [isLocked, gate?, lock, modifyGate, List.getElem?_modify, hne, if_false] at h
    simp only [isLocked, gate?]
    cases hgate : s.gates[g]? with
    | none => rw [hgate] at h; cases h
    | some gate => rw [hgate] at h; exact .inr h

theorem isLocked_of_unlock {s : Store} {id g : GateId} (h : (s.unlock id).isLocked g = true) :
    g ≠ id ∧ s.isLocked g = true := by
  by_cases hid : g = id
  · subst hid
    simp only [isLocked, gate?, unlock, modifyGate, List.getElem?_modify] at h
    cases hgate : s.gates[g]? <;> simp [hgate] at h
  · have hne : ¬ id = g := fun e => hid e.symm
    simp only [isLocked, gate?, unlock, modifyGate, List.getElem?_modify, hne, if_false] at h
    refine ⟨hid, ?_⟩
    simp only [isLocked, gate?]
    cases hgate : s.gates[g]? with
    | none => rw [hgate] at h; cases h
    | some gate => rw [hgate] at h; exact h

theorem isLocked_of_arrive {s : Store} {path : Path} {g : GateId}
    (h : (s.arrive path).2.isLocked g = true) : s.isLocked g = true := by
  unfold arrive at h
  split at h
  · rename_i id _
    have hsame := isLocked_modifyGate id (fun g => { g with users := g.users + 1 })
      (fun _ => rfl) s g
    exact hsame ▸ h
  · simp only [isLocked, gate?] at h ⊢
    rcases Nat.lt_trichotomy g s.gates.length with hlt | heq | hgt
    · rw [List.getElem?_append_left hlt] at h
      exact h
    · subst heq
      simp at h
    · rw [List.getElem?_append_right (Nat.le_of_lt hgt),
        List.getElem?_eq_none (by rw [List.length_singleton]; omega)] at h
      cases h

theorem isLocked_leave (s : Store) (id : GateId) (path : Path) (g : GateId) :
    (s.leave id path).isLocked g = s.isLocked g := by
  have hmodify := isLocked_modifyGate id (fun g => { g with users := g.users - 1 })
    (fun _ => rfl) s g
  simp only [leave]
  split
  · exact hmodify
  · exact hmodify

end Store

/-! ## Lookups at gates -/

namespace Lookup

/-- The gate that a lookup has passed and not yet opened for the next one. -/
def held? : Lookup → Option GateId
  | .found gate _ => gate
  | .rechecking gate => some gate
  | .loading gate _ => some gate
  | .storing gate _ => some gate
  | .bypassing gate _ => gate
  | _ => none

variable {now : Nat} {disk : Disk} {path : Path} {s : Store}

/-- A lookup in front of the same gate as before. -/
theorem locked_of_held {phase next : Lookup} {g : GateId} (hg : s.isLocked g = true)
    (hheld : next.held? = phase.held?) :
    next.held? = some g ∨ (s.isLocked g = true ∧ phase.held? ≠ some g) := by
  by_cases h : phase.held? = some g
  · exact .inl (hheld.trans h)
  · exact .inr ⟨hg, h⟩

/-- A lookup that opens the gate it had passed. -/
theorem locked_of_unlocked {phase next : Lookup} {gate g : GateId}
    (hg : (s.unlock gate).isLocked g = true) (hphase : phase.held? = some gate) :
    next.held? = some g ∨ (s.isLocked g = true ∧ phase.held? ≠ some g) := by
  obtain ⟨hne, hlocked⟩ := Store.isLocked_of_unlock hg
  refine .inr ⟨hlocked, fun h => hne ?_⟩
  rw [hphase, Option.some.injEq] at h
  exact h.symm

theorem locked_of_reopened {phase next : Lookup} {gate : Option GateId} {g : GateId}
    (hg : (reopened gate s).isLocked g = true) (hphase : phase.held? = gate) :
    next.held? = some g ∨ (s.isLocked g = true ∧ phase.held? ≠ some g) := by
  cases gate with
  | none => exact .inr ⟨hg, by rw [hphase]; nofun⟩
  | some id => exact locked_of_unlocked hg hphase

/-- A gate that is locked after a turn is held by the lookup whose turn it was, or was
locked before by another. -/
theorem Course.locked {phase next : Lookup} {t : Store} {g : GateId}
    (h : Course now disk path s phase next t) (hg : t.isLocked g = true) :
    next.held? = some g ∨ (s.isLocked g = true ∧ phase.held? ≠ some g) := by
  cases h with
  | @take gate id e answer _ _ =>
    have hkept : (reopened gate s).isLocked g = true := by cases gate <;> exact hg
    exact locked_of_reopened hkept rfl
  | outsized => exact locked_of_unlocked (s := s) hg rfl
  | vain => exact locked_of_unlocked hg rfl
  | insert => exact locked_of_unlocked (s := s) hg rfl
  | refuse => exact locked_of_unlocked (s := s) hg rfl
  | answer => exact locked_of_reopened hg rfl
  | pass =>
    rcases Store.isLocked_of_lock hg with rfl | hlocked
    · exact .inl rfl
    · exact .inr ⟨hlocked, nofun⟩
  | arrive => exact .inr ⟨Store.isLocked_of_arrive hg, nofun⟩
  | leave => exact .inr ⟨(Store.isLocked_leave s _ path g) ▸ hg, nofun⟩
  | _ => exact locked_of_held hg rfl

end Lookup
end FileCache
