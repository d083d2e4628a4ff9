import FileCache.Proofs.Sweep.Course
import FileCache.Proofs.World.Move

/-!
Who reports a sweep, and who a clear.

Only a scanner does: a sweep in the turn in which it ends, and a clear in its own last turn.
-/

namespace FileCache

namespace Notice

/-- The notices that scanners alone give. -/
def ofScanner : Notice → Bool
  | .scannerStarted _ => true
  | .scannerStopped _ => true
  | .scanned _ _ => true
  | _ => false

/-- The notices of a visit that could not see or read a file. -/
def isWarning : Notice → Bool
  | .statFailed _ => true
  | .reloadFailed _ => true
  | _ => false

theorem not_mem_singleton {n m : Notice} (hn : n.ofScanner = true) (hm : m.ofScanner = false) :
    n ∉ [m] := by
  intro h
  rw [List.mem_singleton.mp h, hm] at hn
  cases hn

end Notice

variable {n : Notice}

theorem Lookup.quiet_reply {gate : Option GateId} {answer : Option Copy} {s : Store}
    {notices : List Notice} (h : n ∉ notices) :
    n ∉ (reply gate answer s notices).notices := by
  cases gate <;> exact h

/-- A lookup gives no notice that is a scanner's. -/
theorem Lookup.step_quiet {now : Nat} {disk : Disk} {path : Path} {s : Store} {phase : Lookup}
    {st : Step Lookup} (h : phase.step now disk path s = some st) (hn : n.ofScanner = true) :
    n ∉ st.notices := by
  cases phase with
  | starting => simp only [step] at h; split at h <;> cases h <;> exact List.not_mem_nil
  | probing => simp only [step] at h; split at h <;> cases h <;> exact List.not_mem_nil
  | found gate id =>
    simp only [step, Option.map_eq_some_iff] at h
    obtain ⟨e, -, rfl⟩ := h
    unfold answerFrom
    split
    · exact quiet_reply List.not_mem_nil
    · exact quiet_reply List.not_mem_nil
    · exact List.not_mem_nil
  | arriving => simp only [step] at h; cases h; exact List.not_mem_nil
  | waiting gate => simp only [step] at h; split at h <;> cases h; exact List.not_mem_nil
  | rechecking gate => simp only [step] at h; split at h <;> cases h <;> exact List.not_mem_nil
  | loading gate reading =>
    simp only [step] at h
    split at h
    · cases h
      unfold loaded
      split
      · simp only []
        split
        · exact quiet_reply List.not_mem_nil
        · exact List.not_mem_nil
      · exact quiet_reply List.not_mem_nil
      · exact quiet_reply (Notice.not_mem_singleton hn rfl)
    · cases h
      exact List.not_mem_nil
  | storing gate copy =>
    simp only [step] at h
    split at h <;> cases h <;> exact quiet_reply List.not_mem_nil
  | bypassing gate reading =>
    simp only [step] at h
    split at h
    · cases h
      unfold bypassed
      split
      · exact quiet_reply List.not_mem_nil
      · exact quiet_reply List.not_mem_nil
      · exact quiet_reply (Notice.not_mem_singleton hn rfl)
    · cases h
      exact List.not_mem_nil
  | leaving gate answer => simp only [step] at h; cases h; exact List.not_mem_nil
  | done answer => cases h

namespace Sweep

variable {now : Nat} {disk : Disk} {s : Store} {sw : Sweep} {id : EntryId} {e : Entry}
  {rest : List EntryId} {st : Step Sweep}

/-- The notices of a turn of the visit to the entry `e`: warnings at most, and, if the visit ends,
the verdict after them. -/
inductive Tells (sw : Sweep) (e : Entry) (rest : List EntryId) (st : Step Sweep) : Prop
  | goes {warnings : List Notice} (hwarnings : ∀ n ∈ warnings, n.isWarning = true)
      (hnotices : st.notices = warnings) (htodo : st.next.todo = sw.todo)
  | ends {warnings : List Notice} {verdict : Verdict}
      (hwarnings : ∀ n ∈ warnings, n.isWarning = true)
      (hnotices : st.notices = warnings ++ [.reconciled e.path verdict])
      (htodo : st.next.todo = rest)

theorem tells_goto (sw : Sweep) (e : Entry) (rest : List EntryId) (phase : Phase) (s : Store)
    {warnings : List Notice} (h : ∀ n ∈ warnings, n.isWarning = true) :
    sw.Tells e rest (sw.goto phase s warnings) := .goes h rfl rfl

theorem tells_conclude (sw : Sweep) (e : Entry) (rest : List EntryId) (verdict : Verdict)
    (s : Store) {warnings : List Notice} (h : ∀ n ∈ warnings, n.isWarning = true) :
    sw.Tells e rest (sw.conclude e.path rest verdict s warnings) :=
  .ends h (notices_proceed _ _ _ _) (todo_proceed _ _ _ _)

theorem isWarning_statFailed {path : Path} : ∀ n ∈ [Notice.statFailed path], n.isWarning = true :=
  fun _ h => List.mem_singleton.mp h ▸ rfl

theorem isWarning_reloadFailed {path : Path} :
    ∀ n ∈ [Notice.reloadFailed path], n.isWarning = true :=
  fun _ h => List.mem_singleton.mp h ▸ rfl

theorem visit_tells (h : sw.visit now disk s id e rest = some st) : sw.Tells e rest st := by
  cases hphase : sw.phase with
  | visiting =>
    simp only [visit, hphase] at h
    split at h
    · cases h
      exact .goes (List.forall_mem_nil _) rfl rfl
    · cases h
      exact .goes (List.forall_mem_nil _) rfl rfl
  | discarding verdict =>
    simp only [visit, hphase] at h
    cases h
    exact tells_conclude sw e rest verdict _ (List.forall_mem_nil _)
  | checking =>
    simp only [visit, hphase] at h
    split at h
    · split at h <;> cases h <;> exact tells_goto sw e rest _ _ (List.forall_mem_nil _)
    · cases h
      exact tells_goto sw e rest _ _ (List.forall_mem_nil _)
    · cases h
      exact tells_conclude sw e rest _ _ isWarning_statFailed
  | comparing seen =>
    simp only [visit, hphase] at h
    split at h
    · split at h
      · cases h
        exact tells_goto sw e rest _ _ (List.forall_mem_nil _)
      · cases h
        exact tells_conclude sw e rest _ _ (List.forall_mem_nil _)
    · cases h
      exact tells_goto sw e rest _ _ (List.forall_mem_nil _)
  | weighing seen old =>
    simp only [visit, hphase] at h
    split at h
    · cases h
      exact tells_goto sw e rest _ _ (List.forall_mem_nil _)
    · split at h <;> cases h <;> exact tells_goto sw e rest _ _ (List.forall_mem_nil _)
  | preloading reading =>
    simp only [visit, hphase] at h
    split at h <;> cases h
    · exact tells_goto sw e rest _ _ (List.forall_mem_nil _)
    · exact tells_goto sw e rest _ _ (List.forall_mem_nil _)
    · exact tells_conclude sw e rest _ _ isWarning_reloadFailed
    · exact tells_goto sw e rest _ _ (List.forall_mem_nil _)
  | exchanging copy =>
    simp only [visit, hphase] at h
    cases h
    exact tells_conclude sw e rest _ _ (List.forall_mem_nil _)
  | vacating =>
    simp only [visit, hphase] at h
    split at h <;> cases h
    · exact tells_conclude sw e rest _ _ (List.forall_mem_nil _)
    · exact tells_goto sw e rest _ _ (List.forall_mem_nil _)
  | reloading reading =>
    simp only [visit, hphase] at h
    split at h <;> cases h
    · exact tells_goto sw e rest _ _ (List.forall_mem_nil _)
    · exact tells_goto sw e rest _ _ (List.forall_mem_nil _)
    · exact tells_goto sw e rest _ _ isWarning_reloadFailed
    · exact tells_goto sw e rest _ _ (List.forall_mem_nil _)
  | refilling copy =>
    simp only [visit, hphase] at h
    cases h
    exact tells_conclude sw e rest _ _ (List.forall_mem_nil _)
  | forgetting =>
    simp only [visit, hphase] at h
    cases h
    exact tells_conclude sw e rest _ _ (List.forall_mem_nil _)
  | listing => simp [visit, hphase] at h
  | finished => simp [visit, hphase] at h

/-- A sweep does not report itself; its scanner does. -/
theorem visit_quiet (h : sw.visit now disk s id e rest = some st) (hn : n.ofScanner = true) :
    n ∉ st.notices := by
  have hquiet {warnings : List Notice} (hwarnings : ∀ n ∈ warnings, n.isWarning = true) :
      n ∉ warnings := by
    intro hmem
    have hwarning := hwarnings n hmem
    cases n <;> simp [Notice.ofScanner, Notice.isWarning] at hn hwarning
  cases visit_tells h with
  | goes hwarnings hnotices _ => exact hnotices ▸ hquiet hwarnings
  | ends hwarnings hnotices _ =>
    rw [hnotices]
    intro hmem
    rcases List.mem_append.mp hmem with hold | hnew
    · exact hquiet hwarnings hold
    · exact Notice.not_mem_singleton hn rfl hnew

theorem step_quiet (h : sw.step now disk s = some st) (hn : n.ofScanner = true) :
    n ∉ st.notices := by
  unfold step at h
  split at h
  · cases h
    rw [notices_proceed]
    exact List.not_mem_nil
  · cases h
  · obtain ⟨e, -, h⟩ := Option.bind_eq_some_iff.mp h
    exact visit_quiet h hn

end Sweep

namespace World

variable {w w' : World}

theorem CallTurn.quiet {id : CallId} {call : Call} {notices : List Notice}
    (h : CallTurn w id call w' notices) (hn : n.ofScanner = true) : n ∉ notices := by
  have hone {m : Notice} (hm : m.ofScanner = false) : n ∉ [m] := Notice.not_mem_singleton hn hm
  cases h with
  | lookup hstep => exact Lookup.step_quiet hstep hn
  | sweep hstep => exact Sweep.step_quiet hstep hn
  | toggle hturn => cases hturn <;> first | exact List.not_mem_nil | exact hone rfl
  | shutdown hturn => cases hturn <;> first | exact List.not_mem_nil | exact hone rfl
  | _ => exact List.not_mem_nil

theorem wake_quiet (sc : Scanner) (cause : Wake) (s : Store) :
    n ∉ (sc.wake cause s).notices := by
  unfold Scanner.wake
  split <;> exact List.not_mem_nil

/-- What a scanner reports is the report of the sweep it has just ended. -/
theorem step_scanned {agent : Agent} {notices : List Notice} {wake : Wake} {r : Report}
    (h : w.step agent = some (w', notices)) (hr : Notice.scanned wake r ∈ notices) :
    ∃ id sw st, agent = .scanner id ∧ w.sweep? agent = some sw ∧ SweepTurn w agent sw st w' ∧
      st.next.phase = .finished ∧ st.next.report = r := by
  cases step_turn h with
  | call _ hturn => exact absurd hr (hturn.quiet rfl)
  | @scanner id _ _ hsc hturn =>
    cases Scanner.step_turn hturn with
    | @swept cause sw turn report hphase hstep hreport =>
      refine ⟨id, sw, turn, rfl, sweep?_of_phase hsc hphase,
        sweepTurn_scanner hsc hstep (fun _ h => by cases h), ?_⟩
      rcases List.mem_append.mp hr with hquiet | hnew
      · exact absurd hquiet (Sweep.step_quiet hstep rfl)
      · cases List.mem_singleton.mp hnew
        exact Sweep.report?_eq_some_iff.mp hreport
    | sweeps _ hstep => exact absurd hr (Sweep.step_quiet hstep rfl)
    | asked => exact absurd hr (wake_quiet _ _ _)
    | due => exact absurd hr (wake_quiet _ _ _)
    | _ => simp at hr

end World
end FileCache
