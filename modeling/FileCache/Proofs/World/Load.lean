import FileCache.Proofs.Lookup.Course
import FileCache.Proofs.Sweep.Course
import FileCache.Proofs.World.Move

/-!
How many turns the tasks of a world can still take.

Every turn brings one of two loads down: that of the calls, or, while it stays, that of
the sweeps still to be made.  The second may grow with a turn of a call, since a lookup
can add an entry to the map and a toggle can start a scanner.
-/

namespace FileCache

/-! ## Loads -/

/-- The turns that the reading of a file can still take. -/
def Reading.load : Reading → Nat
  | .opening => 3
  | .measuring _ => 2
  | .fetching _ _ => 1
  | .finished _ => 0

def Lookup.load : Lookup → Nat
  | .starting => 11
  | .probing => 10
  | .arriving => 9
  | .waiting _ => 8
  | .rechecking _ => 7
  | .found _ _ => 6
  | .loading _ reading => 3 + reading.load
  | .bypassing _ reading => 2 + reading.load
  | .storing _ _ => 2
  | .leaving _ _ => 1
  | .done _ => 0

def Toggle.load : Toggle → Nat
  | .waiting => 2
  | .joining _ => 1
  | .done => 0

def Shutdown.load : Shutdown → Nat
  | .waiting => 3
  | .taking => 2
  | .joining _ => 1
  | .done => 0

def ScanRequest.load : ScanRequest → Nat
  | .waiting => 1
  | .done _ => 0

/-- The load of a call, unless it is a sweep. -/
def Call.load : Call → Nat
  | .lookup _ phase => phase.load
  | .sweep _ => 0
  | .toggle _ phase => phase.load
  | .shutdown phase => phase.load
  | .scan phase => phase.load
  | .read _ phase => phase.load
  | .stat _ none => 1
  | .stat _ (some _) => 0

/-- The turns that the visit to one entry can still take. -/
def Sweep.Phase.load : Phase → Nat
  | .listing => 11
  | .visiting => 10
  | .checking => 9
  | .comparing _ => 8
  | .weighing _ _ => 7
  | .vacating => 6
  | .preloading reading => 3 + reading.load
  | .reloading reading => 2 + reading.load
  | .exchanging _ => 1
  | .refilling _ => 1
  | .forgetting => 1
  | .discarding _ => 1
  | .finished => 0

/-- The load of a sweep when there are `n` entries in the map. -/
def Sweep.load (n : Nat) (sw : Sweep) : Nat :=
  11 * (if sw.phase = .listing then n else sw.todo.length) + sw.phase.load

def Call.sweepLoad (n : Nat) : Call → Nat
  | .sweep sw => sw.load n
  | _ => 0

/-- How often a scanner is going to wake before the clock goes on. -/
def Scanner.wakes (now : Nat) (sc : Scanner) : Nat := sc.pending.toNat + (now + 1 - sc.deadline)

def Scanner.load (n now : Nat) (sc : Scanner) : Nat :=
  match sc.phase with
  | .starting => 3 + sc.pending.toNat * (Sweep.fresh.load n + 2)
  | .idle => 2 + sc.wakes now * (Sweep.fresh.load n + 2)
  | .sweeping _ sw => 3 + sw.load n + sc.wakes now * (Sweep.fresh.load n + 2)
  | .clearing => 1
  | .ended => 0

/-! ## Sums -/

theorem sum_map_le {α : Type} {f g : α → Nat} (h : ∀ a, g a ≤ f a) (l : List α) :
    (l.map g).sum ≤ (l.map f).sum := by
  induction l with
  | nil => exact Nat.le_refl 0
  | cons a rest ih =>
    rw [List.map_cons, List.map_cons, List.sum_cons, List.sum_cons]
    exact Nat.add_le_add (h a) ih

/-- One member of a list is replaced by one of less weight, and no other gains weight. -/
theorem sum_map_set_lt {α : Type} {f g : α → Nat} (h : ∀ a, g a ≤ f a) {l : List α} {i : Nat}
    {a b : α} (hi : l[i]? = some a) (hlt : g b < f a) :
    ((l.set i b).map g).sum < (l.map f).sum := by
  induction l generalizing i with
  | nil => cases hi
  | cons c rest ih =>
    cases i with
    | zero =>
      rw [List.getElem?_cons_zero, Option.some.injEq] at hi
      subst hi
      rw [List.set_cons_zero, List.map_cons, List.map_cons, List.sum_cons, List.sum_cons]
      exact Nat.add_lt_add_of_lt_of_le hlt (sum_map_le h rest)
    | succ i =>
      rw [List.getElem?_cons_succ] at hi
      rw [List.set_cons_succ, List.map_cons, List.map_cons, List.sum_cons, List.sum_cons]
      exact Nat.add_lt_add_of_le_of_lt (h c) (ih hi)

/-! ## Turns -/

theorem Reading.load_advance {d : Disk} {path : Path} {r : Reading}
    (h : ∀ result, r ≠ .finished result) : (r.advance d path).load < r.load := by
  cases r with
  | opening =>
    simp only [advance]
    split <;> simp [load]
  | measuring handle =>
    simp only [advance]
    split
    · split <;> simp [load]
    · simp [load]
  | fetching handle modified =>
    simp only [advance]
    split <;> simp [load]
  | finished result => exact absurd rfl (h result)

theorem Reading.load_lt {d : Disk} {path : Path} {r r' : Reading} (h : r.advance d path = r')
    (hgo : ∀ result, r' ≠ .finished result) : r'.load < r.load := by
  rw [← h]
  refine load_advance fun result hr => hgo result ?_
  rw [← h, hr, advance]

theorem Lookup.load_answered (gate : Option GateId) (answer : Option Copy) :
    (answered gate answer).load ≤ 1 := by
  cases gate
  · exact Nat.zero_le 1
  · exact Nat.le_refl 1

theorem Lookup.Course.load_lt {now : Nat} {disk : Disk} {path : Path} {s t : Store}
    {phase next : Lookup} (h : Lookup.Course now disk path s phase next t) :
    next.load < phase.load := by
  cases h with
  | take =>
    have hload := Lookup.load_answered
    exact Nat.lt_of_le_of_lt (hload _ _) (by simp only [Lookup.load]; omega)
  | answer =>
    refine Nat.lt_of_le_of_lt (Lookup.load_answered _ _) ?_
    simp only [Lookup.load]
    omega
  | read h hgo => exact Nat.add_lt_add_left (Reading.load_lt h hgo) 3
  | readAside h hgo => exact Nat.add_lt_add_left (Reading.load_lt h hgo) 2
  | _ =>
    simp only [Lookup.load, Reading.load]
    omega

theorem Sweep.load_mono {n m : Nat} (h : n ≤ m) (sw : Sweep) : sw.load n ≤ sw.load m := by
  unfold load
  split <;> omega

theorem Sweep.load_proceed (n : Nat) (sw : Sweep) (todo : List EntryId) (s : Store)
    (notices : List Notice) :
    (sw.proceed todo s notices).next.load n ≤ 11 * todo.length + 10 := by
  cases todo with
  | nil => simp [proceed, load, Phase.load]
  | cons id rest => simp [proceed, load, Phase.load]

theorem Sweep.Course.load_lt {now : Nat} {disk : Disk} {s t : Store} {id : EntryId} {e : Entry}
    {phase next : Phase} (h : Sweep.Course now disk s id e phase next t) :
    next.load < phase.load ∧ phase ≠ .listing ∧ next ≠ .listing := by
  cases h with
  | preread h hgo => exact ⟨Nat.add_lt_add_left (Reading.load_lt h hgo) 3, nofun, nofun⟩
  | reread h hgo => exact ⟨Nat.add_lt_add_left (Reading.load_lt h hgo) 2, nofun, nofun⟩
  | _ =>
    refine ⟨?_, nofun, nofun⟩
    simp only [Phase.load, Reading.load]
    omega

theorem Sweep.Ending.load_pos {now : Nat} {disk : Disk} {s t : Store} {id : EntryId}
    {e : Entry} {phase : Phase} {verdict : Verdict}
    (h : Sweep.Ending now disk s id e phase verdict t) : 0 < phase.load ∧ phase ≠ .listing := by
  cases h <;> exact ⟨by simp only [Phase.load]; omega, nofun⟩

theorem Sweep.step_load {now : Nat} {disk : Disk} {s : Store} {sw : Sweep} {st : Step Sweep}
    (h : sw.step now disk s = some st) :
    st.next.load s.mapped.length < sw.load s.mapped.length := by
  rcases step_cases h with ⟨hphase, rfl⟩ | ⟨id, rest, e, htodo, -, hvisit⟩
  · have hle := load_proceed s.mapped.length sw s.mapped s []
    have hload : sw.load s.mapped.length = 11 * s.mapped.length + 11 := by
      simp [load, hphase, Phase.load]
    omega
  · rcases hvisit with ⟨hcourse⟩ | ⟨hending⟩
    · obtain ⟨hlt, hphase, hnext⟩ := hcourse.load_lt
      unfold load
      rw [if_neg hphase, if_neg hnext]
      exact Nat.add_lt_add_left hlt _
    · obtain ⟨hpos, hphase⟩ := hending.load_pos
      have hle := load_proceed s.mapped.length
        { sw with report := sw.report.conclude ‹Verdict› sw.wasMissing } rest ‹Store›
        (‹List Notice› ++ [Notice.reconciled e.path ‹Verdict›])
      have hload : sw.load s.mapped.length = 11 * (rest.length + 1) + sw.phase.load := by
        rw [load, if_neg hphase, htodo, List.length_cons]
      refine Nat.lt_of_le_of_lt hle ?_
      omega

/-- A sweep takes its list once. -/
theorem Sweep.step_ne_listing {now : Nat} {disk : Disk} {s : Store} {sw : Sweep} {st : Step Sweep}
    (hstep : sw.step now disk s = some st) : st.next.phase ≠ .listing := by
  have hproceed (sw : Sweep) (todo : List EntryId) (s : Store) (notices : List Notice) :
      (sw.proceed todo s notices).next.phase ≠ .listing := by
    cases todo <;> exact nofun
  rcases step_cases hstep with ⟨-, rfl⟩ | ⟨id, rest, e, -, -, hvisit⟩
  · exact hproceed sw s.mapped s []
  · rcases hvisit with ⟨hcourse⟩ | ⟨-⟩
    · exact hcourse.load_lt.2.2
    · exact hproceed _ _ _ _

/-- The load of a sweep that has listed the map does not depend on it any more. -/
theorem Sweep.load_of_listed {sw : Sweep} (h : sw.phase ≠ .listing) (m n : Nat) :
    sw.load m = sw.load n := by
  rw [load, load, if_neg h, if_neg h]

/-- A step of a sweep brings its load down, however many entries may be in the map. -/
theorem Sweep.step_load_lt {now : Nat} {disk : Disk} {s : Store} {sw : Sweep} {st : Step Sweep}
    (h : sw.step now disk s = some st) {n : Nat} (hn : s.mapped.length ≤ n) :
    st.next.load n < sw.load n := by
  rw [load_of_listed (step_ne_listing h) n s.mapped.length]
  exact Nat.lt_of_lt_of_le (step_load h) (load_mono hn sw)

/-- A sweep adds nothing to the map. -/
theorem Sweep.Effect.length_mapped {now : Nat} {sw : Sweep} {s t : Store}
    (h : Sweep.Effect now sw s t) : t.mapped.length ≤ s.mapped.length := by
  rcases h.kinds with h | ⟨id, -, h⟩ | ⟨id, -, change, used, h⟩
  · exact Nat.le_of_eq (by rw [h.mapped])
  · rw [h.mapped]
    exact List.length_erase_le
  · exact Nat.le_of_eq (by rw [h.mapped]; rfl)

theorem Scanner.load_mono {n m : Nat} (h : n ≤ m) (now : Nat) (sc : Scanner) :
    sc.load n now ≤ sc.load m now := by
  have hfresh : Sweep.fresh.load n + 2 ≤ Sweep.fresh.load m + 2 :=
    Nat.add_le_add_right (Sweep.load_mono h _) 2
  unfold load
  cases sc.phase with
  | starting => exact Nat.add_le_add_left (Nat.mul_le_mul_left _ hfresh) 3
  | idle => exact Nat.add_le_add_left (Nat.mul_le_mul_left _ hfresh) 2
  | sweeping wake sw =>
    exact Nat.add_le_add (Nat.add_le_add_left (Sweep.load_mono h sw) 3)
      (Nat.mul_le_mul_left _ hfresh)
  | clearing => exact Nat.le_refl 1
  | ended => exact Nat.le_refl 0

/-- A scanner that wakes has one reason less to wake again. -/
theorem Scanner.load_wake {n now : Nat} {sc sc' : Scanner} {wake : Wake} {s : Store}
    (hphase : sc.phase = .idle) (hwakes : sc'.wakes now < sc.wakes now) :
    (sc'.wake wake s).next.load n now < sc.load n now := by
  have hidle : sc.load n now = 2 + sc.wakes now * (Sweep.fresh.load n + 2) := by
    simp only [load, hphase]
  have hmul : (sc'.wakes now + 1) * (Sweep.fresh.load n + 2) ≤
      sc.wakes now * (Sweep.fresh.load n + 2) := Nat.mul_le_mul_right _ hwakes
  rw [Nat.add_mul, Nat.one_mul] at hmul
  rw [hidle]
  unfold Scanner.wake
  split
  · show 3 + Sweep.fresh.load n + sc'.wakes now * (Sweep.fresh.load n + 2) < _
    omega
  · show 1 < _
    omega

theorem Scanner.period_pos (limits : Limits) : 0 < period limits :=
  Nat.lt_of_lt_of_le Nat.zero_lt_one (Nat.le_max_right _ _)

theorem Scanner.store_wake (wake : Wake) (s : Store) (sc : Scanner) :
    (sc.wake wake s).store = s := by
  unfold Scanner.wake
  split <;> rfl

/-- A turn of a scanner brings its load down, whatever it did to the map. -/
theorem Scanner.Turn.load_lt {now : Nat} {disk : Disk} {s : Store} {sc : Scanner}
    {st : Step Scanner} (h : sc.Turn now disk s st) :
    st.next.load s.mapped.length now < sc.load s.mapped.length now ∧
      st.store.mapped.length ≤ s.mapped.length := by
  have hperiod := period_pos s.limits
  cases h with
  | started hphase =>
    refine ⟨?_, Nat.le_refl _⟩
    have hzero : now + 1 - (now + period s.limits) = 0 := by omega
    simp only [load, hphase, wakes, hzero, Nat.add_zero]
    omega
  | unstarted hphase =>
    refine ⟨?_, Nat.le_refl _⟩
    simp only [load, hphase, breakOff]
    omega
  | dismissed hphase =>
    refine ⟨?_, Nat.le_refl _⟩
    simp only [load, hphase]
    omega
  | asked hphase _ hpending =>
    refine ⟨load_wake hphase ?_, Nat.le_of_eq (by rw [store_wake])⟩
    simp only [wakes, hpending, Bool.toNat_true, Bool.toNat_false]
    omega
  | unanswered hphase =>
    refine ⟨?_, Nat.le_refl _⟩
    simp only [load, hphase, breakOff]
    omega
  | due hphase _ _ hdue =>
    refine ⟨load_wake hphase ?_, Nat.le_of_eq (by rw [store_wake])⟩
    simp only [wakes, nextDeadline]
    split <;> omega
  | sweeps hphase hstep =>
    have hlt := Sweep.step_load hstep
    refine ⟨?_, (Sweep.step_effect hstep).length_mapped⟩
    simp only [load, hphase]
    exact Nat.add_lt_add_right (by omega) _
  | swept hphase hstep =>
    have hlt := Sweep.step_load hstep
    refine ⟨?_, (Sweep.step_effect hstep).length_mapped⟩
    simp only [load, hphase]
    exact Nat.add_lt_add_right (by omega) _
  | cleared hphase =>
    refine ⟨?_, Nat.zero_le _⟩
    simp only [load, hphase]
    omega

/-! ## The loads of a world -/

namespace World

/-- The turns that calls other than sweeps can still take. -/
def callLoad (w : World) : Nat := (w.calls.map Call.load).sum

/-- The turns that sweeps and scanners can still take. -/
def sweepLoad (w : World) : Nat :=
  (w.calls.map (Call.sweepLoad w.store.mapped.length)).sum +
    (w.scanners.map (Scanner.load w.store.mapped.length w.now)).sum

theorem callLoad_setCall {w v : World} {id : CallId} {old call : Call}
    (hcalls : v.calls = w.calls) (hold : w.calls[id]? = some old) (hlt : call.load < old.load) :
    (v.setCall id call).callLoad < w.callLoad := by
  rw [callLoad, setCall, hcalls]
  exact sum_map_set_lt (fun _ => Nat.le_refl _) hold hlt

theorem ToggleTurn.load_lt {w w' : World} {on : Bool} {phase next : Toggle}
    {notices : List Notice} (h : ToggleTurn w on phase next w' notices) :
    next.load < phase.load := by
  cases h <;> simp [Toggle.load]

theorem ShutdownTurn.load_lt {w w' : World} {phase next : Shutdown} {notices : List Notice}
    (h : ShutdownTurn w phase next w' notices) : next.load < phase.load := by
  cases h <;> simp [Shutdown.load]

theorem ScanTurn.load_lt {w w' : World} {phase next : ScanRequest}
    (h : ScanTurn w phase next w') : next.load < phase.load := by
  cases h <;> exact Nat.zero_lt_one

/-- A turn of a sweep leaves the load of all other calls alone. -/
theorem callLoad_setSweep {w : World} {id : CallId} {sw next : Sweep} {s : Store}
    (hold : w.calls[id]? = some (.sweep sw)) :
    ({ w with store := s }.setCall id (.sweep next)).callLoad = w.callLoad := by
  have hsame : (w.calls.set id (.sweep next)).map Call.load = w.calls.map Call.load := by
    refine List.ext_getElem? fun i => ?_
    rw [List.getElem?_map, List.getElem?_map, List.getElem?_set]
    split
    · rename_i hi
      subst hi
      rw [hold]
      split
      · rfl
      · rename_i hlt
        exact absurd (List.getElem?_eq_some_iff.mp hold).1 hlt
    · rfl
  rw [callLoad, setCall, callLoad, hsame]

theorem sweepLoad_setSweep {w : World} {id : CallId} {sw : Sweep} {st : Step Sweep}
    (hold : w.calls[id]? = some (.sweep sw)) (hstep : sw.step w.now w.disk w.store = some st) :
    ({ w with store := st.store }.setCall id (.sweep st.next)).sweepLoad < w.sweepLoad := by
  have hmapped := (Sweep.step_effect hstep).length_mapped
  have hlt := Nat.lt_of_le_of_lt (Sweep.load_mono hmapped st.next) (Sweep.step_load hstep)
  have hcalls (c : Call) :
      c.sweepLoad st.store.mapped.length ≤ c.sweepLoad w.store.mapped.length := by
    cases c with
    | sweep sw => exact Sweep.load_mono hmapped sw
    | _ => exact Nat.le_refl 0
  exact Nat.add_lt_add_of_lt_of_le (sum_map_set_lt hcalls hold hlt)
    (sum_map_le (Scanner.load_mono hmapped w.now) w.scanners)

theorem sweepLoad_setScanner {w : World} {id : ScannerId} {sc : Scanner} {st : Step Scanner}
    (hold : w.scanners[id]? = some sc) (hturn : sc.Turn w.now w.disk w.store st) :
    ({ w with store := st.store, scanners := w.scanners.set id st.next } : World).sweepLoad <
      w.sweepLoad := by
  obtain ⟨hlt, hmapped⟩ := hturn.load_lt
  have hlt' := Nat.lt_of_le_of_lt (Scanner.load_mono hmapped w.now st.next) hlt
  have hcalls (c : Call) :
      c.sweepLoad st.store.mapped.length ≤ c.sweepLoad w.store.mapped.length := by
    cases c with
    | sweep sw => exact Sweep.load_mono hmapped sw
    | _ => exact Nat.le_refl 0
  exact Nat.add_lt_add_of_le_of_lt (sum_map_le hcalls w.calls)
    (sum_map_set_lt (Scanner.load_mono hmapped w.now) hold hlt')

/-- A turn brings the load of the calls down, or leaves it and brings that of the sweeps
down. -/
theorem step_load {w w' : World} {agent : Agent} {notices : List Notice}
    (h : w.step agent = some (w', notices)) :
    w'.callLoad < w.callLoad ∨ (w'.callLoad = w.callLoad ∧ w'.sweepLoad < w.sweepLoad) := by
  cases step_turn h with
  | scanner hsc hturn => exact .inr ⟨rfl, sweepLoad_setScanner hsc (Scanner.step_turn hturn)⟩
  | call hcall hturn =>
    cases hturn with
    | @lookup path phase st hstep =>
      exact .inl (callLoad_setCall (v := { w with store := st.store }) rfl hcall
        (Lookup.step_course hstep).load_lt)
    | sweep hstep => exact .inr ⟨callLoad_setSweep hcall, sweepLoad_setSweep hcall hstep⟩
    | toggle hturn => exact .inl (callLoad_setCall hturn.switched.calls hcall hturn.load_lt)
    | shutdown hturn => exact .inl (callLoad_setCall hturn.switched.calls hcall hturn.load_lt)
    | scan hturn => exact .inl (callLoad_setCall hturn.switched.calls hcall hturn.load_lt)
    | read hgoes => exact .inl (callLoad_setCall rfl hcall (Reading.load_advance hgoes))
    | stat => exact .inl (callLoad_setCall rfl hcall Nat.zero_lt_one)

end World
end FileCache
