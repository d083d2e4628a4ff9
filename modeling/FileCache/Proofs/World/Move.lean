import FileCache.Proofs.World.Turn

/-!
What one event does to the store, and to the lookups and sweeps that work on it.

`apply_move` sorts every event of a world into six kinds of moves.  Whatever all turns of
lookups and sweeps keep, and clearing, switching and reordering too, holds in every run.
-/

namespace FileCache

def Call.lookup? : Call → Option (Path × Lookup)
  | .lookup path phase => some (path, phase)
  | _ => none

def Call.sweep? : Call → Option Sweep
  | .sweep sw => some sw
  | _ => none

def Scanner.sweep? (sc : Scanner) : Option Sweep :=
  match sc.phase with
  | .sweeping _ sw => some sw
  | _ => none

theorem Call.lookup?_eq_some_iff {call : Call} {path : Path} {phase : Lookup} :
    call.lookup? = some (path, phase) ↔ call = .lookup path phase := by
  cases call <;> simp [lookup?]

theorem Call.sweep?_eq_some_iff {call : Call} {sw : Sweep} :
    call.sweep? = some sw ↔ call = .sweep sw := by
  cases call <;> simp [sweep?]

theorem Scanner.sweep?_eq_some_iff {sc : Scanner} {sw : Sweep} :
    sc.sweep? = some sw ↔ ∃ cause, sc.phase = .sweeping cause sw := by
  cases hphase : sc.phase <;> simp [sweep?, hphase]

theorem Sweep.report?_eq_some_iff {sw : Sweep} {report : Report} :
    sw.report? = some report ↔ sw.phase = .finished ∧ sw.report = report := by
  cases hphase : sw.phase <;> simp [report?, hphase]

namespace World

def lookup? (w : World) (id : CallId) : Option (Path × Lookup) :=
  (w.calls[id]?).bind Call.lookup?

/-- No lookup is in flight. -/
def AllAnswered (w : World) : Prop :=
  ∀ id path phase, w.lookup? id = some (path, phase) → phase.answer?.isSome = true

/-- The sweep of an agent, if that is what the agent is about. -/
def sweep? (w : World) : Agent → Option Sweep
  | .call id => (w.calls[id]?).bind Call.sweep?
  | .scanner id => (w.scanners[id]?).bind Scanner.sweep?

theorem lookup?_eq_some_iff {w : World} {id : CallId} {path : Path} {phase : Lookup} :
    w.lookup? id = some (path, phase) ↔ w.calls[id]? = some (.lookup path phase) := by
  simp [lookup?, Option.bind_eq_some_iff, Call.lookup?_eq_some_iff]

theorem sweep?_call_eq_some_iff {w : World} {id : CallId} {sw : Sweep} :
    w.sweep? (.call id) = some sw ↔ w.calls[id]? = some (.sweep sw) := by
  simp [sweep?, Option.bind_eq_some_iff, Call.sweep?_eq_some_iff]

theorem sweep?_scanner_eq_some_iff {w : World} {id : ScannerId} {sw : Sweep} :
    w.sweep? (.scanner id) = some sw ↔
      ∃ sc cause, w.scanners[id]? = some sc ∧ sc.phase = .sweeping cause sw := by
  simp [sweep?, Option.bind_eq_some_iff, Scanner.sweep?_eq_some_iff]

theorem sweep?_of_phase {w : World} {id : ScannerId} {sc : Scanner} {cause : Wake} {sw : Sweep}
    (hsc : w.scanners[id]? = some sc) (hphase : sc.phase = .sweeping cause sw) :
    w.sweep? (.scanner id) = some sw :=
  sweep?_scanner_eq_some_iff.mpr ⟨sc, cause, hsc, hphase⟩

/-- All lookups and sweeps stand where they stood. -/
structure Undisturbed (w w' : World) : Prop where
  lookup? : w'.lookup? = w.lookup?
  sweep? : w'.sweep? = w.sweep?

theorem Undisturbed.trans {w v u : World} (h : Undisturbed w v) (k : Undisturbed v u) :
    Undisturbed w u := ⟨k.lookup?.trans h.lookup?, k.sweep?.trans h.sweep?⟩

/-- What one turn of the sweep of an agent leaves behind. -/
structure SweepTurn (w : World) (agent : Agent) (sw : Sweep) (st : Step Sweep) (w' : World) :
    Prop where
  step : sw.step w.now w.disk w.store = some st
  store : w'.store = st.store
  next : ∀ sw', w'.sweep? agent = some sw' → sw' = st.next
  /-- A scanner lets go of a sweep that is over. -/
  unfinished : ∀ id sw', agent = .scanner id → w'.sweep? agent = some sw' → sw'.phase ≠ .finished
  others : ∀ other, other ≠ agent → w'.sweep? other = w.sweep? other
  lookups : w'.lookup? = w.lookup?

/-- What an event makes of a world, as far as the store is concerned. -/
inductive Move (w : World) (event : Event) (w' : World) : Prop
  | idle (hstore : w'.store = w.store)
      (hlookups : ∀ id path phase, w'.lookup? id = some (path, phase) →
        w.lookup? id = some (path, phase) ∨ (event = .call (.lookup path) ∧ phase = .starting))
      (hkept : ∀ id path phase, w.lookup? id = some (path, phase) →
        w'.lookup? id = some (path, phase))
      (hsweeps : ∀ agent sw, w'.sweep? agent = some sw →
        w.sweep? agent = some sw ∨ sw = Sweep.fresh)
  | lookup (id : CallId) (path : Path) (phase : Lookup) (st : Step Lookup)
      (hevent : event = .turn (.call id)) (hat : w.lookup? id = some (path, phase))
      (hstep : phase.step w.now w.disk path w.store = some st)
      (hstore : w'.store = st.store) (hnext : w'.lookup? id = some (path, st.next))
      (hlookups : ∀ other, other ≠ id → w'.lookup? other = w.lookup? other)
      (hsweeps : w'.sweep? = w.sweep?)
  | sweep (agent : Agent) (sw : Sweep) (st : Step Sweep) (hevent : event = .turn agent)
      (hat : w.sweep? agent = some sw) (hturn : SweepTurn w agent sw st w')
  | clear (hstore : w'.store = w.store.dropAll) (hsame : Undisturbed w w')
  | switch (on : Bool) (hstore : w'.store = { w.store with enabled := on })
      (hsame : Undisturbed w w')
  | shuffle (order : List EntryId) (hperm : order.Perm w.store.mapped)
      (hstore : w'.store = { w.store with mapped := order }) (hsame : Undisturbed w w')

variable {w w' : World} {event : Event}

theorem Move.still (hstore : w'.store = w.store) (hsame : Undisturbed w w') :
    Move w event w' :=
  .idle hstore (fun _ _ _ h => .inl (hsame.lookup? ▸ h)) (fun _ _ _ h => hsame.lookup? ▸ h)
    (fun _ _ h => .inl (hsame.sweep? ▸ h))

/-- A lookup after an event stands where it stood, is new, or has just taken its turn. -/
theorem Move.lookup_cases (h : Move w event w') {id : CallId} {path : Path} {phase : Lookup}
    (hat : w'.lookup? id = some (path, phase)) :
    w.lookup? id = some (path, phase) ∨ (event = .call (.lookup path) ∧ phase = .starting) ∨
      ∃ before st, w.lookup? id = some (path, before) ∧
        before.step w.now w.disk path w.store = some st ∧ w'.store = st.store ∧
        phase = st.next := by
  cases h with
  | idle _ hlookups _ _ =>
    rcases hlookups id path phase hat with hold | hnew
    · exact .inl hold
    · exact .inr (.inl hnew)
  | lookup other p before st _ hbefore hstep hstore hnext hlookups _ =>
    by_cases hid : id = other
    · subst hid
      rw [hnext, Option.some.injEq, Prod.mk.injEq] at hat
      obtain ⟨rfl, rfl⟩ := hat
      exact .inr (.inr ⟨before, st, hbefore, hstep, hstore, rfl⟩)
    · exact .inl (hlookups id hid ▸ hat)
  | sweep _ _ _ _ _ hturn => exact .inl (hturn.lookups ▸ hat)
  | clear _ hsame => exact .inl (hsame.lookup? ▸ hat)
  | switch _ _ hsame => exact .inl (hsame.lookup? ▸ hat)
  | shuffle _ _ _ hsame => exact .inl (hsame.lookup? ▸ hat)

/-- A sweep after an event stands where it stood, is new, or has just taken its turn. -/
theorem Move.sweep_cases (h : Move w event w') {agent : Agent} {sw : Sweep}
    (hat : w'.sweep? agent = some sw) :
    w.sweep? agent = some sw ∨ sw = Sweep.fresh ∨
      ∃ before st, w.sweep? agent = some before ∧ SweepTurn w agent before st w' ∧
        sw = st.next := by
  cases h with
  | idle _ _ _ hsweeps =>
    rcases hsweeps agent sw hat with hold | hnew
    · exact .inl hold
    · exact .inr (.inl hnew)
  | lookup _ _ _ _ _ _ _ _ _ _ hsweeps => exact .inl (hsweeps ▸ hat)
  | sweep other before st _ hbefore hturn =>
    by_cases hagent : agent = other
    · subst hagent
      exact .inr (.inr ⟨before, st, hbefore, hturn, hturn.next sw hat⟩)
    · exact .inl (hturn.others agent hagent ▸ hat)
  | clear _ hsame => exact .inl (hsame.sweep? ▸ hat)
  | switch _ _ hsame => exact .inl (hsame.sweep? ▸ hat)
  | shuffle _ _ _ hsame => exact .inl (hsame.sweep? ▸ hat)

/-! ## Changes of the lists of calls and scanners -/

/-- What one of a list adds to a count, and the rest of the count, which does not depend on it. -/
theorem countP_set_split {α : Type} {l : List α} {i : Nat} {old : α} (hold : l[i]? = some old)
    (p : α → Bool) : ∃ others, l.countP p = others + (p old).toNat ∧
      ∀ new, (l.set i new).countP p = others + (p new).toNat := by
  obtain ⟨hlt, hget⟩ := List.getElem?_eq_some_iff.mp hold
  have hle := List.boole_getElem_le_countP (p := p) hlt
  have htoNat (b : Bool) : b.toNat = if b then 1 else 0 := by cases b <;> rfl
  rw [hget] at hle
  refine ⟨l.countP p - (p old).toNat, ?_, fun new => ?_⟩
  · rw [htoNat]
    exact (Nat.sub_add_cancel hle).symm
  · rw [List.countP_set hlt, hget, htoNat, htoNat]

theorem lookup?_setCall {id : CallId} {old : Call} (hold : w.calls[id]? = some old)
    (call : Call) (other : CallId) :
    (w.setCall id call).lookup? other = if other = id then call.lookup? else w.lookup? other := by
  have hlt : id < w.calls.length := (List.getElem?_eq_some_iff.mp hold).1
  by_cases h : other = id
  · subst h
    simp [lookup?, setCall, hlt]
  · have hne : id ≠ other := fun e => h e.symm
    simp [lookup?, setCall, h, hne]

theorem sweep?_setCall {id : CallId} {old : Call} (hold : w.calls[id]? = some old)
    (call : Call) (agent : Agent) :
    (w.setCall id call).sweep? agent =
      if agent = .call id then call.sweep? else w.sweep? agent := by
  have hlt : id < w.calls.length := (List.getElem?_eq_some_iff.mp hold).1
  cases agent with
  | scanner other => simp [sweep?, setCall]
  | call other =>
    by_cases h : other = id
    · subst h
      simp [sweep?, setCall, hlt]
    · have hne : id ≠ other := fun e => h e.symm
      simp [sweep?, setCall, h, hne]

theorem sweep?_setScanner {id : ScannerId} {old : Scanner} (hold : w.scanners[id]? = some old)
    (s : Store) (sc : Scanner) (agent : Agent) :
    ({ w with store := s, scanners := w.scanners.set id sc } : World).sweep? agent =
      if agent = .scanner id then sc.sweep? else w.sweep? agent := by
  have hlt : id < w.scanners.length := (List.getElem?_eq_some_iff.mp hold).1
  cases agent with
  | call other => simp [sweep?]
  | scanner other =>
    by_cases h : other = id
    · subst h
      simp [sweep?, hlt]
    · have hne : id ≠ other := fun e => h e.symm
      simp [sweep?, h, hne]

/-- Replacing a call by one that is no lookup and no sweep either. -/
theorem undisturbed_setCall {id : CallId} {old call : Call} (hold : w.calls[id]? = some old)
    (hlookup : call.lookup? = old.lookup?) (hsweep : call.sweep? = old.sweep?) :
    Undisturbed w (w.setCall id call) := by
  constructor
  · funext other
    rw [lookup?_setCall hold]
    split
    · rename_i h
      rw [h, lookup?, hold, Option.bind_some, hlookup]
    · rfl
  · funext agent
    rw [sweep?_setCall hold]
    split
    · rename_i h
      rw [h, sweep?, hold, Option.bind_some, hsweep]
    · rfl

/-- Replacing a scanner by one that is at the same point of its sweep, if of any. -/
theorem undisturbed_setScanner {id : ScannerId} {old sc : Scanner}
    (hold : w.scanners[id]? = some old) (s : Store) (hsweep : sc.sweep? = old.sweep?) :
    Undisturbed w { w with store := s, scanners := w.scanners.set id sc } := by
  refine ⟨rfl, ?_⟩
  funext agent
  rw [sweep?_setScanner hold]
  split
  · rename_i h
    rw [h, sweep?, hold, Option.bind_some, hsweep]
  · rfl

theorem undisturbed_stopScanner (id : ScannerId) (w : World) :
    Undisturbed w (w.stopScanner id) := by
  refine ⟨rfl, ?_⟩
  funext agent
  cases agent with
  | call other => rfl
  | scanner other =>
    by_cases h : id = other
    · subst h
      cases hsc : w.scanners[id]? <;> simp [sweep?, stopScanner, hsc, Scanner.sweep?, Scanner.stop]
    · simp [sweep?, stopScanner, h]

theorem undisturbed_addScanner (own : Bool) (w : World) : Undisturbed w (w.addScanner own) := by
  refine ⟨rfl, ?_⟩
  funext agent
  cases agent with
  | call other => rfl
  | scanner other =>
    rcases Nat.lt_trichotomy other w.scanners.length with h | h | h
    · simp [sweep?, addScanner, List.getElem?_append_left h]
    · subst h
      simp [sweep?, addScanner, Scanner.sweep?, Scanner.fresh]
    · have hnone : (w.scanners ++ [Scanner.fresh own])[other]? = none := by
        rw [List.getElem?_eq_none_iff, List.length_append, List.length_singleton]
        exact h
      rw [sweep?, sweep?, addScanner, hnone, List.getElem?_eq_none (Nat.le_of_lt h)]

theorem store_requestScan (id : ScannerId) (w : World) :
    (w.requestScan id).2.store = w.store := by
  unfold requestScan
  split <;> rfl

theorem calls_requestScan (id : ScannerId) (w : World) :
    (w.requestScan id).2.calls = w.calls := by
  unfold requestScan
  split <;> rfl

theorem disk_requestScan (id : ScannerId) (w : World) : (w.requestScan id).2.disk = w.disk := by
  unfold requestScan
  split <;> rfl

theorem undisturbed_requestScan (id : ScannerId) (w : World) :
    Undisturbed w (w.requestScan id).2 := by
  unfold requestScan
  split
  · exact ⟨rfl, rfl⟩
  · rename_i sc hsc
    refine undisturbed_setScanner hsc w.store ?_
    unfold Scanner.request
    split <;> rfl

/-! ## The switch -/

/-- Working the switch, or asking the store's scanner for a sweep, changes the on/off
state at most. -/
structure Switched (w w' : World) : Prop where
  calls : w'.calls = w.calls
  disk : w'.disk = w.disk
  same : Undisturbed w w'
  store : ∃ on, w'.store = { w.store with enabled := on }

theorem Switched.still (hcalls : w'.calls = w.calls) (hdisk : w'.disk = w.disk)
    (hsame : Undisturbed w w') (hstore : w'.store = w.store) : Switched w w' :=
  ⟨hcalls, hdisk, hsame, w.store.enabled, hstore⟩

theorem switched_turnOn (w : World) : Switched w w.turnOn := by
  have h := undisturbed_addScanner true
    { w with
      store := { w.store with enabled := true }
      switch := { slot := some w.scanners.length, held := false } }
  exact ⟨rfl, rfl, ⟨h.lookup?, h.sweep?⟩, true, rfl⟩

theorem switched_turnOff (w : World) : Switched w w.turnOff := by
  unfold turnOff
  simp only []
  split
  · rename_i id _
    have h := undisturbed_stopScanner id { w with store := { w.store with enabled := false } }
    exact ⟨rfl, rfl, ⟨h.lookup?, h.sweep?⟩, false, rfl⟩
  · exact ⟨rfl, rfl, ⟨rfl, rfl⟩, false, rfl⟩

theorem ToggleTurn.switched {on : Bool} {phase next : Toggle} {notices : List Notice}
    (h : ToggleTurn w on phase next w' notices) : Switched w w' := by
  cases h with
  | same => exact .still rfl rfl ⟨rfl, rfl⟩ rfl
  | joins => exact .still rfl rfl ⟨rfl, rfl⟩ rfl
  | on => exact switched_turnOn w
  | off => exact switched_turnOff w
  | joined => exact switched_turnOn w

theorem ShutdownTurn.switched {phase next : Shutdown} {notices : List Notice}
    (h : ShutdownTurn w phase next w' notices) : Switched w w' := by
  cases h with
  | off => exact switched_turnOff w
  | _ => exact .still rfl rfl ⟨rfl, rfl⟩ rfl

theorem ScanTurn.switched {phase next : ScanRequest} (h : ScanTurn w phase next w') :
    Switched w w' := by
  cases h with
  | @asks id =>
    exact .still (calls_requestScan id w) (disk_requestScan id w)
      (undisturbed_requestScan id w) (store_requestScan id w)
  | refused => exact .still rfl rfl ⟨rfl, rfl⟩ rfl

/-- A call that works the switch goes on. -/
theorem Switched.move {id : CallId} {old call : Call} (h : Switched w w')
    (hold : w.calls[id]? = some old) (hlookup : call.lookup? = old.lookup?)
    (hsweep : call.sweep? = old.sweep?) : Move w event (w'.setCall id call) := by
  obtain ⟨on, hstore⟩ := h.store
  have hold' : w'.calls[id]? = some old := by rw [h.calls, hold]
  exact .switch on hstore (h.same.trans (undisturbed_setCall hold' hlookup hsweep))

/-! ## Turns -/

theorem sweepTurn_call {id : CallId} {sw : Sweep} {st : Step Sweep}
    (hcall : w.calls[id]? = some (.sweep sw)) (hstep : sw.step w.now w.disk w.store = some st) :
    SweepTurn w (.call id) sw st
      ({ w with store := st.store }.setCall id (.sweep st.next)) := by
  have hlookups := lookup?_setCall (w := { w with store := st.store }) hcall (.sweep st.next)
  have hsweeps := sweep?_setCall (w := { w with store := st.store }) hcall (.sweep st.next)
  refine ⟨hstep, rfl, ?_, (fun _ _ hagent => by cases hagent), ?_, ?_⟩
  · intro sw' hsw'
    rw [hsweeps, if_pos rfl, Call.sweep?, Option.some.injEq] at hsw'
    exact hsw'.symm
  · intro other hne
    rw [hsweeps other, if_neg hne]
    rfl
  · funext other
    rw [hlookups other]
    split
    · rename_i hother
      rw [hother, lookup?, hcall]
      rfl
    · rfl

/-- The scanner of a sweep goes on with it, or lets go of it. -/
theorem sweepTurn_scanner {id : ScannerId} {sc next : Scanner} {sw : Sweep} {st : Step Sweep}
    (hsc : w.scanners[id]? = some sc) (hstep : sw.step w.now w.disk w.store = some st)
    (hnext : ∀ sw', next.sweep? = some sw' → sw' = st.next ∧ st.next.phase ≠ .finished) :
    SweepTurn w (.scanner id) sw st
      { w with store := st.store, scanners := w.scanners.set id next } := by
  have hsweeps := sweep?_setScanner hsc st.store next
  refine ⟨hstep, rfl, ?_, ?_, ?_, rfl⟩
  · intro sw' h
    rw [hsweeps, if_pos rfl] at h
    exact (hnext sw' h).1
  · intro _ sw' _ h
    rw [hsweeps, if_pos rfl] at h
    obtain ⟨rfl, hgoes⟩ := hnext sw' h
    exact hgoes
  · intro other hne
    rw [hsweeps, if_neg hne]

theorem sweepTurn_of_turn {id : ScannerId} {sc : Scanner} {cause : Wake} {sw : Sweep}
    {turn : Step Scanner} (hsc : w.scanners[id]? = some sc)
    (hphase : sc.phase = .sweeping cause sw) (h : sc.Turn w.now w.disk w.store turn) :
    ∃ st, SweepTurn w (.scanner id) sw st
      { w with store := turn.store, scanners := w.scanners.set id turn.next } := by
  cases h with
  | sweeps hphase' hstep hgoes =>
    cases hphase'.symm.trans hphase
    refine ⟨_, sweepTurn_scanner hsc hstep fun sw' hsw' => ?_⟩
    cases hsw'
    refine ⟨rfl, fun hfinished => ?_⟩
    simp [Sweep.report?, hfinished] at hgoes
  | swept hphase' hstep _ =>
    cases hphase'.symm.trans hphase
    exact ⟨_, sweepTurn_scanner hsc hstep nofun⟩
  | started hphase' => cases hphase'.symm.trans hphase
  | unstarted hphase' => cases hphase'.symm.trans hphase
  | dismissed hphase' => cases hphase'.symm.trans hphase
  | asked hphase' => cases hphase'.symm.trans hphase
  | unanswered hphase' => cases hphase'.symm.trans hphase
  | due hphase' => cases hphase'.symm.trans hphase
  | cleared hphase' => cases hphase'.symm.trans hphase

/-- An agent that is about a sweep goes on with it. -/
theorem step_sweep {agent : Agent} {sw : Sweep} {notices : List Notice}
    (hat : w.sweep? agent = some sw) (h : w.step agent = some (w', notices)) :
    ∃ st, SweepTurn w agent sw st w' := by
  cases step_turn h with
  | call hcall hturn =>
    cases hcall.symm.trans (sweep?_call_eq_some_iff.mp hat)
    cases hturn with
    | sweep hstep => exact ⟨_, sweepTurn_call hcall hstep⟩
  | scanner hsc hstep =>
    obtain ⟨_, cause, hsc', hphase⟩ := sweep?_scanner_eq_some_iff.mp hat
    cases hsc.symm.trans hsc'
    exact sweepTurn_of_turn hsc hphase (Scanner.step_turn hstep)

/-- An agent keeps its sweep up to the end of it. -/
theorem step_sweep_at {agent : Agent} {sw : Sweep} {st : Step Sweep} {notices : List Notice}
    (hat : w.sweep? agent = some sw) (hstep : sw.step w.now w.disk w.store = some st)
    (hgoes : st.next.phase ≠ .finished) (h : w.step agent = some (w', notices)) :
    w'.sweep? agent = some st.next := by
  cases step_turn h with
  | call hcall hturn =>
    cases hcall.symm.trans (sweep?_call_eq_some_iff.mp hat)
    cases hturn with
    | sweep hstep' =>
      cases hstep.symm.trans hstep'
      have hset := sweep?_setCall (w := { w with store := st.store }) hcall (.sweep st.next)
      rw [hset, if_pos rfl, Call.sweep?]
  | scanner hsc hturn =>
    obtain ⟨_, cause, hsc', hphase⟩ := sweep?_scanner_eq_some_iff.mp hat
    cases hsc.symm.trans hsc'
    rw [sweep?_setScanner hsc, if_pos rfl]
    cases Scanner.step_turn hturn with
    | sweeps hphase' hstep' =>
      cases hphase'.symm.trans hphase
      cases hstep.symm.trans hstep'
      rfl
    | swept hphase' hstep' hreport =>
      cases hphase'.symm.trans hphase
      cases hstep.symm.trans hstep'
      exact absurd (Sweep.report?_eq_some_iff.mp hreport).1 hgoes
    | started hphase' => cases hphase'.symm.trans hphase
    | unstarted hphase' => cases hphase'.symm.trans hphase
    | dismissed hphase' => cases hphase'.symm.trans hphase
    | asked hphase' => cases hphase'.symm.trans hphase
    | unanswered hphase' => cases hphase'.symm.trans hphase
    | due hphase' => cases hphase'.symm.trans hphase
    | cleared hphase' => cases hphase'.symm.trans hphase

theorem CallTurn.move {id : CallId} {call : Call} {notices : List Notice}
    (hcall : w.calls[id]? = some call) (h : CallTurn w id call w' notices) :
    Move w (.turn (.call id)) w' := by
  cases h with
  | @lookup path phase st hstep =>
    have hset := lookup?_setCall (w := { w with store := st.store }) hcall (.lookup path st.next)
    have hsweeps := sweep?_setCall (w := { w with store := st.store }) hcall
      (.lookup path st.next)
    refine .lookup id path phase st rfl (lookup?_eq_some_iff.mpr hcall) hstep rfl ?_ ?_ ?_
    · rw [hset id, if_pos rfl, Call.lookup?]
    · intro other hne
      rw [hset other, if_neg hne]
      rfl
    · funext agent
      rw [hsweeps agent]
      split
      · rename_i hagent
        rw [hagent, sweep?, hcall]
        rfl
      · rfl
  | @sweep sw st hstep =>
    exact .sweep (.call id) sw st rfl (sweep?_call_eq_some_iff.mpr hcall)
      (sweepTurn_call hcall hstep)
  | toggle hturn => exact hturn.switched.move hcall rfl rfl
  | shutdown hturn => exact hturn.switched.move hcall rfl rfl
  | scan hturn => exact hturn.switched.move hcall rfl rfl
  | read => exact .still rfl (undisturbed_setCall hcall rfl rfl)
  | stat => exact .still rfl (undisturbed_setCall hcall rfl rfl)

theorem CallTurn.disk {id : CallId} {call : Call} {notices : List Notice}
    (h : CallTurn w id call w' notices) : w'.disk = w.disk := by
  cases h with
  | toggle hturn => exact hturn.switched.disk
  | shutdown hturn => exact hturn.switched.disk
  | scan hturn => exact hturn.switched.disk
  | _ => rfl

/-- No turn changes the disk. -/
theorem step_disk {agent : Agent} {notices : List Notice}
    (h : w.step agent = some (w', notices)) : w'.disk = w.disk := by
  cases step_turn h with
  | call _ hturn => exact hturn.disk
  | scanner => rfl

/-- A scanner that is not sweeping begins a sweep at most. -/
theorem move_setScanner {id : ScannerId} {sc next : Scanner} (hsc : w.scanners[id]? = some sc)
    (hnext : ∀ sw, next.sweep? = some sw → sw = Sweep.fresh) :
    Move w event { w with scanners := w.scanners.set id next } := by
  refine .idle rfl (fun _ _ _ h => .inl h) (fun _ _ _ h => h) fun agent sw h => ?_
  rw [sweep?_setScanner hsc w.store] at h
  split at h
  · exact .inr (hnext sw h)
  · exact .inl h

theorem move_wake {id : ScannerId} {sc : Scanner} (hsc : w.scanners[id]? = some sc) (wake : Wake)
    (sc' : Scanner) :
    Move w event
      { w with
        store := (sc'.wake wake w.store).store
        scanners := w.scanners.set id (sc'.wake wake w.store).next } := by
  unfold Scanner.wake
  split
  · exact move_setScanner hsc fun sw h => (Option.some.inj h).symm
  · exact move_setScanner hsc fun sw h => by cases h

theorem move_of_turn {id : ScannerId} {sc : Scanner} {turn : Step Scanner}
    (hsc : w.scanners[id]? = some sc) (h : sc.Turn w.now w.disk w.store turn) :
    Move w (.turn (.scanner id))
      { w with store := turn.store, scanners := w.scanners.set id turn.next } := by
  have hsweep {cause : Wake} {sw : Sweep} (hphase : sc.phase = .sweeping cause sw) :
      Move w (.turn (.scanner id))
        { w with store := turn.store, scanners := w.scanners.set id turn.next } := by
    obtain ⟨st, hturn⟩ := sweepTurn_of_turn hsc hphase h
    exact .sweep (.scanner id) sw st rfl (sweep?_of_phase hsc hphase) hturn
  cases h with
  | started => exact move_setScanner hsc fun sw h => by cases h
  | unstarted => exact move_setScanner hsc fun sw h => by cases h
  | dismissed => exact move_setScanner hsc fun sw h => by cases h
  | asked => exact move_wake hsc _ _
  | unanswered => exact move_setScanner hsc fun sw h => by cases h
  | due => exact move_wake hsc _ _
  | sweeps hphase => exact hsweep hphase
  | swept hphase => exact hsweep hphase
  | cleared hphase =>
    refine .clear rfl (undisturbed_setScanner hsc _ ?_)
    simp only [Scanner.sweep?, hphase]

/-- Somebody begins to use the store. -/
theorem begin_move (ask : Ask) (w : World) : Move w (.call ask) (w.begin ask) := by
  have hcalls (id : CallId) (call : Call) (h : (w.begin ask).calls[id]? = some call) :
      w.calls[id]? = some call ∨ call = ask.call := by
    rw [begin, List.getElem?_append] at h
    split at h
    · exact .inl h
    · exact .inr (List.mem_singleton.mp (List.mem_of_getElem? h))
  refine .idle rfl (fun id path phase h => ?_) (fun id path phase h => ?_) fun agent sw h => ?_
  · rcases hcalls id _ (lookup?_eq_some_iff.mp h) with hold | hnew
    · exact .inl (lookup?_eq_some_iff.mpr hold)
    · cases ask <;> cases hnew
      exact .inr ⟨rfl, rfl⟩
  · have hcall := lookup?_eq_some_iff.mp h
    have hlt : id < w.calls.length := (List.getElem?_eq_some_iff.mp hcall).1
    rw [lookup?, begin, List.getElem?_append_left hlt]
    exact h
  · cases agent with
    | scanner id => exact .inl h
    | call id =>
      rcases hcalls id _ (sweep?_call_eq_some_iff.mp h) with hold | hnew
      · exact .inl (sweep?_call_eq_some_iff.mpr hold)
      · cases ask <;> cases hnew
        exact .inr rfl

/-- Every event is one of the moves. -/
theorem apply_move {notices : List Notice}
    (h : w.apply event = some (w', notices)) : Move w event w' := by
  cases apply_happens h with
  | turn hstep =>
    cases step_turn hstep with
    | call hcall hturn => exact hturn.move hcall
    | scanner hsc hturn => exact move_of_turn hsc (Scanner.step_turn hturn)
  | call ask => exact begin_move ask w
  | edit => exact .still rfl ⟨rfl, rfl⟩
  | elapse => exact .still rfl ⟨rfl, rfl⟩
  | spawn => exact .still rfl (undisturbed_addScanner false w)
  | @stop id => exact .still rfl (undisturbed_stopScanner id w)
  | @request id => exact .still (store_requestScan id w) (undisturbed_requestScan id w)
  | @shuffle order hperm => exact .shuffle order hperm rfl ⟨rfl, rfl⟩

theorem step_move {agent : Agent} {notices : List Notice}
    (h : w.step agent = some (w', notices)) : Move w (.turn agent) w' := apply_move h

/-! ## Whose turn it was -/

/-- What one turn of a lookup leaves behind. -/
structure LookupTurn (w : World) (id : CallId) (path : Path) (phase : Lookup) (st : Step Lookup)
    (w' : World) : Prop where
  step : phase.step w.now w.disk path w.store = some st
  store : w'.store = st.store
  next : w'.lookup? id = some (path, st.next)

/-- A lookup whose turn it is goes on. -/
theorem step_lookup {id : CallId} {path : Path} {phase : Lookup} {notices : List Notice}
    (hat : w.lookup? id = some (path, phase)) (h : w.step (.call id) = some (w', notices)) :
    ∃ st, LookupTurn w id path phase st w' := by
  cases step_turn h with
  | call hcall hturn =>
    cases hcall.symm.trans (lookup?_eq_some_iff.mp hat)
    cases hturn with
    | @lookup _ _ st hstep =>
      refine ⟨st, hstep, rfl, ?_⟩
      have hset := lookup?_setCall (w := { w with store := st.store }) hcall
        (.lookup path st.next)
      rw [hset id, if_pos rfl, Call.lookup?]

theorem Move.lookup_others (h : Move w event w') {id : CallId} {path : Path} {phase : Lookup}
    (hother : event ≠ .turn (.call id)) (hat : w'.lookup? id = some (path, phase)) :
    w.lookup? id = some (path, phase) ∨ phase = .starting := by
  cases h with
  | idle _ hlookups _ _ => exact (hlookups id path phase hat).imp_right (·.2)
  | lookup other _ _ _ hevent _ _ _ _ hlookups _ =>
    have hne : id ≠ other := fun he => hother (he ▸ hevent)
    exact .inl (hlookups id hne ▸ hat)
  | sweep _ _ _ _ _ hturn => exact .inl (hturn.lookups ▸ hat)
  | clear _ hsame => exact .inl (hsame.lookup? ▸ hat)
  | switch _ _ hsame => exact .inl (hsame.lookup? ▸ hat)
  | shuffle _ _ _ hsame => exact .inl (hsame.lookup? ▸ hat)

/-- A lookup stays where it is while another takes a turn. -/
theorem Move.lookup_kept (h : Move w event w') {id : CallId} {path : Path}
    {phase : Lookup} (hother : event ≠ .turn (.call id))
    (hat : w.lookup? id = some (path, phase)) :
    w'.lookup? id = some (path, phase) := by
  cases h with
  | idle _ _ hkept _ => exact hkept id path phase hat
  | lookup other _ _ _ hevent _ _ _ _ hlookups _ =>
    have hne : id ≠ other := fun he => hother (he ▸ hevent)
    rw [hlookups id hne]
    exact hat
  | sweep _ _ _ _ _ hturn => rw [hturn.lookups]; exact hat
  | clear _ hsame => rw [hsame.lookup?]; exact hat
  | switch _ _ hsame => rw [hsame.lookup?]; exact hat
  | shuffle _ _ _ hsame => rw [hsame.lookup?]; exact hat

theorem Move.sweep_others (h : Move w event w') {agent : Agent} {sw : Sweep}
    (hother : event ≠ .turn agent) (hat : w'.sweep? agent = some sw) :
    w.sweep? agent = some sw ∨ sw = Sweep.fresh := by
  cases h with
  | idle _ _ _ hsweeps => exact hsweeps agent sw hat
  | lookup _ _ _ _ _ _ _ _ _ _ hsweeps => exact .inl (hsweeps ▸ hat)
  | sweep other _ _ hevent _ hturn =>
    have hne : agent ≠ other := fun he => hother (he ▸ hevent)
    exact .inl (hturn.others agent hne ▸ hat)
  | clear _ hsame => exact .inl (hsame.sweep? ▸ hat)
  | switch _ _ hsame => exact .inl (hsame.sweep? ▸ hat)
  | shuffle _ _ _ hsame => exact .inl (hsame.sweep? ▸ hat)

/-- A turn leaves the sweeps of all other agents where they are. -/
theorem step_sweep?_other {agent other : Agent} {notices : List Notice} (hother : other ≠ agent)
    (h : w.step agent = some (w', notices)) : w'.sweep? other = w.sweep? other := by
  cases step_turn h with
  | @call id call _ _ hcall hturn =>
    have hset {v : World} (hv : Switched w v) (next : Call) :
        (v.setCall id next).sweep? other = w.sweep? other := by
      have hcall' : v.calls[id]? = some call := by rw [hv.calls, hcall]
      rw [sweep?_setCall hcall', if_neg hother, hv.same.sweep?]
    cases hturn with
    | @lookup path phase st _ =>
      rw [sweep?_setCall (w := { w with store := st.store }) hcall, if_neg hother]
      rfl
    | @sweep sw st _ =>
      rw [sweep?_setCall (w := { w with store := st.store }) hcall, if_neg hother]
      rfl
    | toggle hturn => exact hset hturn.switched _
    | shutdown hturn => exact hset hturn.switched _
    | scan hturn => exact hset hturn.switched _
    | read => rw [sweep?_setCall hcall, if_neg hother]
    | stat => rw [sweep?_setCall hcall, if_neg hother]
  | scanner hsc => rw [sweep?_setScanner hsc, if_neg hother]

/-- A sweep stays where it is while another agent takes a turn. -/
theorem apply_sweep_kept {agent : Agent} {sw : Sweep} {notices : List Notice}
    (h : w.apply event = some (w', notices)) (hother : event ≠ .turn agent)
    (hat : w.sweep? agent = some sw) : w'.sweep? agent = some sw := by
  cases apply_happens h with
  | @turn busy _ _ hstep =>
    have hne : agent ≠ busy := fun he => hother (he ▸ rfl)
    rw [step_sweep?_other hne hstep, hat]
  | call ask =>
    cases agent with
    | scanner id => exact hat
    | call id =>
      have hcall := sweep?_call_eq_some_iff.mp hat
      have hlt : id < w.calls.length := (List.getElem?_eq_some_iff.mp hcall).1
      rw [sweep?, begin, List.getElem?_append_left hlt]
      exact hat
  | edit => exact hat
  | elapse => exact hat
  | spawn => rw [(undisturbed_addScanner false w).sweep?, hat]
  | @stop id => rw [(undisturbed_stopScanner id w).sweep?, hat]
  | @request id => rw [(undisturbed_requestScan id w).sweep?, hat]
  | shuffle => exact hat

/-- A lookup after an event: it stands where it stood while another took a turn, or it is
new, or the turn was its own. -/
theorem apply_lookup_cases {notices : List Notice} (h : w.apply event = some (w', notices))
    {id : CallId} {path : Path} {phase : Lookup} (hat : w'.lookup? id = some (path, phase)) :
    (event ≠ .turn (.call id) ∧ w.lookup? id = some (path, phase)) ∨ phase = .starting ∨
      ∃ before st, event = .turn (.call id) ∧ w.lookup? id = some (path, before) ∧
        LookupTurn w id path before st w' ∧ phase = st.next := by
  by_cases hevent : event = .turn (.call id)
  · subst hevent
    have hbefore : ∃ before, w.lookup? id = some (path, before) := by
      rcases (apply_move h).lookup_cases hat with hold | ⟨hnew, -⟩ | ⟨before, st, hold, -⟩
      · exact ⟨phase, hold⟩
      · cases hnew
      · exact ⟨before, hold⟩
    obtain ⟨before, hbefore⟩ := hbefore
    obtain ⟨st, hturn⟩ := step_lookup hbefore h
    have hnext := hturn.next
    rw [hat, Option.some.injEq, Prod.mk.injEq] at hnext
    exact .inr (.inr ⟨before, st, rfl, hbefore, hturn, hnext.2⟩)
  · rcases (apply_move h).lookup_others hevent hat with hold | hnew
    · exact .inl ⟨hevent, hold⟩
    · exact .inr (.inl hnew)

/-- A sweep after an event: it stands where it stood while another took a turn, or it is
new, or the turn was its own. -/
theorem apply_sweep_cases {notices : List Notice} (h : w.apply event = some (w', notices))
    {agent : Agent} {sw : Sweep} (hat : w'.sweep? agent = some sw) :
    (event ≠ .turn agent ∧ w.sweep? agent = some sw) ∨ sw = Sweep.fresh ∨
      ∃ before st, event = .turn agent ∧ w.sweep? agent = some before ∧
        SweepTurn w agent before st w' ∧ sw = st.next := by
  by_cases hevent : event = .turn agent
  · subst hevent
    have hmine {before : Sweep} (hbefore : w.sweep? agent = some before) :
        ∃ before st, Event.turn agent = .turn agent ∧ w.sweep? agent = some before ∧
          SweepTurn w agent before st w' ∧ sw = st.next := by
      obtain ⟨st, hturn⟩ := step_sweep hbefore h
      exact ⟨before, st, rfl, hbefore, hturn, hturn.next sw hat⟩
    rcases (apply_move h).sweep_cases hat with hold | hnew | ⟨before, -, hold, -⟩
    · exact .inr (.inr (hmine hold))
    · exact .inr (.inl hnew)
    · exact .inr (.inr (hmine hold))
  · rcases (apply_move h).sweep_others hevent hat with hold | hnew
    · exact .inl ⟨hevent, hold⟩
    · exact .inr (.inl hnew)

end World
end FileCache
