import FileCache.World.Step

/-!
What the turn of an agent comes to, and every other event.

`step` and `apply` are opened here, once.  Every list of cases is complete and says under
which conditions each case arises.
-/

namespace FileCache

/-! ## Scanners -/

/-- A turn of a scanner. -/
inductive Scanner.Turn (now : Nat) (disk : Disk) (s : Store) (sc : Scanner) :
    Step Scanner → Prop
  | started (hphase : sc.phase = .starting) (hfits : fits now s.limits = true) :
      Turn now disk s sc
        { next := { sc with phase := .idle, deadline := now + period s.limits }, store := s,
          notices := [.scannerStarted (period s.limits)] }
  | unstarted (hphase : sc.phase = .starting) (hfull : fits now s.limits = false) :
      Turn now disk s sc
        { next := sc.breakOff, store := s, notices := [.scannerStarted (period s.limits)] }
  | dismissed (hphase : sc.phase = .idle) (hstopped : sc.stopped = true) :
      Turn now disk s sc { next := { sc with phase := .clearing }, store := s }
  | asked (hphase : sc.phase = .idle) (hgoes : sc.stopped = false) (hpending : sc.pending = true)
      (hfits : s.enabled = true → fits now s.limits = true) :
      Turn now disk s sc
        (wake .trigger s { sc with pending := false, deadline := now + period s.limits })
  | unanswered (hphase : sc.phase = .idle) (hgoes : sc.stopped = false)
      (hpending : sc.pending = true) (hon : s.enabled = true)
      (hfull : fits now s.limits = false) :
      Turn now disk s sc
        { next := { sc with pending := false, deadline := now + period s.limits }.breakOff,
          store := s }
  | due (hphase : sc.phase = .idle) (hgoes : sc.stopped = false) (hunasked : sc.pending = false)
      (hdue : sc.deadline ≤ now) :
      Turn now disk s sc
        (wake .timer s { sc with deadline := nextDeadline now sc.deadline (period s.limits) })
  | sweeps {cause : Wake} {sw : Sweep} {st : Step Sweep} (hphase : sc.phase = .sweeping cause sw)
      (hstep : sw.step now disk s = some st) (hgoes : st.next.report? = none) :
      Turn now disk s sc { st with next := { sc with phase := .sweeping cause st.next } }
  | swept {cause : Wake} {sw : Sweep} {st : Step Sweep} {report : Report}
      (hphase : sc.phase = .sweeping cause sw) (hstep : sw.step now disk s = some st)
      (hreport : st.next.report? = some report) :
      Turn now disk s sc
        { next := { sc with phase := .idle }, store := st.store,
          notices := st.notices ++ [.scanned cause report] }
  | cleared (hphase : sc.phase = .clearing) :
      Turn now disk s sc
        { next := { sc with phase := .ended }, store := s.dropAll,
          notices := [.scannerStopped s.mapped.length] }

theorem Scanner.step_turn {now : Nat} {disk : Disk} {s : Store} {sc : Scanner}
    {st : Step Scanner} (h : sc.step now disk s = some st) : sc.Turn now disk s st := by
  cases hphase : sc.phase with
  | starting =>
    simp only [step, hphase, Option.some.injEq, start] at h
    subst h
    split
    · rename_i hfits
      exact .started hphase hfits
    · rename_i hfull
      exact .unstarted hphase (Bool.eq_false_iff.mpr hfull)
  | idle =>
    simp only [step, hphase] at h
    split at h
    · rename_i hstopped
      cases h
      exact .dismissed hphase hstopped
    · rename_i hstopped
      have hgoes := Bool.eq_false_iff.mpr hstopped
      split at h
      · rename_i hpending
        simp only [answer, Option.some.injEq] at h
        subst h
        split
        · rename_i hbreaks
          rw [Bool.and_eq_true, Bool.not_eq_true'] at hbreaks
          exact .unanswered hphase hgoes hpending hbreaks.1 hbreaks.2
        · rename_i hanswers
          refine .asked hphase hgoes hpending fun hon => ?_
          simpa only [hon, Bool.true_and, Bool.not_eq_true', Bool.not_eq_false] using hanswers
      · rename_i hpending
        split at h
        · rename_i hdue
          cases h
          exact .due hphase hgoes (Bool.eq_false_iff.mpr hpending) hdue
        · cases h
  | sweeping cause sw =>
    simp only [step, hphase, Option.map_eq_some_iff] at h
    obtain ⟨turn, hstep, h⟩ := h
    split at h
    · rename_i report hreport
      cases h
      exact .swept hphase hstep hreport
    · rename_i hgoes
      cases h
      exact .sweeps hphase hstep hgoes
  | clearing =>
    simp only [step, hphase, Option.some.injEq] at h
    subst h
    exact .cleared hphase
  | ended =>
    simp only [step, hphase] at h
    cases h

namespace World

/-! ## The switch -/

/-- A turn in the course of turning the store on or off. -/
inductive ToggleTurn (w : World) : Bool → Toggle → Toggle → World → List Notice → Prop
  | same {on : Bool} (hfree : w.switch.held = false) (hsame : on = w.store.enabled) :
      ToggleTurn w on .waiting .done w []
  | joins {previous : ScannerId} (hfree : w.switch.held = false)
      (hoff : w.store.enabled = false) (hslot : w.switch.slot = some previous) :
      ToggleTurn w true .waiting (.joining previous)
        { w with switch := { slot := none, held := true } } []
  | on (hfree : w.switch.held = false) (hoff : w.store.enabled = false)
      (hslot : w.switch.slot = none) : ToggleTurn w true .waiting .done w.turnOn [.enabled]
  | off (hfree : w.switch.held = false) (hon : w.store.enabled = true) :
      ToggleTurn w false .waiting .done w.turnOff [.disabled]
  | joined {on : Bool} {previous : ScannerId} (hended : w.hasEnded previous = true) :
      ToggleTurn w on (.joining previous) .done w.turnOn [.enabled]

/-- A turn in the course of a shutdown. -/
inductive ShutdownTurn (w : World) : Shutdown → Shutdown → World → List Notice → Prop
  | off (hfree : w.switch.held = false) (hon : w.store.enabled = true) :
      ShutdownTurn w .waiting .taking w.turnOff [.disabled]
  | same (hfree : w.switch.held = false) (hoff : w.store.enabled = false) :
      ShutdownTurn w .waiting .taking w []
  | takes {id : ScannerId} (hfree : w.switch.held = false) (hslot : w.switch.slot = some id) :
      ShutdownTurn w .taking (.joining id) { w with switch := { w.switch with slot := none } } []
  | nobody (hfree : w.switch.held = false) (hslot : w.switch.slot = none) :
      ShutdownTurn w .taking .done w []
  | joined {id : ScannerId} (hended : w.hasEnded id = true) :
      ShutdownTurn w (.joining id) .done w []

/-- The turn in which the store's own scanner is asked for a sweep. -/
inductive ScanTurn (w : World) : ScanRequest → ScanRequest → World → Prop
  | asks {id : ScannerId} (hfree : w.switch.held = false) (hslot : w.switch.slot = some id)
      (hon : w.store.enabled = true) :
      ScanTurn w .waiting (.done (w.requestScan id).1) (w.requestScan id).2
  | refused (hfree : w.switch.held = false)
      (hnone : w.switch.slot = none ∨ w.store.enabled = false) :
      ScanTurn w .waiting (.done false) w

variable {w w' : World}

theorem stepToggle_turn {on : Bool} {phase next : Toggle} {notices : List Notice}
    (h : w.stepToggle on phase = some (next, w', notices)) :
    ToggleTurn w on phase next w' notices := by
  cases phase with
  | waiting =>
    simp only [stepToggle] at h
    split at h
    · cases h
    · rename_i hheld
      have hfree := Bool.eq_false_iff.mpr hheld
      split at h
      · rename_i hsame
        cases h
        exact .same hfree hsame
      · rename_i hother
        cases on with
        | true =>
          have hoff : w.store.enabled = false := Bool.eq_false_iff.mpr fun hon => hother hon.symm
          simp only [if_true] at h
          split at h
          · rename_i hslot
            cases h
            exact .joins hfree hoff hslot
          · rename_i hslot
            cases h
            exact .on hfree hoff hslot
        | false =>
          cases h
          exact .off hfree (Bool.eq_false_imp_eq_true.mp fun hoff => absurd hoff.symm hother)
  | joining previous =>
    simp only [stepToggle] at h
    split at h
    · rename_i hended
      cases h
      exact .joined hended
    · cases h
  | done => cases h

theorem stepShutdown_turn {phase next : Shutdown} {notices : List Notice}
    (h : w.stepShutdown phase = some (next, w', notices)) :
    ShutdownTurn w phase next w' notices := by
  cases phase with
  | waiting =>
    simp only [stepShutdown] at h
    split at h
    · cases h
    · rename_i hheld
      have hfree := Bool.eq_false_iff.mpr hheld
      split at h
      · rename_i hon
        cases h
        exact .off hfree hon
      · rename_i hon
        cases h
        exact .same hfree (Bool.eq_false_iff.mpr hon)
  | taking =>
    simp only [stepShutdown] at h
    split at h
    · cases h
    · rename_i hheld
      have hfree := Bool.eq_false_iff.mpr hheld
      split at h
      · rename_i hslot
        cases h
        exact .takes hfree hslot
      · rename_i hslot
        cases h
        exact .nobody hfree hslot
  | joining id =>
    simp only [stepShutdown] at h
    split at h
    · rename_i hended
      cases h
      exact .joined hended
    · cases h
  | done => cases h

theorem stepScan_turn {phase next : ScanRequest} (h : w.stepScan phase = some (next, w')) :
    ScanTurn w phase next w' := by
  cases phase with
  | waiting =>
    simp only [stepScan] at h
    split at h
    · cases h
    · rename_i hheld
      have hfree := Bool.eq_false_iff.mpr hheld
      split at h
      · rename_i hslot hon
        cases h
        exact .asks hfree hslot hon
      · rename_i hno
        cases h
        refine .refused hfree ?_
        cases hslot : w.switch.slot with
        | none => exact .inl rfl
        | some id => exact .inr (Bool.eq_false_iff.mpr fun hon => hno id hslot hon)
  | done queued => cases h

/-! ## Calls -/

/-- A turn of a call. -/
inductive CallTurn (w : World) (id : CallId) : Call → World → List Notice → Prop
  | lookup {path : Path} {phase : Lookup} {st : Step Lookup}
      (hstep : phase.step w.now w.disk path w.store = some st) :
      CallTurn w id (.lookup path phase)
        ({ w with store := st.store }.setCall id (.lookup path st.next)) st.notices
  | sweep {sw : Sweep} {st : Step Sweep} (hstep : sw.step w.now w.disk w.store = some st) :
      CallTurn w id (.sweep sw)
        ({ w with store := st.store }.setCall id (.sweep st.next)) st.notices
  | toggle {on : Bool} {phase next : Toggle} {v : World} {notices : List Notice}
      (hturn : ToggleTurn w on phase next v notices) :
      CallTurn w id (.toggle on phase) (v.setCall id (.toggle on next)) notices
  | shutdown {phase next : Shutdown} {v : World} {notices : List Notice}
      (hturn : ShutdownTurn w phase next v notices) :
      CallTurn w id (.shutdown phase) (v.setCall id (.shutdown next)) notices
  | scan {phase next : ScanRequest} {v : World} (hturn : ScanTurn w phase next v) :
      CallTurn w id (.scan phase) (v.setCall id (.scan next)) []
  | read {path : Path} {phase : Reading} (hgoes : ∀ result, phase ≠ .finished result) :
      CallTurn w id (.read path phase)
        (w.setCall id (.read path (phase.advance w.disk path))) []
  | stat {path : Path} :
      CallTurn w id (.stat path none)
        (w.setCall id (.stat path (some (w.disk.statPath path)))) []

theorem stepCall_turn {id : CallId} {call : Call} {notices : List Notice}
    (h : w.stepCall id call = some (w', notices)) : CallTurn w id call w' notices := by
  cases call with
  | lookup path phase =>
    simp only [stepCall, Option.map_eq_some_iff, Prod.mk.injEq] at h
    obtain ⟨st, hstep, rfl, rfl⟩ := h
    exact .lookup hstep
  | sweep sw =>
    simp only [stepCall, Option.map_eq_some_iff, Prod.mk.injEq] at h
    obtain ⟨st, hstep, rfl, rfl⟩ := h
    exact .sweep hstep
  | toggle on phase =>
    simp only [stepCall, Option.map_eq_some_iff, Prod.mk.injEq] at h
    obtain ⟨⟨next, v, more⟩, hstep, rfl, rfl⟩ := h
    exact .toggle (stepToggle_turn hstep)
  | shutdown phase =>
    simp only [stepCall, Option.map_eq_some_iff, Prod.mk.injEq] at h
    obtain ⟨⟨next, v, more⟩, hstep, rfl, rfl⟩ := h
    exact .shutdown (stepShutdown_turn hstep)
  | scan phase =>
    simp only [stepCall, Option.map_eq_some_iff, Prod.mk.injEq] at h
    obtain ⟨⟨next, v⟩, hstep, rfl, rfl⟩ := h
    exact .scan (stepScan_turn hstep)
  | read path phase =>
    simp only [stepCall] at h
    split at h
    · cases h
    · rename_i hgoes
      cases h
      exact .read hgoes
  | stat path result =>
    cases result with
    | some status => cases h
    | none =>
      cases h
      exact .stat

/-! ## Agents and events -/

/-- A turn of an agent. -/
inductive AgentTurn (w : World) : Agent → World → List Notice → Prop
  | call {id : CallId} {call : Call} {w' : World} {notices : List Notice}
      (hcall : w.calls[id]? = some call) (hturn : CallTurn w id call w' notices) :
      AgentTurn w (.call id) w' notices
  | scanner {id : ScannerId} {sc : Scanner} {st : Step Scanner}
      (hsc : w.scanners[id]? = some sc) (hstep : sc.step w.now w.disk w.store = some st) :
      AgentTurn w (.scanner id)
        { w with store := st.store, scanners := w.scanners.set id st.next } st.notices

theorem step_turn {agent : Agent} {notices : List Notice}
    (h : w.step agent = some (w', notices)) : AgentTurn w agent w' notices := by
  cases agent with
  | call id =>
    obtain ⟨call, hcall, h⟩ := Option.bind_eq_some_iff.mp h
    exact .call hcall (stepCall_turn h)
  | scanner id =>
    obtain ⟨sc, hsc, h⟩ := Option.bind_eq_some_iff.mp h
    simp only [stepScanner, Option.map_eq_some_iff, Prod.mk.injEq] at h
    obtain ⟨st, hstep, rfl, rfl⟩ := h
    exact .scanner hsc hstep

/-- An event that can happen, and what it comes to. -/
inductive Happens (w : World) : Event → World → List Notice → Prop
  | turn {agent : Agent} {w' : World} {notices : List Notice}
      (hstep : w.step agent = some (w', notices)) : Happens w (.turn agent) w' notices
  | call (ask : Ask) : Happens w (.call ask) (w.begin ask) []
  | edit {change : Edit} {disk : Disk} (hedit : w.disk.edit? change = some disk) :
      Happens w (.edit change) { w with disk } []
  | elapse {ms : Nat} (hms : w.now + ms ≤ longestUptime) :
      Happens w (.elapse ms) (w.elapse ms) []
  | spawn : Happens w .spawn (w.addScanner false) []
  | stop {id : ScannerId} (hextra : w.isExtra id = true) :
      Happens w (.stop id) (w.stopScanner id) []
  | request {id : ScannerId} (hextra : w.isExtra id = true) :
      Happens w (.request id) (w.requestScan id).2 []
  | shuffle {order : List EntryId} (hperm : order.Perm w.store.mapped) :
      Happens w (.shuffle order) { w with store := { w.store with mapped := order } } []

theorem apply_happens {event : Event} {notices : List Notice}
    (h : w.apply event = some (w', notices)) : Happens w event w' notices := by
  cases event with
  | turn agent => exact .turn h
  | call ask =>
    cases h
    exact .call ask
  | edit change =>
    obtain ⟨disk, hedit, h⟩ := Option.map_eq_some_iff.mp h
    cases h
    exact .edit hedit
  | elapse ms =>
    simp only [apply] at h
    split at h <;> cases h
    rename_i hms
    exact .elapse hms
  | spawn =>
    cases h
    exact .spawn
  | stop id =>
    simp only [apply] at h
    split at h <;> cases h
    rename_i hextra
    exact .stop hextra
  | request id =>
    simp only [apply] at h
    split at h <;> cases h
    rename_i hextra
    exact .request hextra
  | shuffle order =>
    simp only [apply] at h
    split at h <;> cases h
    rename_i hperm
    exact .shuffle (List.isPerm_iff.mp hperm)

end World
end FileCache
