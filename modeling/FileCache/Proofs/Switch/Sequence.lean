import FileCache.Proofs.Switch.Crossing
import FileCache.Proofs.Switch.Heeding
import FileCache.Proofs.Sweep.Progress
import FileCache.Server

/-!
Worlds that are asked for one thing at a time.

At rest every call is over: whoever waits at the switch waits for the lock, the lock is kept by a
call that waits for a scanner, and that scanner was told to stop and could go on.  So as long as
nothing new happens before the world is at rest, no two calls meet at the switch, and everything
that holds of runs without such meetings holds of these.
-/

namespace FileCache

namespace Call

/-- The call has come to its end. -/
def isOver : Call → Bool
  | .lookup _ (.done _) => true
  | .sweep sw => sw.phase = .finished
  | .toggle _ .done => true
  | .shutdown .done => true
  | .scan (.done _) => true
  | .read _ (.finished _) => true
  | .stat _ (some _) => true
  | _ => false

theorem not_underway_of_isOver {call : Call} (h : call.isOver = true) :
    call.underway = false := by
  unfold isOver at h
  split at h <;> first | rfl | cases h

/-- What was asked for when the call began. -/
def ask : Call → Ask
  | .lookup path _ => .lookup path
  | .sweep _ => .sweep
  | .toggle on _ => .toggle on
  | .shutdown _ => .shutdown
  | .scan _ => .scan
  | .read path _ => .read path
  | .stat path _ => .stat path

end Call

theorem Ask.ask_call (ask : Ask) : ask.call.ask = ask := by cases ask <;> rfl

namespace World

variable {w w' v : World} {event : Event} {caller : CallId} {call next : Call}
  {id : ScannerId} {sc : Scanner} {notices : List Notice}

/-! ## The holder of the lock -/

/-- If the lock is kept, a call keeps it to wait for a scanner of the store's own. -/
structure Attached (w : World) : Prop where
  held : w.switch.held = true →
    ∃ (caller : CallId) (on : Bool) (id : ScannerId),
      w.calls[caller]? = some (.toggle on (.joining id))
  owned : ∀ (caller : CallId) (on : Bool) (id : ScannerId),
    w.calls[caller]? = some (.toggle on (.joining id)) → w.Owns id

namespace Attached

theorem freshOn (disk : Disk) (limits : Limits) (wall : Time.Timestamp) :
    (freshOn disk limits wall).Attached where
  held h := by cases h
  owned _ _ _ h := by cases h

theorem held_apply (hw : w.Attached) (h : w.apply event = some (w', notices))
    (hheld : w'.switch.held = true) :
    ∃ (caller : CallId) (on : Bool) (id : ScannerId),
      w'.calls[caller]? = some (.toggle on (.joining id)) := by
  cases apply_switchMove h with
  | quiet hquiet =>
    obtain ⟨caller, on, id, hcaller⟩ := hw.held (hquiet.switch ▸ hheld)
    exact ⟨caller, on, id, (hquiet.calls caller _ rfl).mpr hcaller⟩
  | toggle caller on phase after v _ _ hcaller hturn hset =>
    subst hset
    cases hturn with
    | same hfree => cases hfree.symm.trans hheld
    | joins hfree hoff hslot =>
      exact ⟨caller, true, _, List.getElem?_set_self (List.getElem?_eq_some_iff.mp hcaller).1⟩
    | on hfree => cases hheld
    | off hfree =>
      have hkept : w.turnOff.switch.held = true := hheld
      rw [turnOff_switch, hfree] at hkept
      cases hkept
    | joined => cases hheld
  | shutdown caller phase after v _ _ hcaller hturn hset =>
    subst hset
    cases hturn with
    | off hfree =>
      have hkept : w.turnOff.switch.held = true := hheld
      rw [turnOff_switch, hfree] at hkept
      cases hkept
    | same hfree => cases hfree.symm.trans hheld
    | takes hfree => cases hfree.symm.trans hheld
    | nobody hfree => cases hfree.symm.trans hheld
    | joined =>
      obtain ⟨other, on, id, hother⟩ := hw.held hheld
      have hne : caller ≠ other := by
        rintro rfl
        cases hcaller.symm.trans hother
      exact ⟨other, on, id, (List.getElem?_set_ne hne).trans hother⟩

theorem apply (hw : w.Attached) (hlocked : w.Locked)
    (h : w.apply event = some (w', notices)) : w'.Attached where
  held := hw.held_apply h
  owned other on id hother := by
    have howns (hid : w.Owns id) : w'.Owns id := by
      obtain ⟨sc, hsc, hown⟩ := hid
      obtain ⟨sc', hsc', hown'⟩ := apply_own h hsc
      exact ⟨sc', hsc', hown'.trans hown⟩
    refine howns ?_
    cases apply_switchMove h with
    | quiet hquiet => exact hw.owned other on id ((hquiet.calls other _ rfl).mp hother)
    | toggle caller turned phase after v _ _ hcaller hturn hset =>
      subst hset
      have hcalls : (v.setCall caller (.toggle turned after)).calls =
          w.calls.set caller (.toggle turned after) := by rw [setCall, hturn.switched.calls]
      rw [hcalls] at hother
      rcases mem_set_cases hother with ⟨-, hsame⟩ | ⟨-, hold⟩
      · cases hsame
        cases hturn with
        | joins _ _ hslot => exact hlocked.own id hslot
      · exact hw.owned other on id hold
    | shutdown caller phase after v _ _ hcaller hturn hset =>
      subst hset
      have hcalls : (v.setCall caller (.shutdown after)).calls =
          w.calls.set caller (.shutdown after) := by rw [setCall, hturn.switched.calls]
      rw [hcalls] at hother
      rcases mem_set_cases hother with ⟨-, hsame⟩ | ⟨-, hold⟩
      · cases hsame
      · exact hw.owned other on id hold

end Attached

/-! ## Rest -/

/-- At rest a scanner has ended, or it sleeps until its timer is due. -/
theorem AtRest.scanner_cases (h : w.AtRest) (hw : w.Sound) (hsc : w.scanners[id]? = some sc) :
    sc.phase = .ended ∨
      (sc.phase = .idle ∧ sc.stopped = false ∧ sc.pending = false ∧ w.now < sc.deadline) := by
  have hnone := h.step (.scanner id)
  rw [World.step, hsc, Option.bind_some, stepScanner, Option.map_eq_none_iff] at hnone
  cases hphase : sc.phase with
  | starting => simp [Scanner.step, hphase] at hnone
  | idle =>
    cases hstopped : sc.stopped with
    | true => simp [Scanner.step, hphase, hstopped] at hnone
    | false =>
      cases hpending : sc.pending with
      | true => simp [Scanner.step, hphase, hstopped, hpending] at hnone
      | false =>
        refine .inr ⟨rfl, rfl, rfl, ?_⟩
        simpa [Scanner.step, hphase, hstopped, hpending] using hnone
  | sweeping cause sw =>
    cases (h.scanner_idle hw id).symm.trans (sweep?_of_phase hsc hphase)
  | clearing => simp [Scanner.step, hphase] at hnone
  | ended => exact .inl rfl

/-- At rest a scanner that was told to stop has ended. -/
theorem AtRest.ended_of_stopped (h : w.AtRest) (hw : w.Sound) (hsc : w.scanners[id]? = some sc)
    (hstopped : sc.stopped = true) : w.hasEnded id = true := by
  rw [hasEnded, hsc, Option.any_some]
  rcases h.scanner_cases hw hsc with hended | ⟨-, hgoes, -⟩
  · exact decide_eq_true hended
  · cases hstopped.symm.trans hgoes

/-- At rest nobody keeps the lock: who does waits for a scanner that has ended by now. -/
theorem AtRest.free (h : w.AtRest) (hsound : w.Sound) (hlocked : w.Locked)
    (hattached : w.Attached) (hmanned : w.Manned) : w.switch.held = false := by
  refine Bool.eq_false_iff.mpr fun hheld => ?_
  obtain ⟨caller, on, id, hcaller⟩ := hattached.held hheld
  obtain ⟨sc, hsc, hown⟩ := hattached.owned caller on id hcaller
  have hstopped : sc.stopped = true := by
    refine Bool.not_eq_false _ ▸ fun hgoes => ?_
    obtain ⟨-, hslot⟩ := hmanned.told id sc hsc hown hgoes
    cases (hlocked.kept caller _ hcaller rfl).2.1.symm.trans hslot
  have hended := h.ended_of_stopped hsound hsc hstopped
  have hnone := h.step (.call caller)
  simp [World.step, hcaller, stepCall, stepToggle, hended] at hnone

/-- At rest every call is over. -/
theorem AtRest.call_over (h : w.AtRest) (hsound : w.Sound) (hlocked : w.Locked)
    (hattached : w.Attached) (hmanned : w.Manned) (hinHand : w.InHand)
    (hcall : w.calls[caller]? = some call) : call.isOver = true := by
  have hfree := h.free hsound hlocked hattached hmanned
  have hnone := h.step (.call caller)
  rw [World.step, hcall, Option.bind_some] at hnone
  cases call with
  | lookup path phase =>
    have hat := lookup?_eq_some_iff.mpr hcall
    obtain ⟨answer, rfl⟩ := h.lookup_done hsound hat
    rfl
  | sweep sw =>
    have hat := sweep?_call_eq_some_iff.mpr hcall
    exact decide_eq_true (h.sweep_over hsound hat)
  | toggle on phase =>
    cases phase with
    | waiting =>
      simp only [stepCall, stepToggle, hfree, Option.map_eq_none_iff] at hnone
      split at hnone
      · cases ‹false = true›
      · split at hnone
        · cases hnone
        · split at hnone
          · split at hnone <;> cases hnone
          · cases hnone
    | joining id =>
      have hheld := (hlocked.kept caller _ hcall rfl).1
      cases hfree.symm.trans hheld
    | done => rfl
  | shutdown phase =>
    cases phase with
    | waiting =>
      simp only [stepCall, stepShutdown, hfree, Option.map_eq_none_iff] at hnone
      split at hnone
      · cases ‹false = true›
      · split at hnone <;> cases hnone
    | taking =>
      simp only [stepCall, stepShutdown, hfree, Option.map_eq_none_iff] at hnone
      split at hnone
      · cases ‹false = true›
      · split at hnone <;> cases hnone
    | joining id =>
      obtain ⟨sc, hsc, -, hstopped⟩ := hinHand.waits caller id hcall
      simp [stepCall, stepShutdown, h.ended_of_stopped hsound hsc hstopped] at hnone
    | done => rfl
  | scan phase =>
    cases phase with
    | waiting =>
      simp only [stepCall, stepScan, hfree, Option.map_eq_none_iff] at hnone
      split at hnone
      · cases ‹false = true›
      · split at hnone <;> cases hnone
    | done queued => rfl
  | read path phase =>
    cases phase with
    | finished result => rfl
    | _ => cases hnone
  | stat path result =>
    cases result with
    | some status => rfl
    | none => cases hnone

/-! ## One thing at a time -/

/-- Nothing begins before the world is at rest. -/
def Patient (w : World) (event : Event) : Prop := event.isTurn = false → w.AtRest

instance (w : World) (event : Event) : Decidable (w.Patient event) :=
  inferInstanceAs (Decidable (event.isTurn = false → w.AtRest))

theorem stepCall_of_isOver (hover : call.isOver = true) : w.stepCall caller call = none := by
  unfold Call.isOver at hover
  split at hover
  · rfl
  · rename_i sw
    have hstep : sw.step w.now w.disk w.store = none :=
      Option.eq_none_iff_forall_ne_some.mpr fun st hstep =>
        Sweep.step_ne_finished hstep (of_decide_eq_true hover)
    rw [stepCall, hstep]
    rfl
  · rfl
  · rfl
  · rfl
  · rfl
  · rfl
  · cases hover

/-- In the turn of a call only that call moves, and it goes on with what was asked for. -/
theorem step_calls (h : w.step (.call caller) = some (w', notices)) :
    ∃ call next, w.calls[caller]? = some call ∧ call.isOver = false ∧
      w'.calls = w.calls.set caller next ∧ next.ask = call.ask := by
  obtain ⟨call, hcall, h⟩ := Option.bind_eq_some_iff.mp h
  have hgoes : call.isOver = false := by
    refine Bool.eq_false_iff.mpr fun hover => ?_
    rw [stepCall_of_isOver hover] at h
    cases h
  have hswitched {v : World} (hv : Switched w v) (next : Call) :
      (v.setCall caller next).calls = w.calls.set caller next := by rw [setCall, hv.calls]
  cases stepCall_turn h with
  | lookup => exact ⟨_, _, hcall, hgoes, rfl, rfl⟩
  | sweep => exact ⟨_, _, hcall, hgoes, rfl, rfl⟩
  | toggle hturn => exact ⟨_, _, hcall, hgoes, hswitched hturn.switched _, rfl⟩
  | shutdown hturn => exact ⟨_, _, hcall, hgoes, hswitched hturn.switched _, rfl⟩
  | scan hturn => exact ⟨_, _, hcall, hgoes, hswitched hturn.switched _, rfl⟩
  | read => exact ⟨_, _, hcall, hgoes, rfl, rfl⟩
  | stat => exact ⟨_, _, hcall, hgoes, rfl, rfl⟩

/-- A call goes on with what was asked for. -/
theorem settle_ask (hcall : w.calls[caller]? = some call) (turns : Nat) :
    ∃ next, (w.settle turns).1.calls[caller]? = some next ∧ next.ask = call.ask := by
  refine settle_induction (P := fun v => ∃ next, v.calls[caller]? = some next ∧
    next.ask = call.ask) ?_ ⟨call, hcall, rfl⟩ turns
  rintro v agent v' notices ⟨next, hnext, hask⟩ hstep
  cases agent with
  | scanner id =>
    cases step_turn hstep with
    | scanner => exact ⟨next, hnext, hask⟩
  | call other =>
    obtain ⟨before, after, hbefore, -, hset, hkept⟩ := step_calls hstep
    rw [hset]
    by_cases hother : other = caller
    · subst hother
      cases hnext.symm.trans hbefore
      exact ⟨after, List.getElem?_set_self (List.getElem?_eq_some_iff.mp hbefore).1,
        hkept.trans hask⟩
    · exact ⟨next, (List.getElem?_set_ne hother).trans hnext, hask⟩

/-- Every call but the last is over. -/
def Solo (w : World) : Prop :=
  ∀ (caller : CallId) (call : Call), w.calls[caller]? = some call →
    caller + 1 < w.calls.length → call.isOver = true

theorem Solo.apply (hw : w.Solo) (hpatient : w.Patient event)
    (hover : w.AtRest → ∀ (caller : CallId) (call : Call), w.calls[caller]? = some call →
      call.isOver = true)
    (h : w.apply event = some (w', notices)) : w'.Solo := by
  have hkept (hcalls : w'.calls = w.calls) : w'.Solo := by
    rw [Solo, hcalls]
    exact hw
  cases apply_happens h with
  | @turn agent _ _ hstep =>
    cases agent with
    | scanner id =>
      cases step_turn hstep with
      | scanner => exact hkept rfl
    | call caller =>
      obtain ⟨call, next, hcall, hgoes, hcalls, -⟩ := step_calls hstep
      intro other busy hbusy hlt
      rw [hcalls] at hbusy hlt
      rw [List.length_set] at hlt
      rcases mem_set_cases hbusy with ⟨rfl, -⟩ | ⟨-, hold⟩
      · cases hgoes.symm.trans (hw other call hcall hlt)
      · exact hw other busy hold hlt
  | call ask =>
    intro other busy hbusy hlt
    rw [begin, List.length_append, List.length_singleton] at hlt
    have hold : other < w.calls.length := Nat.lt_of_succ_lt_succ hlt
    rw [begin, List.getElem?_append_left hold] at hbusy
    exact hover (hpatient rfl) other busy hbusy
  | @request id => exact hkept (calls_requestScan id w)
  | _ => exact hkept rfl

/-- While every call but the last is over, nobody gets in another's way at the switch. -/
theorem Solo.apart (hw : w.Solo) (h : w.apply event = some (w', notices)) : w.Apart event := by
  intro caller hcaller call hcall other hlt hne busy hbusy hworks hunderway
  have hevent : event = .turn (.call caller) := by
    unfold Event.caller? at hcaller
    split at hcaller <;> cases hcaller
    rfl
  subst hevent
  obtain ⟨mover, next, hmover, hgoes, -⟩ := step_calls h
  have hbusyGoes : busy.isOver = false := by
    refine Bool.eq_false_iff.mpr fun hover => ?_
    cases (Call.not_underway_of_isOver hover).symm.trans hunderway
  have hlast {c : CallId} {call : Call} (hc : w.calls[c]? = some call)
      (hgoes : call.isOver = false) : c + 1 = w.calls.length := by
    refine Nat.le_antisymm (List.getElem?_eq_some_iff.mp hc).1 (Nat.le_of_not_lt fun hlt => ?_)
    cases hgoes.symm.trans (hw c call hc hlt)
  exact absurd (Nat.succ.inj ((hlast hbusy hbusyGoes).trans (hlast hmover hgoes).symm)) hne

/-- What holds of a world that was asked for one thing at a time from the beginning on. -/
structure Sequenced (w : World) : Prop where
  sound : w.Sound
  guarded : w.Guarded
  locked : w.Locked
  attached : w.Attached
  exclusive : w.Exclusive
  manned : w.Manned
  inHand : w.InHand
  solo : w.Solo

namespace Sequenced

theorem freshOn (disk : Disk) (limits : Limits) (wall : Time.Timestamp) :
    (freshOn disk limits wall).Sequenced where
  sound := .freshOn disk limits wall
  guarded := .freshOn disk limits wall
  locked := .freshOn disk limits wall
  attached := .freshOn disk limits wall
  exclusive := .freshOn disk limits wall
  manned := .freshOn disk limits wall
  inHand := .freshOn disk limits wall
  solo _ _ h := by cases h

/-- At rest every call is over. -/
theorem call_over (hw : w.Sequenced) (hrest : w.AtRest) (hcall : w.calls[caller]? = some call) :
    call.isOver = true :=
  hrest.call_over hw.sound hw.locked hw.attached hw.manned hw.inHand hcall

/-- No shutdown crosses another call at the switch. -/
theorem not_crosses (hw : w.Sequenced) (h : w.apply event = some (w', notices)) :
    w.crosses event = false := by
  rw [crosses, Bool.or_eq_false_iff, Bool.and_eq_false_iff]
  constructor
  · unfold takesWhileOn
    split
    · rename_i caller
      split
      · rename_i hcall
        exact (hw.exclusive.fits caller _ hcall).off rfl
      · rfl
    · rfl
  · refine Decidable.or_iff_not_imp_left.mpr fun henables => ?_
    rw [Bool.not_eq_false, enables_eq h, Bool.and_eq_true, Bool.not_eq_true'] at henables
    refine Bool.eq_false_iff.mpr fun hawaits => ?_
    obtain ⟨_, id, -, hid⟩ := exists_of_awaitsEnd hawaits
    exact hw.exclusive.ended_of_enabling (hw.solo.apart h) h henables.1 henables.2 id hid

theorem apply (hw : w.Sequenced) (hpatient : w.Patient event)
    (h : w.apply event = some (w', notices)) : w'.Sequenced where
  sound := hw.sound.move (apply_move h)
  guarded := hw.guarded.apply h
  locked := hw.locked.apply h
  attached := hw.attached.apply hw.locked h
  exclusive := hw.exclusive.apply (hw.solo.apart h) h
  manned := hw.manned.apply hw.locked (Bool.or_eq_false_iff.mp (hw.not_crosses h)).1 h
  inHand := hw.inHand.apply hw.locked hw.manned (hw.not_crosses h) h
  solo := hw.solo.apply hpatient (fun hrest _ _ => hw.call_over hrest) h

end Sequenced

/-- At rest a store that is off is empty, as long as the clock has time for a deadline: its scanners
were told to stop, and have ended. -/
theorem AtRest.bare (h : w.AtRest) (hw : w.Sequenced) (htime : w.HasTime)
    (hoff : w.store.enabled = false) : w.store.Bare := by
  refine hw.guarded.bare htime hoff fun id hid => ?_
  obtain ⟨sc, hsc, hown, hphase⟩ := hid
  rcases h.scanner_cases hw.sound hsc with hended | ⟨-, hgoes, -⟩
  · exact hphase hended
  · cases hoff.symm.trans (hw.manned.told id sc hsc hown hgoes).1

/-! ## Requests -/

theorem patient_of_turns {events : List Event} (hturns : ∀ event ∈ events, event.isTurn = true) :
    ∀ h ∈ w.happenings events, h.1.Patient h.2 := by
  induction events generalizing w with
  | nil => exact fun h hmem => by cases hmem
  | cons first rest ih =>
    rintro ⟨u, event⟩ hmem
    obtain ⟨w', notices, -, ⟨rfl, rfl⟩ | hlater⟩ := mem_happenings_cons.mp hmem
    · intro hbegins
      cases hbegins.symm.trans (hturns event List.mem_cons_self)
    · exact ih (fun other hother => hturns other (List.mem_cons_of_mem _ hother)) _ hlater

/-- Letting everyone run is a run made of turns. -/
theorem settle_run (w : World) (turns : Nat) :
    ∃ events, w.run events = some (w.settle turns) ∧ ∀ event ∈ events, event.isTurn = true := by
  induction turns generalizing w with
  | zero => exact ⟨[], rfl, fun _ h => by cases h⟩
  | succ turns ih =>
    rw [settle]
    cases hnext : w.next? [] with
    | none => exact ⟨[], rfl, fun _ h => by cases h⟩
    | some agent =>
      obtain ⟨⟨w', notices⟩, hstep⟩ := ready_of_next? hnext
      obtain ⟨events, hrun, hturns⟩ := ih w'
      refine ⟨.turn agent :: events, ?_, ?_⟩
      · simp only [run, World.apply, hstep, Option.bind_some, hrun, Option.map_some]
      · exact List.forall_mem_cons.mpr ⟨rfl, hturns⟩

end World

/-- Serving a request to a server at rest is a run in which nothing else begins. -/
theorem Server.handle_run {s : Server} (hrest : s.world.AtRest) (turns : Nat)
    (r : Http.Request) : ∃ events notices,
      s.world.run events = some ((s.handle turns r).2.world, notices) ∧
        ∀ h ∈ s.world.happenings events, h.1.Patient h.2 := by
  simp only [handle, follow]
  cases (Http.Plan.ofRequest r).ask? s.root with
  | none => exact ⟨[], [], rfl, fun _ h => by cases h⟩
  | some ask =>
    obtain ⟨events, hrun, hturns⟩ := (s.world.begin ask).settle_run turns
    refine ⟨.call ask :: events, ((s.world.begin ask).settle turns).2, ?_, ?_⟩
    · simp only [World.run, World.apply, Option.bind_some, hrun, Option.map_some, List.nil_append]
    · rintro ⟨u, event⟩ hmem
      obtain ⟨w', notices, happly, ⟨rfl, rfl⟩ | hlater⟩ := World.mem_happenings_cons.mp hmem
      · exact fun _ => hrest
      · cases happly
        exact World.patient_of_turns hturns _ hlater

end FileCache
