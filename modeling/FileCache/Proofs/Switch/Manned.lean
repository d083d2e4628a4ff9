import FileCache.Proofs.Switch.Periods

/-!
The lock of the switch, and the scanner of a store that is on.

Whoever waits for a scanner with the lock in hand finds the slot empty and the store off.  A
store that is on has its scanner in the slot, as long as no shutdown takes it away: between
turning the store off and coming back for the scanner, a shutdown lets go of the lock.
-/

namespace FileCache

/-- The call waits for a scanner and keeps the lock meanwhile. -/
def Call.holdsLock : Call → Bool
  | .toggle _ (.joining _) => true
  | _ => false

theorem Call.underway_of_holdsLock {call : Call} (h : call.holdsLock = true) :
    call.underway = true := by
  unfold holdsLock at h
  split at h
  · rfl
  · cases h

namespace World

/-- A shutdown comes back for the scanner while the store is on. -/
def takesWhileOn (w : World) : Event → Bool
  | .turn (.call id) =>
    match w.calls[id]? with
    | some (.shutdown .taking) => w.store.enabled
    | _ => false
  | _ => false

variable {w w' v : World} {event : Event} {caller : CallId} {call next : Call}
  {id : ScannerId} {notices : List Notice}

/-! ## The lock -/

/-- One call at most keeps the lock while it waits; meanwhile the slot is empty and the store
is off.  The slot only ever holds scanners that the store has started. -/
structure Locked (w : World) : Prop where
  off : w.switch.held = true → w.store.enabled = false
  kept : ∀ (caller : CallId) (call : Call), w.calls[caller]? = some call →
    call.holdsLock = true →
    w.switch.held = true ∧ w.switch.slot = none ∧ w.store.enabled = false
  one : ∀ (caller other : CallId) (call busy : Call), w.calls[caller]? = some call →
    w.calls[other]? = some busy → call.holdsLock = true → busy.holdsLock = true →
    caller = other
  own : ∀ id, w.switch.slot = some id → w.Owns id

/-- Nobody but the caller keeps the lock. -/
def Unlocked (w : World) (caller : CallId) : Prop :=
  ∀ (other : CallId) (busy : Call), other ≠ caller → w.calls[other]? = some busy →
    busy.holdsLock = false

theorem Quiet.owns_kept (h : Quiet w event w') (hid : w.Owns id) : w'.Owns id := by
  obtain ⟨sc, hsc, hown⟩ := hid
  obtain ⟨sc', hsc', honward⟩ := h.kept id sc hsc
  exact ⟨sc', hsc', honward.own.trans hown⟩

namespace Locked

theorem freshOn (disk : Disk) (limits : Limits) (wall : Time.Timestamp) :
    (freshOn disk limits wall).Locked where
  off h := by cases h
  kept _ _ h := by cases h
  one _ _ _ _ h := by cases h
  own _ h := by cases h

theorem unlocked_of_free (hw : w.Locked) (hfree : w.switch.held = false) (caller : CallId) :
    w.Unlocked caller := by
  intro other busy _ hbusy
  refine Bool.eq_false_iff.mpr fun hholds => ?_
  have hheld := (hw.kept other busy hbusy hholds).1
  rw [hfree] at hheld
  cases hheld

theorem unlocked_of_holds (hw : w.Locked) (hcaller : w.calls[caller]? = some call)
    (hholds : call.holdsLock = true) : w.Unlocked caller := by
  intro other busy hne hbusy
  refine Bool.eq_false_iff.mpr fun hbusy' => hne ?_
  exact hw.one other caller busy call hbusy hcaller hbusy' hholds

/-- The switch stays as it is, and so do the calls that keep the lock. -/
theorem of_same (hw : w.Locked) (hswitch : w'.switch = w.switch)
    (henabled : w'.store.enabled = w.store.enabled)
    (hcalls : ∀ (caller : CallId) (call : Call), call.holdsLock = true →
      w'.calls[caller]? = some call → w.calls[caller]? = some call)
    (howns : ∀ id, w.Owns id → w'.Owns id) : w'.Locked where
  off hheld := by
    rw [hswitch] at hheld
    rw [henabled]
    exact hw.off hheld
  kept c call hcall hholds := by
    rw [hswitch, henabled]
    exact hw.kept c call (hcalls c call hholds hcall) hholds
  one c d call busy hcall hbusy hholds hbusy' :=
    hw.one c d call busy (hcalls c call hholds hcall) (hcalls d busy hbusy' hbusy) hholds hbusy'
  own id hslot := howns id (hw.own id (hswitch ▸ hslot))

/-- After the turn of a call while nobody else keeps the lock. -/
theorem of_turn (hunlocked : w.Unlocked caller) (hcalls : w'.calls = w.calls.set caller next)
    (hoff : w'.switch.held = true → w'.store.enabled = false)
    (hnext : next.holdsLock = true →
      w'.switch.held = true ∧ w'.switch.slot = none ∧ w'.store.enabled = false)
    (hown : ∀ id, w'.switch.slot = some id → w'.Owns id) : w'.Locked := by
  have honly {other : CallId} {busy : Call} (hbusy : w'.calls[other]? = some busy)
      (hholds : busy.holdsLock = true) : other = caller ∧ busy = next := by
    rw [hcalls] at hbusy
    rcases mem_set_cases hbusy with hcaller | ⟨hne, hold⟩
    · exact hcaller
    · rw [hunlocked other busy hne hold] at hholds
      cases hholds
  refine ⟨hoff, ?_, ?_, hown⟩
  · intro other busy hbusy hholds
    exact hnext ((honly hbusy hholds).2 ▸ hholds)
  · intro c d call busy hcall hbusy hholds hbusy'
    rw [(honly hcall hholds).1, (honly hbusy hbusy').1]

theorem owns_turnOn (w : World) (hslot : w.turnOn.switch.slot = some id) : w.turnOn.Owns id := by
  cases hslot
  exact (working_turnOn w).unended.owns

theorem turnOn (hunlocked : w.Unlocked caller) (hnext : next.holdsLock = false) :
    (w.turnOn.setCall caller next).Locked := by
  refine of_turn hunlocked rfl nofun (fun h => ?_) fun id hslot => owns_turnOn w hslot
  rw [hnext] at h
  cases h

theorem turnOff (hw : w.Locked) (hunlocked : w.Unlocked caller)
    (hnext : next.holdsLock = false) : (w.turnOff.setCall caller next).Locked := by
  have hcalls : (w.turnOff.setCall caller next).calls = w.calls.set caller next := by
    rw [setCall, (switched_turnOff w).calls]
  refine of_turn hunlocked hcalls (fun _ => ?_) (fun h => ?_) fun id hslot => ?_
  · rw [setCall, turnOff_store]
  · rw [hnext] at h
    cases h
  · rw [setCall, turnOff_switch] at hslot
    exact (owns_turnOff w id).mpr (hw.own id hslot)

/-- The calls and the switch change while the store and its scanners stay as they are. -/
theorem takes {switch : Switch} (hw : w.Locked) (hunlocked : w.Unlocked caller)
    (hoff : switch.held = true → w.store.enabled = false)
    (hslot : ∀ id, switch.slot = some id → w.switch.slot = some id)
    (hnext : next.holdsLock = true →
      switch.held = true ∧ switch.slot = none ∧ w.store.enabled = false) :
    ({ w with switch }.setCall caller next).Locked :=
  of_turn hunlocked rfl hoff hnext fun id h => hw.own id (hslot id h)

theorem toggle {on : Bool} {phase after : Toggle} (hw : w.Locked)
    (hcaller : w.calls[caller]? = some (.toggle on phase))
    (hturn : ToggleTurn w on phase after v notices) :
    (v.setCall caller (.toggle on after)).Locked := by
  cases hturn with
  | same hfree => exact hw.takes (hw.unlocked_of_free hfree caller) hw.off (fun _ h => h) nofun
  | joins hfree hoff =>
    exact hw.takes (hw.unlocked_of_free hfree caller) (fun _ => hoff) nofun fun _ =>
      ⟨rfl, rfl, hoff⟩
  | on hfree => exact turnOn (hw.unlocked_of_free hfree caller) rfl
  | off hfree => exact hw.turnOff (hw.unlocked_of_free hfree caller) rfl
  | joined => exact turnOn (hw.unlocked_of_holds hcaller rfl) rfl

theorem shutdown {phase after : Shutdown} (hw : w.Locked)
    (hturn : ShutdownTurn w phase after v notices) :
    (v.setCall caller (.shutdown after)).Locked := by
  cases hturn with
  | off hfree => exact hw.turnOff (hw.unlocked_of_free hfree caller) rfl
  | same hfree => exact hw.takes (hw.unlocked_of_free hfree caller) hw.off (fun _ h => h) nofun
  | takes hfree => exact hw.takes (hw.unlocked_of_free hfree caller) hw.off nofun nofun
  | nobody hfree => exact hw.takes (hw.unlocked_of_free hfree caller) hw.off (fun _ h => h) nofun
  | joined =>
    -- the lock may be kept by another call meanwhile
    refine hw.of_same rfl rfl (fun c call hholds hcall => ?_) fun _ h => h
    rcases mem_set_cases hcall with ⟨-, rfl⟩ | ⟨-, hold⟩
    · cases hholds
    · exact hold

theorem apply (hw : w.Locked) (h : w.apply event = some (w', notices)) : w'.Locked := by
  cases apply_switchMove h with
  | quiet hquiet =>
    refine hw.of_same hquiet.switch hquiet.enabled (fun c call hholds hcall => ?_)
      fun _ => hquiet.owns_kept
    exact (hquiet.calls c call (Call.underway_of_holdsLock hholds)).mp hcall
  | toggle _ _ _ _ _ _ _ hcaller hturn hset => exact hset ▸ hw.toggle hcaller hturn
  | shutdown _ _ _ _ _ _ _ hturn hset => exact hset ▸ hw.shutdown hturn

theorem passed {disk : Disk} {limits : Limits} {wall : Time.Timestamp} {events : List Event} :
    ∀ v ∈ (World.freshOn disk limits wall).passed events, v.Locked :=
  passed_induction (fun _ _ _ _ hw happly => hw.apply happly) (.freshOn disk limits wall)

end Locked

/-! ## The scanner of a store that is on -/

/-- The scanner that a store that is on has posted is in the slot.  All others were told to stop. -/
structure Manned (w : World) : Prop where
  on : w.store.enabled = true → ∃ id, w.switch.slot = some id ∧ w.Posted id
  told : ∀ id sc, w.scanners[id]? = some sc → sc.own = true → sc.stopped = false →
    w.store.enabled = true ∧ w.switch.slot = some id

theorem Onward.stopped {sc sc' : Scanner} (h : Onward w event w' id sc sc')
    (hown : sc.own = true) : sc'.stopped = sc.stopped := by
  cases h with
  | rests _ hstopped => exact hstopped
  | goes _ hturn _ => exact hturn.stopped
  | stops hextra => cases hextra.symm.trans hown

namespace Manned

theorem freshOn (disk : Disk) (limits : Limits) (wall : Time.Timestamp) :
    (freshOn disk limits wall).Manned where
  on h := by cases h
  told _ _ h := by cases h

theorem quiet (hw : w.Manned) (htime : w'.HasTime → w.HasTime) (h : Quiet w event w') :
    w'.Manned := by
  constructor
  · intro hon
    rw [h.enabled] at hon
    obtain ⟨id, hslot, hid⟩ := hw.on hon
    exact ⟨id, h.switch ▸ hslot, h.posted htime hon hid⟩
  · intro id sc' hsc' hown hgoes
    rw [h.enabled, h.switch]
    rcases h.scanners id sc' hsc' with rfl | ⟨sc, hsc, honward⟩
    · cases hown
    · have hown' := honward.own.symm.trans hown
      exact hw.told id sc hsc hown' ((honward.stopped hown').symm.trans hgoes)

/-- The store and its scanners stay as they are, and so does the slot of a store that is on. -/
theorem takes {switch : Switch} (hw : w.Manned)
    (hslot : w.store.enabled = true → switch.slot = w.switch.slot) :
    ({ w with switch }.setCall caller next).Manned := by
  constructor
  · intro hon
    obtain ⟨id, hin, hid⟩ := hw.on hon
    exact ⟨id, (hslot hon).trans hin, hid⟩
  · intro id sc hsc hown hgoes
    obtain ⟨hon, hin⟩ := hw.told id sc hsc hown hgoes
    exact ⟨hon, (hslot hon).trans hin⟩

theorem turnOn (hw : w.Manned) (hoff : w.store.enabled = false) :
    (w.turnOn.setCall caller next).Manned := by
  constructor
  · exact fun _ => ⟨w.scanners.length, rfl, (working_turnOn w).posted⟩
  · intro id sc hsc hown hgoes
    rcases turnOn_scanner hsc with hold | ⟨rfl, -⟩
    · cases hoff.symm.trans (hw.told id sc hold hown hgoes).1
    · exact ⟨rfl, rfl⟩

theorem turnOff (hw : w.Manned) : (w.turnOff.setCall caller next).Manned := by
  constructor
  · intro hon
    have hoff : w.turnOff.store.enabled = false := by rw [turnOff_store]
    cases hoff.symm.trans hon
  · intro id sc hsc hown hgoes
    have hsc : w.turnOff.scanners[id]? = some sc := hsc
    rw [turnOff_scanner] at hsc
    obtain ⟨old, hold, rfl⟩ := Option.map_eq_some_iff.mp hsc
    split at hgoes
    · cases hgoes
    · rename_i hnot
      rw [if_neg hnot] at hown
      exact absurd (hw.told id old hold hown hgoes).2 hnot

theorem toggle {on : Bool} {phase after : Toggle} (hw : w.Manned) (hlocked : w.Locked)
    (hcaller : w.calls[caller]? = some (.toggle on phase))
    (hturn : ToggleTurn w on phase after v notices) :
    (v.setCall caller (.toggle on after)).Manned := by
  cases hturn with
  | same => exact hw.takes fun _ => rfl
  | joins _ hoff =>
    refine hw.takes fun hon => ?_
    cases hoff.symm.trans hon
  | on _ hoff => exact hw.turnOn hoff
  | off => exact hw.turnOff
  | joined => exact hw.turnOn (hlocked.kept caller _ hcaller rfl).2.2

theorem shutdown {phase after : Shutdown} (hw : w.Manned)
    (hturn : ShutdownTurn w phase after v notices)
    (htakes : phase = .taking → w.store.enabled = false) :
    (v.setCall caller (.shutdown after)).Manned := by
  cases hturn with
  | off => exact hw.turnOff
  | same => exact hw.takes fun _ => rfl
  | takes =>
    refine hw.takes fun hon => ?_
    cases (htakes rfl).symm.trans hon
  | nobody => exact hw.takes fun _ => rfl
  | joined => exact hw.takes fun _ => rfl

theorem off_of_taking (htakes : w.takesWhileOn (.turn (.call caller)) = false)
    (hcaller : w.calls[caller]? = some (.shutdown .taking)) : w.store.enabled = false := by
  simpa only [takesWhileOn, hcaller] using htakes

theorem apply (hw : w.Manned) (hlocked : w.Locked) (htakes : w.takesWhileOn event = false)
    (h : w.apply event = some (w', notices)) : w'.Manned := by
  cases apply_switchMove h with
  | quiet hquiet => exact hw.quiet (fun htime => htime.before h) hquiet
  | toggle _ _ _ _ _ _ _ hcaller hturn hset => exact hset ▸ hw.toggle hlocked hcaller hturn
  | shutdown caller _ _ _ _ hevent hcaller hturn hset =>
    subst hevent hset
    refine hw.shutdown hturn ?_
    rintro rfl
    exact off_of_taking htakes hcaller

/-- A store that is on keeps its scanner in the slot and at work, as long as no shutdown takes
the scanner of a store that is on. -/
theorem passed {disk : Disk} {limits : Limits} {wall : Time.Timestamp} {events : List Event}
    (htakes : ∀ u event, (u, event) ∈ (World.freshOn disk limits wall).happenings events →
      u.takesWhileOn event = false) :
    ∀ v ∈ (World.freshOn disk limits wall).passed events, v.Manned := by
  have hboth : ∀ v ∈ (World.freshOn disk limits wall).passed events, v.Locked ∧ v.Manned := by
    refine passed_induction_of (Q := fun u event => u.takesWhileOn event = false) ?_ htakes
      ⟨.freshOn disk limits wall, .freshOn disk limits wall⟩
    rintro w event w' notices htakes ⟨hlocked, hw⟩ happly
    exact ⟨hlocked.apply happly, hw.apply hlocked htakes happly⟩
  exact fun v hv => (hboth v hv).2

/-- A scanner of the store's own that was not told to stop is the one that a store that is on has
posted. -/
theorem posted_of_unstopped (hw : w.Manned) {sc : Scanner} (hsc : w.scanners[id]? = some sc)
    (hown : sc.own = true) (hgoes : sc.stopped = false) :
    w.store.enabled = true ∧ sc.phase ≠ .clearing ∧ (w.HasTime → sc.phase ≠ .ended) := by
  obtain ⟨hon, hslot⟩ := hw.told id sc hsc hown hgoes
  obtain ⟨other, hother, sc', hsc', -, -, hposted⟩ := hw.on hon
  cases hslot.symm.trans hother
  cases hsc.symm.trans hsc'
  exact ⟨hon, hposted⟩

end Manned

/-- The clock has time for a deadline, so that the scanner of a store that is on is at work. -/
structure Staffed (w : World) : Prop extends Manned w where
  time : w.HasTime

namespace Staffed

theorem passed {disk : Disk} {limits : Limits} {wall : Time.Timestamp} {events : List Event}
    (hrun : (World.freshOn disk limits wall).run events = some (v, notices)) (htime : v.HasTime)
    (htakes : ∀ u event, (u, event) ∈ (World.freshOn disk limits wall).happenings events →
      u.takesWhileOn event = false) :
    ∀ x ∈ (World.freshOn disk limits wall).passed events, x.Staffed :=
  fun x hx => ⟨Manned.passed htakes x hx, htime.passed hrun x hx⟩

theorem working (hw : w.Staffed) (hon : w.store.enabled = true) :
    ∃ id, w.switch.slot = some id ∧ w.Working id := by
  obtain ⟨id, hslot, hid⟩ := hw.on hon
  exact ⟨id, hslot, hid.working hw.time⟩

/-- The scanner of a store that is on was not told to stop, and only that one was not. -/
theorem working_of_unstopped (hw : w.Staffed) {sc : Scanner} (hsc : w.scanners[id]? = some sc)
    (hown : sc.own = true) (hgoes : sc.stopped = false) :
    w.store.enabled = true ∧ sc.works = true := by
  obtain ⟨hon, hphase, hlasts⟩ := hw.posted_of_unstopped hsc hown hgoes
  exact ⟨hon, Scanner.works_iff.mpr ⟨hphase, hlasts hw.time⟩⟩

end Staffed

end World
end FileCache
