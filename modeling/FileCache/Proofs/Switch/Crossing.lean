import FileCache.Proofs.Switch.Manned

/-!
Shutdowns that cross other calls at the switch.

A shutdown turns the store off, lets go of the lock, and comes back for the scanner.  If the
store is turned on in between, it takes the scanner of the new period, which nobody has told to
stop.  While it waits for a scanner the lock is free, so that the store can be turned on before
that scanner has ended.  Besides, the scanner of a store that is on breaks off when the clock cannot
hold its next deadline.  `slot_agrees_iff` says that these are the only ways in which the slot
and the on/off state come apart.
-/

namespace FileCache
namespace World

/-- A shutdown waits for a scanner that has not ended. -/
def awaitsEnd (w : World) : Bool :=
  w.calls.any fun
    | .shutdown (.joining id) => (w.scanners[id]?).any fun sc => sc.own && sc.phase ≠ .ended
    | _ => false

/-- A shutdown and another call get in each other's way. -/
def crosses (w : World) (event : Event) : Bool :=
  w.takesWhileOn event || (w.enables event && w.awaitsEnd)

/-- A scanner of a store that is on breaks off, though nobody has told it to stop. -/
def breaksOff (w : World) : Event → Bool
  | .turn (.scanner id) =>
    w.store.enabled && !Scanner.fits w.now w.store.limits &&
      (w.scanners[id]?).any fun sc => sc.own && !sc.stopped && sc.setsTimer
  | _ => false

/-- The store has started the scanner and told it to stop. -/
def Told (w : World) (id : ScannerId) : Prop :=
  ∃ sc : Scanner, w.scanners[id]? = some sc ∧ sc.own = true ∧ sc.stopped = true

/-- The slot agrees with the on/off state. -/
structure SlotAgrees (w : World) : Prop where
  slot : w.switch.held = false → w.store.enabled = true →
    ∃ id, w.switch.slot = some id ∧ w.Working id
  single : ∀ id other, w.Unended id → w.Unended other → id = other
  waits : ∀ (caller : CallId) (id : ScannerId),
    w.calls[caller]? = some (.shutdown (.joining id)) → w.Told id

variable {w w' v : World} {event : Event} {caller : CallId} {call next : Call}
  {id : ScannerId} {notices : List Notice}

theorem awaitsEnd_of_unended (hcall : w.calls[caller]? = some (.shutdown (.joining id)))
    (hid : w.Unended id) : w.awaitsEnd = true := by
  obtain ⟨sc, hsc, hown, hphase⟩ := hid
  rw [awaitsEnd, List.any_eq_true]
  refine ⟨_, List.mem_of_getElem? hcall, ?_⟩
  simp [hsc, hown, hphase]

theorem exists_of_awaitsEnd (h : w.awaitsEnd = true) : ∃ (caller : CallId) (id : ScannerId),
    w.calls[caller]? = some (.shutdown (.joining id)) ∧ w.Unended id := by
  rw [awaitsEnd, List.any_eq_true] at h
  obtain ⟨call, hmem, h⟩ := h
  obtain ⟨caller, hcall⟩ := List.getElem?_of_mem hmem
  split at h
  · rename_i id
    rw [Option.any_eq_true] at h
    obtain ⟨sc, hsc, h⟩ := h
    rw [Bool.and_eq_true, decide_eq_true_eq] at h
    exact ⟨caller, id, hcall, sc, hsc, h.1, h.2⟩
  · cases h

/-! ## Scanners at work -/

/-- The scanner of a store that is on is in the slot and at work. -/
def Answerable (w : World) : Prop :=
  w.store.enabled = true → ∃ id, w.switch.slot = some id ∧ w.Working id

/-- A scanner at work stays at work while the store is on, unless it breaks off. -/
theorem Quiet.working (h : Quiet w event w') (hon : w.store.enabled = true)
    (hlasts : w.breaksOff event = false) (hid : w.Working id) : w'.Working id := by
  obtain ⟨sc, hsc, hown, hgoes, hworks⟩ := hid
  obtain ⟨hphase, hunended⟩ := Scanner.works_iff.mp hworks
  obtain ⟨sc', hsc', honward⟩ := h.kept id sc hsc
  obtain ⟨hown', hgoes', hphase', -⟩ := honward.remains hown hgoes hphase hon
  refine ⟨sc', hsc', hown', hgoes', Scanner.works_iff.mpr ⟨hphase', fun hended => ?_⟩⟩
  cases honward with
  | rests _ _ hsame _ => exact hunended (hsame ▸ hended)
  | goes hevent hturn _ =>
    rcases hturn.ended_cases hended with ⟨hclears, -⟩ | ⟨hsets, hfull⟩
    · exact hphase hclears
    · subst hevent
      simp [breaksOff, hon, hfull, hsc, hown, hgoes, hsets] at hlasts
  | stops hextra => cases hextra.symm.trans hown

namespace Answerable

/-- A call moves on while the store and its scanners stay as they are. -/
theorem takes {switch : Switch} (hw : w.Answerable)
    (hslot : w.store.enabled = true → switch.slot = w.switch.slot) :
    ({ w with switch }.setCall caller next).Answerable := by
  intro hon
  obtain ⟨id, hin, hid⟩ := hw hon
  exact ⟨id, (hslot hon).trans hin, hid⟩

theorem turnOn (w : World) : (w.turnOn.setCall caller next).Answerable :=
  fun _ => ⟨w.scanners.length, rfl, working_turnOn w⟩

theorem turnOff (w : World) : (w.turnOff.setCall caller next).Answerable := by
  intro hon
  have hoff : w.turnOff.store.enabled = false := by rw [turnOff_store]
  cases hoff.symm.trans hon

theorem apply (hw : w.Answerable) (htakes : w.takesWhileOn event = false)
    (hlasts : w.breaksOff event = false) (h : w.apply event = some (w', notices)) :
    w'.Answerable := by
  cases apply_switchMove h with
  | quiet hquiet =>
    intro hon
    rw [hquiet.enabled] at hon
    obtain ⟨id, hslot, hid⟩ := hw hon
    exact ⟨id, hquiet.switch ▸ hslot, hquiet.working hon hlasts hid⟩
  | toggle _ _ _ _ _ _ _ _ hturn hset =>
    subst hset
    cases hturn with
    | same => exact hw.takes fun _ => rfl
    | joins _ hoff => exact hw.takes fun hon => by cases hoff.symm.trans hon
    | on => exact turnOn w
    | off => exact turnOff w
    | joined => exact turnOn w
  | shutdown _ _ _ _ _ hevent hcaller hturn hset =>
    subst hevent hset
    cases hturn with
    | off => exact turnOff w
    | same => exact hw.takes fun _ => rfl
    | takes =>
      have hoff := Manned.off_of_taking htakes hcaller
      exact hw.takes fun hon => by cases hoff.symm.trans hon
    | nobody => exact hw.takes fun _ => rfl
    | joined => exact hw.takes fun _ => rfl

end Answerable

/-! ## Scanners in hand -/

/-- Shutdowns wait for scanners that were told to stop.  One scanner at most has not ended; it
is in the slot, or somebody waits for it. -/
structure InHand (w : World) : Prop where
  waits : ∀ (caller : CallId) (id : ScannerId),
    w.calls[caller]? = some (.shutdown (.joining id)) → w.Told id
  due : ∀ id, w.Unended id → w.switch.slot = some id ∨
    ∃ (caller : CallId) (call : Call), w.calls[caller]? = some call ∧ call.joins? = some id
  single : ∀ id other, w.Unended id → w.Unended other → id = other

theorem Quiet.told (h : Quiet w event w') (hid : w.Told id) : w'.Told id := by
  obtain ⟨sc, hsc, hown, hstopped⟩ := hid
  obtain ⟨sc', hsc', honward⟩ := h.kept id sc hsc
  exact ⟨sc', hsc', honward.own.trans hown, (honward.stopped hown).trans hstopped⟩

theorem told_turnOff (hid : w.Told id) : w.turnOff.Told id := by
  obtain ⟨sc, hsc, hown, hstopped⟩ := hid
  refine ⟨_, by rw [turnOff_scanner, hsc]; rfl, ?_⟩
  split
  · exact ⟨hown, rfl⟩
  · exact ⟨hown, hstopped⟩

theorem told_turnOn (hid : w.Told id) : w.turnOn.Told id := by
  obtain ⟨sc, hsc, htold⟩ := hid
  obtain ⟨hlt, -⟩ := List.getElem?_eq_some_iff.mp hsc
  have hkept : w.turnOn.scanners[id]? = w.scanners[id]? := List.getElem?_append_left hlt
  exact ⟨sc, hkept.trans hsc, htold⟩

theorem not_unended_of_hasEnded (h : w.hasEnded id = true) : ¬ w.Unended id := by
  rintro ⟨sc, hsc, -, hphase⟩
  rw [hasEnded, hsc, Option.any_some] at h
  exact hphase (of_decide_eq_true h)

namespace InHand

theorem freshOn (disk : Disk) (limits : Limits) (wall : Time.Timestamp) :
    (freshOn disk limits wall).InHand where
  waits _ _ h := by cases h
  due _ h := by cases h.choose_spec.1
  single _ _ h := by cases h.choose_spec.1

theorem slotAgrees (hw : w.InHand) (hanswerable : w.Answerable) : w.SlotAgrees :=
  ⟨fun _ => hanswerable, hw.single, hw.waits⟩

theorem quiet (hw : w.InHand) (h : Quiet w event w') : w'.InHand := by
  constructor
  · intro c id hcall
    exact h.told (hw.waits c id ((h.calls c _ rfl).mp hcall))
  · intro id hid
    rw [h.switch]
    refine (hw.due id (h.unended hid)).imp_right ?_
    rintro ⟨c, call, hcall, hjoins⟩
    exact ⟨c, call, (h.calls c call (Call.underway_of_joins hjoins)).mpr hcall, hjoins⟩
  · exact fun id other hid hother => hw.single id other (h.unended hid) (h.unended hother)

/-- A call moves on while the store and its scanners stay as they are. -/
theorem takes {switch : Switch} (hw : w.InHand) (hcaller : w.calls[caller]? = some call)
    (hslot : ∀ id, w.switch.slot = some id → switch.slot = some id ∨ next.joins? = some id)
    (hjoins : ∀ id, call.joins? = some id → w.hasEnded id = true)
    (hnext : ∀ id, next = .shutdown (.joining id) → w.Told id) :
    ({ w with switch }.setCall caller next).InHand := by
  obtain ⟨hlt, -⟩ := List.getElem?_eq_some_iff.mp hcaller
  have hself : ({ w with switch }.setCall caller next).calls[caller]? = some next :=
    List.getElem?_set_self hlt
  constructor
  · intro other id hother
    rcases mem_set_cases hother with ⟨-, hsame⟩ | ⟨-, hold⟩
    · exact hnext id hsame.symm
    · exact hw.waits other id hold
  · intro id hid
    rcases hw.due id hid with hin | ⟨other, busy, hbusy, hwaits⟩
    · refine (hslot id hin).imp_right fun hsome => ?_
      exact ⟨caller, next, hself, hsome⟩
    · by_cases hother : other = caller
      · rw [hother, hcaller, Option.some.injEq] at hbusy
        exact absurd hid (not_unended_of_hasEnded (hjoins id (hbusy ▸ hwaits)))
      · have hne : caller ≠ other := fun he => hother he.symm
        refine .inr ⟨other, busy, ?_, hwaits⟩
        rw [setCall, List.getElem?_set_ne hne]
        exact hbusy
  · exact hw.single

/-- The store is turned on when all its scanners have ended. -/
theorem turnOn (hw : w.InHand) (hended : ∀ id, ¬ w.Unended id)
    (hnext : ∀ id, next ≠ .shutdown (.joining id)) :
    (w.turnOn.setCall caller next).InHand := by
  have hnew {id : ScannerId} (hid : w.turnOn.Unended id) : id = w.scanners.length := by
    obtain ⟨sc, hsc, hown, hphase⟩ := hid
    rcases turnOn_scanner hsc with hold | ⟨hid, -⟩
    · exact absurd ⟨sc, hold, hown, hphase⟩ (hended id)
    · exact hid
  constructor
  · intro other id hother
    rcases mem_set_cases hother with ⟨-, hsame⟩ | ⟨-, hold⟩
    · exact absurd hsame.symm (hnext id)
    · exact told_turnOn (hw.waits other id hold)
  · intro id hid
    rw [hnew hid]
    exact .inl rfl
  · intro id other hid hother
    rw [hnew hid, hnew hother]

theorem turnOff (hw : w.InHand) (hcaller : w.calls[caller]? = some call)
    (hbefore : call.joins? = none) (hnext : next.joins? = none) :
    (w.turnOff.setCall caller next).InHand := by
  have hcalls : (w.turnOff.setCall caller next).calls = w.calls.set caller next := by
    rw [setCall, (switched_turnOff w).calls]
  constructor
  · intro other id hother
    rw [hcalls] at hother
    rcases mem_set_cases hother with ⟨-, rfl⟩ | ⟨-, hold⟩
    · cases hnext
    · exact told_turnOff (hw.waits other id hold)
  · intro id hid
    show w.turnOff.switch.slot = some id ∨ _
    rw [turnOff_switch, hcalls]
    refine (hw.due id ((unended_turnOff w id).mp hid)).imp_right ?_
    rintro ⟨other, busy, hbusy, hwaits⟩
    have hne : caller ≠ other := by
      rintro rfl
      rw [hcaller, Option.some.injEq] at hbusy
      rw [← hbusy, hbefore] at hwaits
      cases hwaits
    exact ⟨other, busy, by rw [List.getElem?_set_ne hne]; exact hbusy, hwaits⟩
  · intro id other hid hother
    exact hw.single id other ((unended_turnOff w id).mp hid) ((unended_turnOff w other).mp hother)

/-- When nobody waits for a scanner that has not ended, and none is in the slot, all have
ended. -/
theorem none_unended (hw : w.InHand) (hunlocked : w.Unlocked caller)
    (hcaller : w.calls[caller]? = some call)
    (hjoins : ∀ id, call.joins? = some id → w.hasEnded id = true)
    (hslot : w.switch.slot = none) (hawaits : w.awaitsEnd = false) (id : ScannerId) :
    ¬ w.Unended id := by
  intro hid
  rcases hw.due id hid with hin | ⟨other, busy, hbusy, hwaits⟩
  · rw [hslot] at hin
    cases hin
  · by_cases hother : other = caller
    · rw [hother, hcaller, Option.some.injEq] at hbusy
      exact not_unended_of_hasEnded (hjoins id (hbusy ▸ hwaits)) hid
    · have hholds := hunlocked other busy hother hbusy
      unfold Call.joins? at hwaits
      split at hwaits
      · cases hholds
      · cases hwaits
        rw [awaitsEnd_of_unended hbusy hid] at hawaits
        cases hawaits
      · cases hwaits

theorem toggle {on : Bool} {phase after : Toggle} (hw : w.InHand) (hlocked : w.Locked)
    (hcaller : w.calls[caller]? = some (.toggle on phase))
    (hturn : ToggleTurn w on phase after v notices)
    (hawaits : w.store.enabled = false → v.store.enabled = true → w.awaitsEnd = false) :
    (v.setCall caller (.toggle on after)).InHand := by
  cases hturn with
  | same => exact hw.takes hcaller (fun _ => .inl) nofun nofun
  | joins hfree hoff hslot =>
    refine hw.takes hcaller (fun id hin => ?_) nofun nofun
    rw [hslot] at hin
    exact .inr hin
  | on hfree hoff hslot =>
    have hunlocked := hlocked.unlocked_of_free hfree caller
    exact hw.turnOn (hw.none_unended hunlocked hcaller nofun hslot (hawaits hoff rfl)) nofun
  | off => exact hw.turnOff hcaller rfl rfl
  | @joined _ previous hended =>
    obtain ⟨-, hslot, hoff⟩ := hlocked.kept caller _ hcaller rfl
    have hunlocked := hlocked.unlocked_of_holds hcaller rfl
    refine hw.turnOn (hw.none_unended hunlocked hcaller (fun id hid => ?_) hslot
      (hawaits hoff rfl)) nofun
    cases hid
    exact hended

theorem shutdown {phase after : Shutdown} (hw : w.InHand) (hlocked : w.Locked)
    (hmanned : w.Manned) (hcaller : w.calls[caller]? = some (.shutdown phase))
    (hturn : ShutdownTurn w phase after v notices)
    (htakes : phase = .taking → w.store.enabled = false) :
    (v.setCall caller (.shutdown after)).InHand := by
  cases hturn with
  | off => exact hw.turnOff hcaller rfl rfl
  | same => exact hw.takes hcaller (fun _ => .inl) nofun nofun
  | @takes id hfree hslot =>
    have hoff := htakes rfl
    refine hw.takes hcaller (fun other hin => ?_) nofun fun other hother => ?_
    · rw [hslot] at hin
      exact .inr hin
    · cases hother
      obtain ⟨sc, hsc, hown⟩ := hlocked.own id hslot
      refine ⟨sc, hsc, hown, ?_⟩
      cases hgoes : sc.stopped with
      | true => rfl
      | false => cases hoff.symm.trans (hmanned.told id sc hsc hown hgoes).1
  | nobody => exact hw.takes hcaller (fun _ => .inl) nofun nofun
  | joined hended =>
    refine hw.takes hcaller (fun _ => .inl) (fun other hother => ?_) nofun
    cases hother
    exact hended

theorem apply (hw : w.InHand) (hlocked : w.Locked) (hmanned : w.Manned)
    (hcross : w.crosses event = false) (h : w.apply event = some (w', notices)) :
    w'.InHand := by
  rw [crosses, Bool.or_eq_false_iff, Bool.and_eq_false_iff] at hcross
  obtain ⟨htakes, hawaits⟩ := hcross
  cases apply_switchMove h with
  | quiet hquiet => exact hw.quiet hquiet
  | toggle id on phase after v _ _ hcaller hturn hset =>
    subst hset
    refine hw.toggle hlocked hcaller hturn fun hoff hon => ?_
    refine hawaits.resolve_left fun hnot => ?_
    have henables : w.enables event = true := by
      rw [enables_eq h, hoff]
      exact hon
    cases hnot.symm.trans henables
  | shutdown id phase after v _ hevent hcaller hturn hset =>
    subst hevent hset
    refine hw.shutdown hlocked hmanned hcaller hturn ?_
    rintro rfl
    exact Manned.off_of_taking htakes hcaller

/-- The scanners stay in hand and the store attended, as long as shutdowns do not cross other calls
at the switch and no scanner of a store that is on breaks off. -/
theorem passed {disk : Disk} {limits : Limits} {wall : Time.Timestamp} {events : List Event}
    (hapart : ∀ u event, (u, event) ∈ (World.freshOn disk limits wall).happenings events →
      u.crosses event = false ∧ u.breaksOff event = false) :
    ∀ v ∈ (World.freshOn disk limits wall).passed events, v.InHand ∧ v.Answerable := by
  have hall : ∀ v ∈ (World.freshOn disk limits wall).passed events,
      v.Locked ∧ v.Manned ∧ v.InHand ∧ v.Answerable := by
    refine passed_induction_of
      (Q := fun u event => u.crosses event = false ∧ u.breaksOff event = false) ?_ hapart
      ⟨.freshOn disk limits wall, .freshOn disk limits wall, .freshOn disk limits wall, nofun⟩
    rintro w event w' notices ⟨hcross, hlasts⟩ ⟨hlocked, hmanned, hw, hanswerable⟩ happly
    have htakes := (Bool.or_eq_false_iff.mp hcross).1
    exact ⟨hlocked.apply happly, hmanned.apply hlocked htakes happly,
      hw.apply hlocked hmanned hcross happly, hanswerable.apply htakes hlasts happly⟩
  exact fun v hv => (hall v hv).2.2

end InHand

/-! ## Crossings -/

/-- A shutdown that takes the scanner of a store that is on leaves the slot empty. -/
theorem not_agrees_of_takesWhileOn (h : w.apply event = some (w', notices))
    (htakes : w.takesWhileOn event = true) : ¬ w'.SlotAgrees := by
  unfold takesWhileOn at htakes
  split at htakes
  · rename_i caller
    split at htakes
    · rename_i hcaller
      intro hagrees
      have hstep : w.step (.call caller) = some (w', notices) := h
      cases step_turn hstep with
      | call hcall hturn =>
        cases hcaller.symm.trans hcall
        cases hturn with
        | shutdown hturn =>
          cases hturn with
          | takes hfree =>
            obtain ⟨id, hslot, -⟩ := hagrees.slot hfree htakes
            cases hslot
          | nobody hfree hslot =>
            obtain ⟨id, hin, -⟩ := hagrees.slot hfree htakes
            cases hslot.symm.trans hin
    · cases htakes
  · cases htakes

/-- A scanner that has not ended meets the one that is started when the store is turned on. -/
theorem not_agrees_of_enables (h : w.apply event = some (w', notices))
    (henables : w.enables event = true) (hid : w.Unended id) : ¬ w'.SlotAgrees := by
  rw [enables_eq h, Bool.and_eq_true, Bool.not_eq_true'] at henables
  obtain ⟨hoff, hon⟩ := henables
  have hturnOn (hscanners : w'.scanners = w.turnOn.scanners) : ¬ w'.SlotAgrees := by
    intro hagrees
    obtain ⟨sc, hsc, hown, hphase⟩ := hid
    obtain ⟨hlt, -⟩ := List.getElem?_eq_some_iff.mp hsc
    have hold : w'.scanners[id]? = some sc := by
      rw [hscanners]
      exact (List.getElem?_append_left hlt).trans hsc
    obtain ⟨fresh, hfresh, hown', hphase'⟩ := (working_turnOn w).unended
    rw [← hscanners] at hfresh
    exact (Nat.ne_of_lt hlt) (hagrees.single id w.scanners.length ⟨sc, hold, hown, hphase⟩
      ⟨fresh, hfresh, hown', hphase'⟩)
  cases apply_switchMove h with
  | quiet hquiet => cases hoff.symm.trans (hquiet.enabled.symm.trans hon)
  | toggle _ _ _ _ _ _ _ _ hturn hset =>
    subst hset
    cases hturn with
    | same => cases hoff.symm.trans hon
    | joins => cases hoff.symm.trans hon
    | on => exact hturnOn rfl
    | off _ hon' => cases hoff.symm.trans hon'
    | joined => exact hturnOn rfl
  | shutdown _ _ _ _ _ _ _ hturn hset =>
    subst hset
    cases hturn with
    | off _ hon' => cases hoff.symm.trans hon'
    | _ => cases hoff.symm.trans hon

theorem not_agrees_of_crosses (h : w.apply event = some (w', notices))
    (hcross : w.crosses event = true) : ¬ w'.SlotAgrees := by
  rw [crosses, Bool.or_eq_true, Bool.and_eq_true] at hcross
  rcases hcross with htakes | ⟨henables, hawaits⟩
  · exact not_agrees_of_takesWhileOn h htakes
  · obtain ⟨_, id, -, hid⟩ := exists_of_awaitsEnd hawaits
    exact not_agrees_of_enables h henables hid

/-- The slot of a store that is on keeps the scanner that breaks off. -/
theorem not_agrees_of_breaksOff (hw : w.Locked) (hagrees : w.SlotAgrees)
    (h : w.apply event = some (w', notices)) (hbreaks : w.breaksOff event = true) :
    ¬ w'.SlotAgrees := by
  unfold breaksOff at hbreaks
  split at hbreaks
  · rename_i id
    simp only [Bool.and_eq_true, Bool.not_eq_true', Option.any_eq_true] at hbreaks
    obtain ⟨⟨hon, hfull⟩, sc, hsc, ⟨hown, hgoes⟩, hsets⟩ := hbreaks
    have hfree : w.switch.held = false :=
      Bool.eq_false_iff.mpr fun hheld => by cases (hw.off hheld).symm.trans hon
    have hstep : w.step (.scanner id) = some (w', notices) := h
    cases step_turn hstep with
    | @scanner _ old st hold hturn =>
      cases hsc.symm.trans hold
      have hturn := Scanner.step_turn hturn
      have hended := hturn.breaks hsets hon hfull
      have hlt := (List.getElem?_eq_some_iff.mp hsc).1
      -- the scanner in the slot is the one that breaks off, since no other has not ended
      obtain ⟨other, hslot, hother⟩ := hagrees.slot hfree hon
      have hsame := hagrees.single id other ⟨sc, hsc, hown, hturn.phase_ne_ended⟩ hother.unended
      subst hsame
      intro hagrees'
      obtain ⟨_, hslot', sc', hsc', -, -, hworks⟩ := hagrees'.slot hfree (hturn.enabled.trans hon)
      cases hslot.symm.trans hslot'
      rw [List.getElem?_set_self hlt, Option.some.injEq] at hsc'
      exact (Scanner.works_iff.mp hworks).2 (hsc' ▸ hended)
  · cases hbreaks

/-- Whatever calls work the switch at a time: throughout a run the slot of a store that is on
holds a scanner at work while the lock is free, one scanner of the store's own at most has not
ended, and shutdowns wait for scanners that were told to stop, if and only if no shutdown takes
the scanner of a store that is on, the store is never turned on while a shutdown waits for a
scanner that has not ended, and no scanner of a store that is on breaks off. -/
theorem slot_agrees_iff (disk : Disk) (limits : Limits) (wall : Time.Timestamp)
    (events : List Event) :
    (∀ v ∈ (freshOn disk limits wall).passed events, v.SlotAgrees) ↔
      ∀ u event, (u, event) ∈ (freshOn disk limits wall).happenings events →
        u.crosses event = false ∧ u.breaksOff event = false := by
  constructor
  · intro hagrees u event hmem
    obtain ⟨hu, u', notices, happly, hu'⟩ := passed_of_mem_happenings hmem
    refine ⟨Bool.eq_false_iff.mpr fun hcross => ?_, Bool.eq_false_iff.mpr fun hbreaks => ?_⟩
    · exact not_agrees_of_crosses happly hcross (hagrees u' hu')
    · exact not_agrees_of_breaksOff (Locked.passed u hu) (hagrees u hu) happly hbreaks
        (hagrees u' hu')
  · intro hapart v hv
    obtain ⟨hin, hanswerable⟩ := InHand.passed hapart v hv
    exact hin.slotAgrees hanswerable

/-- A shutdown turns the store off, and another call turns it on again before the shutdown comes
back for the scanner.  Then the store is turned off and on once more. -/
def crossed : List Event := List.flatten
  [[.call (.toggle true), .turn (.call 0), .call .shutdown, .turn (.call 1), .call (.toggle true),
      .turn (.call 2)],
    List.replicate 3 (.turn (.scanner 0)),
    [.turn (.call 2), .turn (.call 1), .call (.toggle false), .turn (.call 3),
      .call (.toggle true), .turn (.call 4)]]

/-- The store is on and its slot is empty, while a shutdown waits for a scanner that nobody has
told to stop; later on there are two scanners that have not ended. -/
theorem crossed_disagrees :
    (∃ v ∈ (freshOn Disk.empty ⟨7, 10, 1000⟩ ⟨0, 0⟩).passed crossed,
      v.switch.held = false ∧ v.store.enabled = true ∧ v.switch.slot = none ∧
      v.calls[1]? = some (.shutdown (.joining 1)) ∧ ¬ v.Told 1) ∧
    ∃ v ∈ (freshOn Disk.empty ⟨7, 10, 1000⟩ ⟨0, 0⟩).passed crossed,
      v.Unended 1 ∧ v.Unended 2 := by
  constructor
  · have hends : ((freshOn Disk.empty ⟨7, 10, 1000⟩ ⟨0, 0⟩).run (crossed.take 11)).map
        (fun r => (r.1.switch, r.1.store.enabled, r.1.calls[1]?,
          r.1.scanners[1]?.map (·.stopped))) =
        some (⟨none, false⟩, true, some (.shutdown (.joining 1)), some false) := by rfl
    obtain ⟨⟨v, notices⟩, hrun, hend⟩ := Option.map_eq_some_iff.mp hends
    simp only [Prod.mk.injEq] at hend
    obtain ⟨hswitch, hon, hcall, hgoes⟩ := hend
    refine ⟨v, mem_passed_iff.mpr ⟨11, notices, hrun⟩, ?_, hon, ?_, hcall, ?_⟩
    · rw [hswitch]
    · rw [hswitch]
    · rintro ⟨sc, hsc, -, hstopped⟩
      rw [hsc, Option.map_some, hstopped] at hgoes
      cases hgoes
  · have hends : ((freshOn Disk.empty ⟨7, 10, 1000⟩ ⟨0, 0⟩).run crossed).map
        (fun r => r.1.scanners.map fun sc => (sc.own, decide (sc.phase = .ended))) =
        some [(true, true), (true, false), (true, false)] := by decide +kernel
    obtain ⟨⟨v, notices⟩, hrun, hend⟩ := Option.map_eq_some_iff.mp hends
    have hunended {id : ScannerId}
        (hid : (v.scanners.map fun sc => (sc.own, decide (sc.phase = .ended)))[id]? =
          some (true, false)) : v.Unended id := by
      rw [List.getElem?_map] at hid
      obtain ⟨sc, hsc, hid⟩ := Option.map_eq_some_iff.mp hid
      obtain ⟨hown, hphase⟩ := Prod.mk.inj hid
      exact ⟨sc, hsc, hown, of_decide_eq_false hphase⟩
    exact ⟨v, mem_passed_of_run hrun, hunended (hend ▸ rfl), hunended (hend ▸ rfl)⟩

end World
end FileCache
