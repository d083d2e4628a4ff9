import FileCache.Proofs.Switch.Move

/-!
Who works the switch, and which scanner is still to end.

A call that turns the store on waits for the scanner of the period before, and takes it out
of the slot while it waits; so does a call that shuts the store down.  As long as shutdowns
keep apart from other calls at the switch, at most one scanner of the store's own has not
ended: it is in the slot, or a call is waiting for it.
-/

namespace FileCache

namespace Call

/-- The scanner that a call is waiting for. -/
def joins? : Call → Option ScannerId
  | .toggle _ (.joining id) => some id
  | .shutdown (.joining id) => some id
  | _ => none

def worksSwitch : Call → Bool
  | .toggle _ _ => true
  | .shutdown _ => true
  | _ => false

def isShutdown : Call → Bool
  | .shutdown _ => true
  | _ => false

/-- Of a call that takes a turn at the switch and another that is underway there, neither is
a shutdown. -/
def Apart (call busy : Call) : Prop :=
  call.worksSwitch = true → busy.underway = true →
    call.isShutdown = false ∧ busy.isShutdown = false

instance (call busy : Call) : Decidable (call.Apart busy) :=
  inferInstanceAs (Decidable (call.worksSwitch = true → busy.underway = true →
    call.isShutdown = false ∧ busy.isShutdown = false))

theorem underway_of_joins {call : Call} {id : ScannerId} (h : call.joins? = some id) :
    call.underway = true := by
  unfold joins? at h
  split at h
  · rfl
  · rfl
  · cases h

end Call

namespace World

def Event.caller? : Event → Option CallId
  | .turn (.call id) => some id
  | _ => none

/-- No shutdown gets in the way of another call at the switch, nor another call in the way of
a shutdown. -/
def Apart (w : World) (event : Event) : Prop :=
  ∀ id ∈ event.caller?, ∀ call ∈ w.calls[id]?, ∀ other < w.calls.length, other ≠ id →
    ∀ busy ∈ w.calls[other]?, call.Apart busy

instance (w : World) (event : Event) : Decidable (w.Apart event) :=
  inferInstanceAs (Decidable (∀ id ∈ event.caller?, ∀ call ∈ w.calls[id]?,
    ∀ other < w.calls.length, other ≠ id → ∀ busy ∈ w.calls[other]?, call.Apart busy))

/-- Where a call stands fits the switch. -/
structure Fits (w : World) (call : Call) : Prop where
  /-- While a call is underway the store is off. -/
  off : call.underway = true → w.store.enabled = false
  vacant : call.joins? ≠ none → w.switch.slot = none
  held : ∀ on id, call = .toggle on (.joining id) → w.switch.held = true

/-- At most one call is underway at the switch, and at most one scanner of the store's own,
the last that was started, has not ended. -/
structure Exclusive (w : World) : Prop where
  /-- A scanner that has not ended is in the slot, or a call is waiting for it. -/
  due : ∀ id, w.Unended id → w.switch.slot = some id ∨
    ∃ (caller : CallId) (call : Call), w.calls[caller]? = some call ∧ call.joins? = some id
  last : ∀ id other, w.Unended id → w.Owns other → other ≤ id
  single : ∀ (caller other : CallId) (call busy : Call), w.calls[caller]? = some call →
    w.calls[other]? = some busy → call.underway = true → busy.underway = true → caller = other
  fits : ∀ (caller : CallId) (call : Call), w.calls[caller]? = some call → w.Fits call
  on : w.store.enabled = true → ∃ id, w.switch.slot = some id ∧ w.Posted id

/-- Nobody but the caller is underway at the switch. -/
def Alone (w : World) (caller : CallId) : Prop :=
  ∀ (other : CallId) (call : Call), other ≠ caller → w.calls[other]? = some call →
    call.underway = false

variable {w w' v : World} {event : Event} {caller : CallId} {call : Call}

/-- A call that is not underway fits the switch anyhow. -/
theorem Fits.of_idle (h : call.underway = false) : w.Fits call where
  off hunderway := by cases h.symm.trans hunderway
  vacant hsome := by
    obtain ⟨id, hjoins⟩ := Option.ne_none_iff_exists'.mp hsome
    cases h.symm.trans (Call.underway_of_joins hjoins)
  held on id hcall := by
    subst hcall
    cases h

theorem Fits.of_same (hfits : w.Fits call) (hswitch : w'.switch = w.switch)
    (henabled : w'.store.enabled = w.store.enabled) : w'.Fits call where
  off := by rw [henabled]; exact hfits.off
  vacant := by rw [hswitch]; exact hfits.vacant
  held := by rw [hswitch]; exact hfits.held

namespace Exclusive

theorem freshOn (disk : Disk) (limits : Limits) (wall : Time.Timestamp) :
    (freshOn disk limits wall).Exclusive where
  due _ h := by cases h.choose_spec.1
  last _ _ h := by cases h.choose_spec.1
  single _ _ _ _ h := by cases h
  fits _ _ h := by cases h
  on h := by cases h

theorem quiet (hw : w.Exclusive) (htime : w'.HasTime → w.HasTime) (h : Quiet w event w') :
    w'.Exclusive := by
  have hcalls {id : CallId} {call : Call} (hunderway : call.underway = true) :
      w'.calls[id]? = some call ↔ w.calls[id]? = some call := h.calls id call hunderway
  constructor
  · intro id hid
    rw [h.switch]
    refine (hw.due id (h.unended hid)).imp_right ?_
    rintro ⟨caller, call, hcall, hjoins⟩
    exact ⟨caller, call, (hcalls (Call.underway_of_joins hjoins)).mpr hcall, hjoins⟩
  · exact fun id other hid hother => hw.last id other (h.unended hid) (h.owns hother)
  · intro c d call busy hcall hbusy hunderway hunderway'
    exact hw.single c d call busy ((hcalls hunderway).mp hcall) ((hcalls hunderway').mp hbusy)
      hunderway hunderway'
  · intro c call hcall
    cases hunderway : call.underway with
    | false => exact .of_idle hunderway
    | true =>
      have hfits := hw.fits c call ((hcalls hunderway).mp hcall)
      exact hfits.of_same h.switch h.enabled
  · intro hon
    rw [h.enabled] at hon
    obtain ⟨id, hslot, hid⟩ := hw.on hon
    exact ⟨id, h.switch ▸ hslot, h.posted htime hon hid⟩

end Exclusive

/-! ## Turns at the switch -/

theorem mem_set_cases {next : Call} {other : CallId}
    (hcall : (w.calls.set caller next)[other]? = some call) :
    (other = caller ∧ call = next) ∨ (other ≠ caller ∧ w.calls[other]? = some call) := by
  rw [List.getElem?_set] at hcall
  split at hcall
  · rename_i hid
    split at hcall
    · exact .inl ⟨hid.symm, (Option.some.inj hcall).symm⟩
    · cases hcall
  · rename_i hid
    exact .inr ⟨fun he => hid he.symm, hcall⟩

/-- After a turn at the switch while nobody else is underway there, all depends on where the
caller stands. -/
theorem Exclusive.of_alone (next : Call) (halone : w.Alone caller)
    (hcaller : w.calls[caller]? = some call) (hcalls : w'.calls = w.calls.set caller next)
    (hdue : ∀ id, w'.Unended id → w'.switch.slot = some id ∨ next.joins? = some id)
    (hlast : ∀ id other, w'.Unended id → w'.Owns other → other ≤ id)
    (hfits : w'.Fits next)
    (hon : w'.store.enabled = true → ∃ id, w'.switch.slot = some id ∧ w'.Posted id) :
    w'.Exclusive := by
  -- whoever is underway is the caller
  have honly {other : CallId} {busy : Call} (hbusy : w'.calls[other]? = some busy)
      (hunderway : busy.underway = true) : other = caller ∧ busy = next := by
    rw [hcalls] at hbusy
    rcases mem_set_cases hbusy with hcaller | ⟨hother, hold⟩
    · exact hcaller
    · rw [halone other busy hother hold] at hunderway
      cases hunderway
  constructor
  · intro id hid
    refine (hdue id hid).imp_right fun hjoins => ⟨caller, next, ?_, hjoins⟩
    obtain ⟨hlt, -⟩ := List.getElem?_eq_some_iff.mp hcaller
    rw [hcalls, List.getElem?_set_self hlt]
  · exact hlast
  · intro c d first second hfirst hsecond hunderway hunderway'
    rw [(honly hfirst hunderway).1, (honly hsecond hunderway').1]
  · intro c busy hbusy
    cases hunderway : busy.underway with
    | false => exact .of_idle hunderway
    | true => exact (honly hbusy hunderway).2 ▸ hfits
  · exact hon

namespace Exclusive

/-- One that is underway itself is alone. -/
theorem alone_of_underway (hw : w.Exclusive) (hcall : w.calls[caller]? = some call)
    (hunderway : call.underway = true) : w.Alone caller := by
  intro other busy hne hbusy
  refine Bool.eq_false_iff.mpr fun hbusy' => hne ?_
  exact hw.single other caller busy call hbusy hcall hbusy' hunderway

/-- One that shuts the store down is alone, since nobody gets in its way. -/
theorem alone_of_shutdown {phase : Shutdown} (hapart : w.Apart (.turn (.call caller)))
    (hcall : w.calls[caller]? = some (.shutdown phase)) : w.Alone caller := by
  intro other busy hne hbusy
  refine Bool.eq_false_iff.mpr fun hunderway => ?_
  have hlt := (List.getElem?_eq_some_iff.mp hbusy).1
  have hclash := (hapart caller rfl _ hcall other hlt hne busy hbusy rfl hunderway).1
  cases hclash

/-- One that turns the store on or off is alone when the lock is free. -/
theorem alone_of_free {on : Bool} {phase : Toggle} (hw : w.Exclusive)
    (hapart : w.Apart (.turn (.call caller)))
    (hcall : w.calls[caller]? = some (.toggle on phase)) (hfree : w.switch.held = false) :
    w.Alone caller := by
  intro other busy hne hbusy
  refine Bool.eq_false_iff.mpr fun hunderway => ?_
  have hlt := (List.getElem?_eq_some_iff.mp hbusy).1
  have hclash := (hapart caller rfl _ hcall other hlt hne busy hbusy rfl hunderway).2
  unfold Call.underway at hunderway
  split at hunderway
  · rw [(hw.fits other _ hbusy).held _ _ rfl] at hfree
    cases hfree
  · cases hclash
  · cases hclash
  · cases hunderway

/-- A scanner that has not ended is in the slot, if the caller is not waiting for it. -/
theorem in_slot (hw : w.Exclusive) (halone : w.Alone caller)
    (hcaller : w.calls[caller]? = some call)
    (hjoins : ∀ id, call.joins? = some id → w.hasEnded id = true) {id : ScannerId}
    (hid : w.Unended id) : w.switch.slot = some id := by
  rcases hw.due id hid with hslot | ⟨other, busy, hbusy, hwaits⟩
  · exact hslot
  · by_cases hother : other = caller
    · rw [hother, hcaller, Option.some.injEq] at hbusy
      have hended := hjoins id (hbusy ▸ hwaits)
      obtain ⟨sc, hsc, -, hphase⟩ := hid
      rw [hasEnded, hsc, Option.any_some] at hended
      exact absurd (of_decide_eq_true hended) hphase
    · have hidle := halone other busy hother hbusy
      rw [Call.underway_of_joins hwaits] at hidle
      cases hidle

theorem none_unended (hw : w.Exclusive) (halone : w.Alone caller)
    (hcaller : w.calls[caller]? = some call)
    (hjoins : ∀ id, call.joins? = some id → w.hasEnded id = true)
    (hslot : w.switch.slot = none) (id : ScannerId) : ¬ w.Unended id := by
  intro hid
  have hin := hw.in_slot halone hcaller hjoins hid
  rw [hslot] at hin
  cases hin

/-- When a call turns the store on, all the scanners that were started before have ended. -/
theorem none_unended_of_toggle {on : Bool} {phase next : Toggle} {notices : List Notice}
    (hw : w.Exclusive) (hapart : w.Apart (.turn (.call caller)))
    (hcaller : w.calls[caller]? = some (.toggle on phase))
    (hturn : ToggleTurn w on phase next v notices) (hoff : w.store.enabled = false)
    (hon : v.store.enabled = true) (id : ScannerId) : ¬ w.Unended id := by
  cases hturn with
  | same => cases hoff.symm.trans hon
  | joins => cases hoff.symm.trans hon
  | on hfree _ hslot =>
    have halone := hw.alone_of_free hapart hcaller hfree
    exact hw.none_unended halone hcaller nofun hslot id
  | off _ hon' => cases hoff.symm.trans hon'
  | @joined _ previous hended =>
    have halone := hw.alone_of_underway hcaller rfl
    have hslot := (hw.fits caller _ hcaller).vacant nofun
    refine hw.none_unended halone hcaller (fun other hother => ?_) hslot id
    cases hother
    exact hended

theorem turnOn {next : Call} (halone : w.Alone caller)
    (hcaller : w.calls[caller]? = some call) (hended : ∀ id, ¬ w.Unended id)
    (hnext : next.underway = false) : (w.turnOn.setCall caller next).Exclusive := by
  -- of the scanners only the new one has not ended
  have hnew {id : ScannerId} (hid : w.turnOn.Unended id) : id = w.scanners.length := by
    obtain ⟨sc, hsc, hown, hphase⟩ := hid
    rcases turnOn_scanner hsc with hold | ⟨hid, -⟩
    · exact absurd ⟨sc, hold, hown, hphase⟩ (hended id)
    · exact hid
  refine .of_alone next halone hcaller rfl ?_ ?_ (.of_idle hnext) ?_
  · intro id hid
    rw [hnew hid]
    exact .inl rfl
  · rintro id other hid ⟨sc, hsc, -⟩
    rw [hnew hid]
    have hlt := (List.getElem?_eq_some_iff.mp hsc).1
    have hlength : w.turnOn.scanners.length = w.scanners.length + 1 := List.length_append
    exact Nat.le_of_lt_succ (Nat.lt_of_lt_of_eq hlt hlength)
  · exact fun _ => ⟨w.scanners.length, rfl, (working_turnOn w).posted⟩

theorem turnOff {next : Call} (hw : w.Exclusive) (hon : w.store.enabled = true)
    (hcaller : w.calls[caller]? = some call) (hnext : next.joins? = none) :
    (w.turnOff.setCall caller next).Exclusive := by
  -- while the store is on, nobody is underway
  have hidle {other : CallId} {busy : Call} (hbusy : w.calls[other]? = some busy) :
      busy.underway = false := by
    refine Bool.eq_false_iff.mpr fun hunderway => ?_
    rw [(hw.fits other busy hbusy).off hunderway] at hon
    cases hon
  have halone : w.Alone caller := fun _ _ _ => hidle
  have hoff : w.turnOff.store.enabled = false := by rw [turnOff_store]
  refine .of_alone next halone hcaller ?_ ?_ ?_ ⟨fun _ => hoff, ?_, ?_⟩ ?_
  · rw [setCall, (switched_turnOff w).calls]
  · intro id hid
    refine .inl ?_
    show w.turnOff.switch.slot = some id
    rw [turnOff_switch]
    rcases hw.due id ((unended_turnOff w id).mp hid) with hslot | ⟨_, _, hbusy, hjoins⟩
    · exact hslot
    · have hunderway := hidle hbusy
      rw [Call.underway_of_joins hjoins] at hunderway
      cases hunderway
  · intro id other hid hother
    exact hw.last id other ((unended_turnOff w id).mp hid) ((owns_turnOff w other).mp hother)
  · exact fun hsome => absurd hnext hsome
  · rintro on id rfl
    cases hnext
  · intro henabled
    cases hoff.symm.trans henabled

/-- The caller gives up the place that it had, or takes one, while the store is off. -/
theorem takes {next : Call} {switch : Switch} (hw : w.Exclusive) (halone : w.Alone caller)
    (hoff : w.store.enabled = false) (hcaller : w.calls[caller]? = some call)
    (hjoins : ∀ id, call.joins? = some id → w.hasEnded id = true)
    (hslot : ∀ id, w.switch.slot = some id → switch.slot = some id ∨ next.joins? = some id)
    (hvacant : next.joins? ≠ none → switch.slot = none)
    (hheld : ∀ on id, next = .toggle on (.joining id) → switch.held = true) :
    ({ w with switch }.setCall caller next).Exclusive := by
  refine .of_alone next halone hcaller rfl ?_ hw.last ⟨fun _ => hoff, hvacant, hheld⟩ ?_
  · exact fun id hid => hslot id (hw.in_slot halone hcaller hjoins hid)
  · intro hon
    cases hoff.symm.trans hon

theorem toggle {on : Bool} {phase next : Toggle} {notices : List Notice} (hw : w.Exclusive)
    (hapart : w.Apart (.turn (.call caller)))
    (hcaller : w.calls[caller]? = some (.toggle on phase))
    (hturn : ToggleTurn w on phase next v notices) :
    (v.setCall caller (.toggle on next)).Exclusive := by
  have hended := hw.none_unended_of_toggle hapart hcaller hturn
  cases hturn with
  | same =>
    have hquiet : Quiet w (.turn (.call caller)) (w.setCall caller (.toggle on .done)) :=
      .of_scanners rfl rfl (sameCallers_setCall hcaller rfl rfl rfl) rfl
    exact hw.quiet id hquiet
  | @joins previous hfree hoff hslot =>
    have halone := hw.alone_of_free hapart hcaller hfree
    refine hw.takes halone hoff hcaller nofun (fun id hid => ?_) (fun _ => rfl) (fun _ _ _ => rfl)
    rw [hslot] at hid
    exact .inr hid
  | on hfree hoff _ =>
    exact turnOn (hw.alone_of_free hapart hcaller hfree) hcaller (hended hoff rfl) rfl
  | off _ hon => exact hw.turnOff hon hcaller rfl
  | joined =>
    have hoff := (hw.fits caller _ hcaller).off rfl
    exact turnOn (hw.alone_of_underway hcaller rfl) hcaller (hended hoff rfl) rfl

theorem shutdown {phase next : Shutdown} {notices : List Notice} (hw : w.Exclusive)
    (hapart : w.Apart (.turn (.call caller)))
    (hcaller : w.calls[caller]? = some (.shutdown phase))
    (hturn : ShutdownTurn w phase next v notices) :
    (v.setCall caller (.shutdown next)).Exclusive := by
  have halone := alone_of_shutdown hapart hcaller
  cases hturn with
  | off _ hon => exact hw.turnOff hon hcaller rfl
  | same _ hoff =>
    exact hw.takes halone hoff hcaller nofun (fun _ => .inl) (fun h => absurd rfl h) nofun
  | @takes id _ hslot =>
    have hoff := (hw.fits caller _ hcaller).off rfl
    refine hw.takes halone hoff hcaller nofun (fun id hid => ?_) (fun _ => rfl) nofun
    rw [hslot] at hid
    exact .inr hid
  | nobody =>
    have hoff := (hw.fits caller _ hcaller).off rfl
    exact hw.takes halone hoff hcaller nofun (fun _ => .inl) (fun h => absurd rfl h) nofun
  | @joined id hended =>
    have hoff := (hw.fits caller _ hcaller).off rfl
    refine hw.takes halone hoff hcaller (fun id hid => ?_) (fun _ => .inl) (fun h => absurd rfl h)
      nofun
    cases hid
    exact hended

theorem apply {notices : List Notice} (hw : w.Exclusive) (hapart : w.Apart event)
    (h : w.apply event = some (w', notices)) : w'.Exclusive := by
  cases apply_switchMove h with
  | quiet hquiet => exact hw.quiet (fun htime => htime.before h) hquiet
  | toggle id on phase next v notices hevent hcaller hturn hset =>
    subst hevent hset
    exact hw.toggle hapart hcaller hturn
  | shutdown id phase next v notices hevent hcaller hturn hset =>
    subst hevent hset
    exact hw.shutdown hapart hcaller hturn

theorem passed {disk : Disk} {limits : Limits} {wall : Time.Timestamp} {events : List Event}
    (hapart : ∀ h ∈ (World.freshOn disk limits wall).happenings events, h.1.Apart h.2) :
    ∀ v ∈ (World.freshOn disk limits wall).passed events, v.Exclusive := by
  refine passed_induction_of (Q := Apart) ?_ (fun v event hmem => hapart (v, event) hmem)
    (.freshOn disk limits wall)
  exact fun w event w' notices hapart hw happly => hw.apply hapart happly

theorem unique (hw : w.Exclusive) {id other : ScannerId} (hid : w.Unended id)
    (hother : w.Unended other) : id = other :=
  Nat.le_antisymm (hw.last other id hother hid.owns) (hw.last id other hid hother.owns)

/-- A scanner of the store's own that is about to clear it finds it off. -/
theorem off_of_clearing (hw : w.Exclusive) {id : ScannerId} {sc : Scanner}
    (hsc : w.scanners[id]? = some sc) (hown : sc.own = true) (hclears : sc.phase = .clearing) :
    w.store.enabled = false := by
  have hid : w.Unended id := ⟨sc, hsc, hown, by rw [hclears]; nofun⟩
  rcases hw.due id hid with hslot | ⟨caller, call, hcall, hjoins⟩
  · refine Bool.eq_false_iff.mpr fun hon => ?_
    obtain ⟨other, hother, sc', hsc', -, -, hphase, -⟩ := hw.on hon
    cases hslot.symm.trans hother
    cases hsc.symm.trans hsc'
    exact hphase hclears
  · exact (hw.fits caller call hcall).off (Call.underway_of_joins hjoins)

/-- When the store is turned on, all the scanners that it had started before have ended. -/
theorem ended_of_enabling {notices : List Notice} (hw : w.Exclusive) (hapart : w.Apart event)
    (h : w.apply event = some (w', notices)) (hoff : w.store.enabled = false)
    (hon : w'.store.enabled = true) (id : ScannerId) : ¬ w.Unended id := by
  cases apply_switchMove h with
  | quiet hquiet =>
    rw [hquiet.enabled, hoff] at hon
    cases hon
  | toggle caller on phase next v notices hevent hcaller hturn hset =>
    subst hevent hset
    exact hw.none_unended_of_toggle hapart hcaller hturn hoff hon id
  | shutdown caller phase next v notices _ _ hturn hset =>
    subst hset
    cases hturn with
    | off _ hon' => cases hoff.symm.trans hon'
    | _ => cases hoff.symm.trans hon

end Exclusive

end World
end FileCache
