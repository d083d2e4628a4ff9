import FileCache.Proofs.World.Clock
import FileCache.Proofs.World.Sound

/-!
What one event does to the switch and to the scanners.

Only calls that turn the store on or off, or shut it down, work the switch.  At all other
events it stays as it is, and so do the scanners, but for the one whose turn it is and for
those that the store does not own.
-/

namespace FileCache

/-- Whether a scanner has not come to its end, nor decided upon it. -/
def Scanner.works (sc : Scanner) : Bool := sc.phase ≠ .clearing ∧ sc.phase ≠ .ended

theorem Scanner.works_iff {sc : Scanner} :
    sc.works = true ↔ sc.phase ≠ .clearing ∧ sc.phase ≠ .ended := by
  simp [works]

/-- Whether a scanner that goes on sets its timer in its next turn, to a time that is counted from
then. -/
def Scanner.setsTimer (sc : Scanner) : Bool :=
  sc.phase = .starting ∨ (sc.phase = .idle ∧ sc.stopped = false ∧ sc.pending = true)

/-- Whether a call has begun to work the switch and is not done with it. -/
def Call.underway : Call → Bool
  | .toggle _ (.joining _) => true
  | .shutdown .taking => true
  | .shutdown (.joining _) => true
  | _ => false

/-! ## Turns of tasks -/

theorem Lookup.Effect.enabled {now : Nat} {path : Path} {phase : Lookup} {s t : Store}
    (h : Lookup.Effect now path phase s t) : t.enabled = s.enabled := by
  cases h with
  | nothing h => exact h.enabled
  | used id _ h => exact h.enabled
  | inserted gate copy _ _ h => exact h.enabled

theorem Sweep.Effect.enabled {now : Nat} {sw : Sweep} {s t : Store}
    (h : Sweep.Effect now sw s t) : t.enabled = s.enabled := by
  rcases h.kinds with h | ⟨id, -, h⟩ | ⟨id, -, change, used, h⟩
  · exact h.enabled
  · exact h.enabled
  · exact h.enabled

namespace Scanner.Turn

variable {now : Nat} {disk : Disk} {s : Store} {sc : Scanner} {st : Step Scanner}

theorem own (h : sc.Turn now disk s st) : st.next.own = sc.own := by
  cases h with
  | asked => unfold wake; split <;> rfl
  | due => unfold wake; split <;> rfl
  | _ => rfl

theorem enabled (h : sc.Turn now disk s st) : st.store.enabled = s.enabled := by
  cases h with
  | asked => unfold wake; split <;> rfl
  | due => unfold wake; split <;> rfl
  | sweeps _ hstep => exact (Sweep.step_effect hstep).enabled
  | swept _ hstep => exact (Sweep.step_effect hstep).enabled
  | _ => rfl

theorem stopped (h : sc.Turn now disk s st) : st.next.stopped = sc.stopped := by
  cases h with
  | asked => unfold wake; split <;> rfl
  | due => unfold wake; split <;> rfl
  | _ => rfl

/-- As long as the store is on, a scanner that was not told to stop does not come to clear it. -/
theorem phase_ne_clearing (h : sc.Turn now disk s st) (hgoes : sc.stopped = false)
    (hon : s.enabled = true) : st.next.phase ≠ .clearing := by
  cases h with
  | dismissed _ hstopped => cases hgoes.symm.trans hstopped
  | asked => rw [wake, if_pos hon]; nofun
  | due => rw [wake, if_pos hon]; nofun
  | _ => nofun

/-- A scanner ends in the turn in which it clears the store, or breaks off. -/
theorem ended_cases (h : sc.Turn now disk s st) (hended : st.next.phase = .ended) :
    (sc.phase = .clearing ∧ st.store = s.dropAll) ∨
      (sc.setsTimer = true ∧ fits now s.limits = false) := by
  cases h with
  | unstarted hphase hfull => exact .inr ⟨by simp [setsTimer, hphase], hfull⟩
  | asked =>
    unfold wake at hended
    split at hended <;> cases hended
  | unanswered hphase hgoes hpending _ hfull =>
    exact .inr ⟨by simp [setsTimer, hphase, hgoes, hpending], hfull⟩
  | due =>
    unfold wake at hended
    split at hended <;> cases hended
  | cleared hphase => exact .inl ⟨hphase, rfl⟩
  | _ => cases hended

/-- While the clock has time for a deadline, a scanner ends in the turn in which it clears the
store. -/
theorem ended (h : sc.Turn now disk s st) (hfits : fits now s.limits = true)
    (hended : st.next.phase = .ended) : sc.phase = .clearing ∧ st.store = s.dropAll := by
  refine (h.ended_cases hended).resolve_right fun hbreaks => ?_
  cases hfits.symm.trans hbreaks.2

/-- A scanner that finds no time for its deadline ends. -/
theorem breaks (h : sc.Turn now disk s st) (hsets : sc.setsTimer = true) (hon : s.enabled = true)
    (hfull : fits now s.limits = false) : st.next.phase = .ended := by
  simp only [setsTimer, decide_eq_true_eq] at hsets
  cases h with
  | started _ hfits => cases hfull.symm.trans hfits
  | unstarted => rfl
  | dismissed hphase hstopped => simp [hphase, hstopped] at hsets
  | asked _ _ _ hfits => cases hfull.symm.trans (hfits hon)
  | unanswered => rfl
  | due hphase _ hunasked => simp [hphase, hunasked] at hsets
  | sweeps hphase => simp [hphase] at hsets
  | swept hphase => simp [hphase] at hsets
  | cleared hphase => simp [hphase] at hsets

theorem phase_ne_ended (h : sc.Turn now disk s st) : sc.phase ≠ .ended := by
  intro hended
  cases h with
  | started hphase => cases hphase.symm.trans hended
  | unstarted hphase => cases hphase.symm.trans hended
  | dismissed hphase => cases hphase.symm.trans hended
  | asked hphase => cases hphase.symm.trans hended
  | unanswered hphase => cases hphase.symm.trans hended
  | due hphase => cases hphase.symm.trans hended
  | sweeps hphase => cases hphase.symm.trans hended
  | swept hphase => cases hphase.symm.trans hended
  | cleared hphase => cases hphase.symm.trans hended

end Scanner.Turn

theorem Scanner.request_same (sc : Scanner) :
    sc.request.2.own = sc.own ∧ sc.request.2.stopped = sc.stopped ∧
      sc.request.2.phase = sc.phase ∧ sc.request.2.deadline = sc.deadline := by
  unfold request
  split <;> exact ⟨rfl, rfl, rfl, rfl⟩

namespace World

/-- The store has started the scanner. -/
def Owns (w : World) (id : ScannerId) : Prop :=
  ∃ sc : Scanner, w.scanners[id]? = some sc ∧ sc.own = true

/-- The store has started the scanner, and it has not ended. -/
def Unended (w : World) (id : ScannerId) : Prop :=
  ∃ sc : Scanner, w.scanners[id]? = some sc ∧ sc.own = true ∧ sc.phase ≠ .ended

/-- The store has started the scanner, which was not told to stop and does its work. -/
def Working (w : World) (id : ScannerId) : Prop :=
  ∃ sc : Scanner, w.scanners[id]? = some sc ∧ sc.own = true ∧ sc.stopped = false ∧
    sc.works = true

/-- The store has started the scanner, which was neither told to stop nor came to clear it, and
which is at work as long as the clock has time for a deadline. -/
def Posted (w : World) (id : ScannerId) : Prop :=
  ∃ sc : Scanner, w.scanners[id]? = some sc ∧ sc.own = true ∧ sc.stopped = false ∧
    sc.phase ≠ .clearing ∧ (w.HasTime → sc.phase ≠ .ended)

/-- The same calls are underway at the switch. -/
def SameCallers (w w' : World) : Prop :=
  ∀ (id : CallId) (call : Call), call.underway = true →
    (w'.calls[id]? = some call ↔ w.calls[id]? = some call)

/-! ## Events that leave the switch alone -/

/-- What an event that leaves the switch alone makes of a scanner. -/
inductive Onward (w : World) (event : Event) (w' : World) (id : ScannerId) (sc : Scanner) :
    Scanner → Prop
  | rests {sc' : Scanner} (hown : sc'.own = sc.own) (hstopped : sc'.stopped = sc.stopped)
      (hphase : sc'.phase = sc.phase) (hdeadline : sc'.deadline = sc.deadline) :
      Onward w event w' id sc sc'
  | goes {st : Step Scanner} (hevent : event = .turn (.scanner id))
      (hturn : sc.Turn w.now w.disk w.store st) (hstore : w'.store = st.store) :
      Onward w event w' id sc st.next
  | stops (hextra : sc.own = false) : Onward w event w' id sc sc.stop

/-- An event that leaves the switch alone. -/
structure Quiet (w : World) (event : Event) (w' : World) : Prop where
  switch : w'.switch = w.switch
  enabled : w'.store.enabled = w.store.enabled
  calls : SameCallers w w'
  scanners : ∀ id sc', w'.scanners[id]? = some sc' →
    sc' = Scanner.fresh false ∨ ∃ sc, w.scanners[id]? = some sc ∧ Onward w event w' id sc sc'
  kept : ∀ id sc, w.scanners[id]? = some sc →
    ∃ sc', w'.scanners[id]? = some sc' ∧ Onward w event w' id sc sc'
  own : w'.scanners.countP (·.own) = w.scanners.countP (·.own)

variable {w w' : World} {event : Event} {id : ScannerId} {sc next : Scanner}

namespace Onward

theorem own (h : Onward w event w' id sc next) : next.own = sc.own := by
  cases h with
  | rests hown => exact hown
  | goes _ hturn _ => exact hturn.own
  | stops _ => rfl

/-- While the store is on, its own scanner does not come to clear it before it is told to stop,
and while the clock has time for a deadline it does not break off. -/
theorem remains (h : Onward w event w' id sc next) (hown : sc.own = true)
    (hgoes : sc.stopped = false) (hphase : sc.phase ≠ .clearing) (hon : w.store.enabled = true) :
    next.own = true ∧ next.stopped = false ∧ next.phase ≠ .clearing ∧
      (w.HasTime → sc.phase ≠ .ended → next.phase ≠ .ended) := by
  cases h with
  | rests hown' hstopped hsame _ =>
    exact ⟨hown'.trans hown, hstopped.trans hgoes, hsame ▸ hphase, fun _ h => hsame ▸ h⟩
  | goes _ hturn _ =>
    refine ⟨hturn.own.trans hown, hturn.stopped.trans hgoes, hturn.phase_ne_clearing hgoes hon,
      fun htime _ hended => hphase (hturn.ended htime hended).1⟩
  | stops hextra =>
    rw [hextra] at hown
    cases hown

/-- A scanner that has ended has ended for good. -/
theorem unended (h : Onward w event w' id sc next) (hnext : next.phase ≠ .ended) :
    sc.phase ≠ .ended := by
  cases h with
  | rests _ _ hphase _ => exact hphase ▸ hnext
  | goes _ hturn _ => exact hturn.phase_ne_ended
  | stops _ => exact hnext

end Onward

theorem countP_own_set (hsc : w.scanners[id]? = some sc) (hown : next.own = sc.own) :
    (w.scanners.set id next).countP (·.own) = w.scanners.countP (·.own) := by
  obtain ⟨others, hbefore, hafter⟩ := countP_set_split hsc (·.own)
  rw [hbefore, hafter, hown]

namespace Quiet

/-- The scanners stay as they are. -/
theorem of_scanners (hswitch : w'.switch = w.switch) (henabled : w'.store.enabled = w.store.enabled)
    (hcalls : SameCallers w w') (hscanners : w'.scanners = w.scanners) : Quiet w event w' where
  switch := hswitch
  enabled := henabled
  calls := hcalls
  scanners id sc h := .inr ⟨sc, hscanners ▸ h, .rests rfl rfl rfl rfl⟩
  kept id sc h := ⟨sc, hscanners ▸ h, .rests rfl rfl rfl rfl⟩
  own := by rw [hscanners]

/-- One scanner goes on, the others stay as they are. -/
theorem of_set (hswitch : w'.switch = w.switch) (henabled : w'.store.enabled = w.store.enabled)
    (hcalls : SameCallers w w') (hsc : w.scanners[id]? = some sc)
    (hscanners : w'.scanners = w.scanners.set id next) (hnext : Onward w event w' id sc next) :
    Quiet w event w' where
  switch := hswitch
  enabled := henabled
  calls := hcalls
  scanners other sc' h := by
    obtain ⟨hlt, -⟩ := List.getElem?_eq_some_iff.mp hsc
    rw [hscanners, List.getElem?_set] at h
    split at h
    · rename_i hid
      subst hid
      rw [Option.some.injEq] at h
      exact .inr ⟨sc, hsc, h ▸ hnext⟩
    · exact .inr ⟨sc', h, .rests rfl rfl rfl rfl⟩
  kept other sc' h := by
    obtain ⟨hlt, -⟩ := List.getElem?_eq_some_iff.mp hsc
    rw [hscanners, List.getElem?_set]
    split
    · rename_i hid
      subst hid
      rw [hsc, Option.some.injEq] at h
      exact ⟨next, rfl, h ▸ hnext⟩
    · exact ⟨sc', h, .rests rfl rfl rfl rfl⟩
  own := by rw [hscanners, countP_own_set hsc hnext.own]

theorem owns (h : Quiet w event w') (hid : w'.Owns id) : w.Owns id := by
  obtain ⟨sc', hsc', hown⟩ := hid
  rcases h.scanners id sc' hsc' with rfl | ⟨sc, hsc, honward⟩
  · cases hown
  · exact ⟨sc, hsc, honward.own ▸ hown⟩

theorem unended (h : Quiet w event w') (hid : w'.Unended id) : w.Unended id := by
  obtain ⟨sc', hsc', hown, hphase⟩ := hid
  rcases h.scanners id sc' hsc' with rfl | ⟨sc, hsc, honward⟩
  · cases hown
  · exact ⟨sc, hsc, honward.own ▸ hown, honward.unended hphase⟩

theorem posted (h : Quiet w event w') (htime : w'.HasTime → w.HasTime)
    (hon : w.store.enabled = true) (hid : w.Posted id) : w'.Posted id := by
  obtain ⟨sc, hsc, hown, hgoes, hphase, hlasts⟩ := hid
  obtain ⟨sc', hsc', honward⟩ := h.kept id sc hsc
  obtain ⟨hown', hgoes', hphase', hlasts'⟩ := honward.remains hown hgoes hphase hon
  exact ⟨sc', hsc', hown', hgoes', hphase',
    fun h => hlasts' (htime h) (hlasts (htime h))⟩

end Quiet

theorem Unended.owns (h : w.Unended id) : w.Owns id := h.imp fun _ h => ⟨h.1, h.2.1⟩

theorem Working.unended (h : w.Working id) : w.Unended id := by
  obtain ⟨sc, hsc, hown, -, hworks⟩ := h
  exact ⟨sc, hsc, hown, (Scanner.works_iff.mp hworks).2⟩

theorem Working.posted (h : w.Working id) : w.Posted id := by
  obtain ⟨sc, hsc, hown, hgoes, hworks⟩ := h
  obtain ⟨hphase, hlasts⟩ := Scanner.works_iff.mp hworks
  exact ⟨sc, hsc, hown, hgoes, hphase, fun _ => hlasts⟩

/-- While the clock has time for a deadline, the scanner of the store is at work. -/
theorem Posted.working (h : w.Posted id) (htime : w.HasTime) : w.Working id := by
  obtain ⟨sc, hsc, hown, hgoes, hphase, hlasts⟩ := h
  exact ⟨sc, hsc, hown, hgoes, Scanner.works_iff.mpr ⟨hphase, hlasts htime⟩⟩

/-! ## Events that work the switch -/

/-- What an event makes of the switch. -/
inductive SwitchMove (w : World) (event : Event) (w' : World) : Prop
  | quiet (h : Quiet w event w')
  | toggle (id : CallId) (on : Bool) (phase next : Toggle) (v : World) (notices : List Notice)
      (hevent : event = .turn (.call id)) (hat : w.calls[id]? = some (.toggle on phase))
      (hturn : ToggleTurn w on phase next v notices) (h : w' = v.setCall id (.toggle on next))
  | shutdown (id : CallId) (phase next : Shutdown) (v : World) (notices : List Notice)
      (hevent : event = .turn (.call id)) (hat : w.calls[id]? = some (.shutdown phase))
      (hturn : ShutdownTurn w phase next v notices) (h : w' = v.setCall id (.shutdown next))

/-- A call that does not work the switch takes a turn. -/
theorem sameCallers_setCall {v : World} {id : CallId} {old call : Call}
    (hold : w.calls[id]? = some old) (hv : v.calls = w.calls) (hbefore : old.underway = false)
    (hafter : call.underway = false) : SameCallers w (v.setCall id call) := by
  intro other c hc
  obtain ⟨hlt, -⟩ := List.getElem?_eq_some_iff.mp hold
  rw [setCall, hv, List.getElem?_set]
  split
  · rename_i hid
    subst hid
    rw [hold, Option.some.injEq, Option.some.injEq]
    constructor
    · rintro rfl
      rw [hafter] at hc
      cases hc
    · rintro rfl
      rw [hbefore] at hc
      cases hc
  · exact Iff.rfl

theorem requestScan_quiet (id : ScannerId) (h : w'.scanners = (w.requestScan id).2.scanners)
    (hswitch : w'.switch = w.switch) (henabled : w'.store.enabled = w.store.enabled)
    (hcalls : SameCallers w w') : Quiet w event w' := by
  unfold requestScan at h
  split at h
  · exact .of_scanners hswitch henabled hcalls h
  · rename_i sc hsc
    obtain ⟨hown, hstopped, hphase, hdeadline⟩ := sc.request_same
    exact .of_set hswitch henabled hcalls hsc h (.rests hown hstopped hphase hdeadline)

theorem CallTurn.switchMove {id : CallId} {call : Call} {notices : List Notice}
    (hcall : w.calls[id]? = some call) (h : CallTurn w id call w' notices) :
    SwitchMove w (.turn (.call id)) w' := by
  cases h with
  | lookup hstep =>
    have heffect := (Lookup.step_course hstep).effect
    exact .quiet (.of_scanners rfl heffect.enabled (sameCallers_setCall hcall rfl rfl rfl) rfl)
  | sweep hstep =>
    have heffect := Sweep.step_effect hstep
    exact .quiet (.of_scanners rfl heffect.enabled (sameCallers_setCall hcall rfl rfl rfl) rfl)
  | toggle hturn => exact .toggle id _ _ _ _ _ rfl hcall hturn rfl
  | shutdown hturn => exact .shutdown id _ _ _ _ rfl hcall hturn rfl
  | scan hturn =>
    cases hturn with
    | @asks scanner =>
      refine .quiet (requestScan_quiet scanner rfl ?_ ?_ (sameCallers_setCall hcall ?_ rfl rfl))
      · unfold requestScan
        split <;> rfl
      · rw [setCall, store_requestScan]
      · exact calls_requestScan scanner w
    | refused => exact .quiet (.of_scanners rfl rfl (sameCallers_setCall hcall rfl rfl rfl) rfl)
  | read => exact .quiet (.of_scanners rfl rfl (sameCallers_setCall hcall rfl rfl rfl) rfl)
  | stat => exact .quiet (.of_scanners rfl rfl (sameCallers_setCall hcall rfl rfl rfl) rfl)

theorem stopScanner_scanners (hsc : w.scanners[id]? = some sc) :
    (w.stopScanner id).scanners = w.scanners.set id sc.stop := by
  obtain ⟨hlt, hget⟩ := List.getElem?_eq_some_iff.mp hsc
  apply List.ext_getElem?
  intro other
  rw [stopScanner, List.getElem?_modify, List.getElem?_set]
  by_cases hid : id = other
  · subst hid
    simp [hlt, hget]
  · simp [hid]

/-- A scanner besides the store's own is added. -/
theorem spawn_quiet (w : World) : Quiet w event (w.addScanner false) where
  switch := rfl
  enabled := rfl
  calls _ _ _ := Iff.rfl
  scanners id sc h := by
    rw [addScanner, List.getElem?_append] at h
    split at h
    · exact .inr ⟨sc, h, .rests rfl rfl rfl rfl⟩
    · exact .inl (List.mem_singleton.mp (List.mem_of_getElem? h))
  kept id sc h := by
    obtain ⟨hlt, -⟩ := List.getElem?_eq_some_iff.mp h
    exact ⟨sc, by rw [addScanner, List.getElem?_append_left hlt]; exact h, .rests rfl rfl rfl rfl⟩
  own := by
    rw [addScanner, List.countP_append]
    rfl

theorem begin_quiet (ask : Ask) (w : World) : Quiet w event (w.begin ask) := by
  refine .of_scanners rfl rfl (fun id call hcall => ?_) rfl
  rw [begin, List.getElem?_append]
  split
  · exact Iff.rfl
  · rename_i hge
    rw [List.getElem?_eq_none (Nat.le_of_not_lt hge)]
    constructor
    · intro h
      have hnew := List.mem_singleton.mp (List.mem_of_getElem? h)
      rw [hnew] at hcall
      cases ask <;> cases hcall
    · intro h
      cases h

/-- Every event either leaves the switch alone or works it. -/
theorem apply_switchMove {notices : List Notice} (h : w.apply event = some (w', notices)) :
    SwitchMove w event w' := by
  have hsame : SameCallers w w := fun _ _ _ => Iff.rfl
  cases apply_happens h with
  | turn hstep =>
    cases step_turn hstep with
    | call hcall hturn => exact hturn.switchMove hcall
    | scanner hsc hturn =>
      have hturn := Scanner.step_turn hturn
      exact .quiet (.of_set rfl hturn.enabled hsame hsc rfl (.goes rfl hturn rfl))
  | call ask => exact .quiet (begin_quiet ask w)
  | spawn => exact .quiet (spawn_quiet w)
  | stop hextra =>
    rw [isExtra, Option.any_eq_true] at hextra
    obtain ⟨sc, hsc, hextra⟩ := hextra
    rw [Bool.not_eq_true'] at hextra
    exact .quiet (.of_set rfl rfl hsame hsc (stopScanner_scanners hsc) (.stops hextra))
  | @request id =>
    refine .quiet (requestScan_quiet id rfl ?_ ?_ ?_)
    · unfold requestScan
      split <;> rfl
    · rw [store_requestScan]
    · rw [SameCallers, calls_requestScan]
      exact hsame
  | _ => exact .quiet (.of_scanners rfl rfl hsame rfl)

/-! ## Turning the store on and off -/

/-- The scanners after the store is turned on are those before, and a new one. -/
theorem turnOn_scanner (h : w.turnOn.scanners[id]? = some sc) :
    w.scanners[id]? = some sc ∨ (id = w.scanners.length ∧ sc = Scanner.fresh true) := by
  have hscanners : w.turnOn.scanners = w.scanners ++ [Scanner.fresh true] := rfl
  rw [hscanners] at h
  rcases Nat.lt_or_ge id w.scanners.length with hlt | hge
  · rw [List.getElem?_append_left hlt] at h
    exact .inl h
  · have hnew := List.mem_singleton.mp (List.mem_of_getElem? (List.getElem?_append_right hge ▸ h))
    have hlt := (List.getElem?_eq_some_iff.mp h).1
    rw [List.length_append, List.length_singleton] at hlt
    exact .inr ⟨Nat.le_antisymm (Nat.le_of_lt_succ hlt) hge, hnew⟩

theorem working_turnOn (w : World) : w.turnOn.Working w.scanners.length :=
  ⟨Scanner.fresh true, List.getElem?_concat_length, rfl, rfl, rfl⟩

theorem turnOff_switch (w : World) : w.turnOff.switch = w.switch := by
  unfold turnOff
  simp only []
  split <;> rfl

theorem turnOff_store (w : World) : w.turnOff.store = { w.store with enabled := false } := by
  unfold turnOff
  simp only []
  split <;> rfl

/-- Of all scanners the one in the slot is told to stop. -/
theorem turnOff_scanner (w : World) (id : ScannerId) :
    w.turnOff.scanners[id]? =
      (w.scanners[id]?).map fun sc => if w.switch.slot = some id then sc.stop else sc := by
  unfold turnOff
  simp only []
  split
  · rename_i previous hslot
    rw [hslot, stopScanner, List.getElem?_modify]
    simp
  · rename_i hslot
    rw [hslot]
    simp

/-- Turning the store off keeps what being told to stop does not change of a scanner. -/
theorem exists_turnOff (w : World) (id : ScannerId) {P : Scanner → Prop}
    (hP : ∀ sc, P sc.stop ↔ P sc) :
    (∃ sc, w.turnOff.scanners[id]? = some sc ∧ P sc) ↔
      ∃ sc, w.scanners[id]? = some sc ∧ P sc := by
  simp only [turnOff_scanner, Option.map_eq_some_iff]
  constructor
  · rintro ⟨_, ⟨sc, hsc, rfl⟩, h⟩
    split at h
    · exact ⟨sc, hsc, (hP sc).mp h⟩
    · exact ⟨sc, hsc, h⟩
  · rintro ⟨sc, hsc, h⟩
    refine ⟨_, ⟨sc, hsc, rfl⟩, ?_⟩
    split
    · exact (hP sc).mpr h
    · exact h

theorem owns_turnOff (w : World) (id : ScannerId) : w.turnOff.Owns id ↔ w.Owns id :=
  exists_turnOff w id fun _ => Iff.rfl

theorem unended_turnOff (w : World) (id : ScannerId) : w.turnOff.Unended id ↔ w.Unended id :=
  exists_turnOff w id fun _ => Iff.rfl

theorem hasTime_turnOff (w : World) : w.turnOff.HasTime ↔ w.HasTime := by
  rw [HasTime, HasTime, turnOff_now, turnOff_store]

theorem countP_own_modify (scanners : List Scanner) (id : ScannerId) :
    (scanners.modify id Scanner.stop).countP (·.own) = scanners.countP (·.own) := by
  induction scanners generalizing id with
  | nil => rw [List.modify_nil]
  | cons sc rest ih =>
    cases id with
    | zero => rfl
    | succ id => rw [List.modify_succ_cons, List.countP_cons, List.countP_cons, ih]

theorem turnOff_own (w : World) :
    w.turnOff.scanners.countP (·.own) = w.scanners.countP (·.own) := by
  unfold turnOff
  simp only []
  split
  · exact countP_own_modify _ _
  · rfl

end World
end FileCache
