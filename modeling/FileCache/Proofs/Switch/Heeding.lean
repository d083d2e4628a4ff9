import FileCache.Proofs.Switch.Manned
import FileCache.Proofs.World.Rest

/-!
What becomes of a request for a sweep in one event.

The store's scanner takes it on if there is room for it, keeps it while it is at work, and answers
it with a sweep when it next wakes, unless it was told to stop, finds the store off, or finds no
time on the clock for its next deadline.
-/

namespace FileCache

/-! ## Turns of a scanner -/

namespace Scanner

/-- How many turns a scanner takes before it looks at its request, with `n` entries in the
map. -/
def delay (n : Nat) (sc : Scanner) : Nat :=
  match sc.phase with
  | .starting => 1
  | .sweeping _ sw => sw.load n
  | _ => 0

/-- The requests that a scanner is still to answer with a sweep. -/
def owed (sc : Scanner) : Nat := (sc.pending && sc.works).toNat

/-- Why a scanner begins a sweep in its next turn, if it does. -/
def begins? (now : Nat) (disk : Disk) (s : Store) (sc : Scanner) : Option Wake :=
  (sc.step now disk s).bind fun st =>
    match sc.phase, st.next.phase with
    | .idle, .sweeping cause sw => if sw = Sweep.fresh then some cause else none
    | _, _ => none

/-- What a turn of a scanner has to do with its request. -/
inductive Heeds (now : Nat) (disk : Disk) (s : Store) (sc : Scanner) (next : Scanner) : Prop
  | begins {cause : Wake} (hbegins : sc.begins? now disk s = some cause)
      (hcause : cause = .trigger ↔ sc.pending = true) (hbefore : sc.works = true)
      (hafter : next.works = true) (hnext : next.pending = false)
  | quits (hbegins : sc.begins? now disk s = none) (hbefore : sc.works = true)
      (hafter : next.works = false)
      (hwhy : sc.stopped = true ∨ s.enabled = false ∨ fits now s.limits = false)
  | goes (hbegins : sc.begins? now disk s = none) (hworks : next.works = sc.works)
      (hpending : next.pending = sc.pending)
      (hdelay : sc.works = true → ∀ n, s.mapped.length ≤ n → next.delay n < sc.delay n)

variable {now : Nat} {disk : Disk} {s : Store} {sc : Scanner} {st : Step Scanner}

theorem works_of_phase (h : sc.phase = .idle) : sc.works = true := by
  simp [works, h]

/-- Only an idle scanner begins a sweep. -/
theorem begins?_of_busy (h : sc.phase ≠ .idle) : sc.begins? now disk s = none := by
  unfold begins?
  cases sc.step now disk s with
  | none => rfl
  | some st =>
    simp only [Option.bind_some]
    split
    · rename_i hidle _
      exact absurd hidle h
    · rfl

theorem begins?_of_step (hphase : sc.phase = .idle) (hstep : sc.step now disk s = some st)
    {cause : Wake} (hnext : st.next.phase = .sweeping cause Sweep.fresh) :
    sc.begins? now disk s = some cause := by
  rw [begins?, hstep, Option.bind_some, hphase, hnext]
  exact if_pos rfl

theorem begins?_of_not_works (hstep : sc.step now disk s = some st)
    (hnext : st.next.works = false) : sc.begins? now disk s = none := by
  rw [begins?, hstep, Option.bind_some]
  split
  · rename_i hphase
    simp [works, hphase] at hnext
  · rfl

/-- A scanner that wakes begins a sweep if the store is on, and otherwise ends. -/
theorem heeds_wake {cause : Wake} {sc' : Scanner} (hphase : sc.phase = .idle)
    (hstep : sc.step now disk s = some (wake cause s sc'))
    (hcause : cause = .trigger ↔ sc.pending = true) (hnext : sc'.pending = false) :
    Heeds now disk s sc (wake cause s sc').next := by
  cases hon : s.enabled with
  | true =>
    have hwake : wake cause s sc' =
        { next := { sc' with phase := .sweeping cause Sweep.fresh }, store := s } := by
      rw [wake, if_pos hon]
    rw [hwake] at hstep ⊢
    exact .begins (begins?_of_step hphase hstep rfl) hcause (works_of_phase hphase) rfl hnext
  | false =>
    have hwake : wake cause s sc' = { next := { sc' with phase := .clearing }, store := s } := by
      rw [wake, hon]
      rfl
    rw [hwake] at hstep ⊢
    exact .quits (begins?_of_not_works hstep rfl) (works_of_phase hphase) rfl (.inr (.inl hon))

end Scanner

theorem Scanner.step_heeds {now : Nat} {disk : Disk} {s : Store} {sc : Scanner}
    {st : Step Scanner} (h : sc.step now disk s = some st) : Heeds now disk s sc st.next := by
  have hbusy (hphase : sc.phase ≠ .idle) : sc.begins? now disk s = none := begins?_of_busy hphase
  cases step_turn h with
  | started hphase =>
    refine .goes (hbusy (by simp [hphase])) (by simp [works, hphase]) rfl fun _ n _ => ?_
    simp [delay, hphase]
  | unstarted hphase hfull =>
    exact .quits (begins?_of_not_works h rfl) (by simp [works, hphase]) rfl (.inr (.inr hfull))
  | dismissed hphase hstopped =>
    exact .quits (begins?_of_not_works h rfl) (works_of_phase hphase) rfl (.inl hstopped)
  | asked hphase hgoes hpending => exact heeds_wake hphase h (by simp [hpending]) rfl
  | unanswered hphase _ _ _ hfull =>
    exact .quits (begins?_of_not_works h rfl) (works_of_phase hphase) rfl (.inr (.inr hfull))
  | due hphase hgoes hunasked hdue => exact heeds_wake hphase h (by simp [hunasked]) hunasked
  | sweeps hphase hstep =>
    refine .goes (hbusy (by simp [hphase])) (by simp [works, hphase]) rfl fun _ n hn => ?_
    simp only [delay, hphase]
    exact Sweep.step_load_lt hstep hn
  | swept hphase hstep =>
    refine .goes (hbusy (by simp [hphase])) (by simp [works, hphase]) rfl fun _ n hn => ?_
    simp only [delay, hphase]
    exact Nat.lt_of_le_of_lt (Nat.zero_le _) (Sweep.step_load_lt hstep hn)
  | cleared hphase =>
    refine .goes (hbusy (by simp [hphase])) (by simp [works, hphase]) rfl fun hworks => ?_
    simp [works, hphase] at hworks

namespace World

def Event.isTurn : Event → Bool
  | .turn _ => true
  | _ => false

/-- The answer to a request for a sweep, if it is given in this event. -/
def answers? (w : World) : Event → Option Bool
  | .turn (.call caller) =>
    match w.calls[caller]?, (w.step (.call caller)).bind fun r => r.1.calls[caller]? with
    | some (.scan .waiting), some (.scan (.done queued)) => some queued
    | _, _ => none
  | _ => none

/-- The store's own scanner takes on a request. -/
def takesOn (w : World) (id : ScannerId) (event : Event) : Bool :=
  w.answers? event = some true ∧ w.switch.slot = some id

/-- Why the scanner begins a sweep in this event, if it does. -/
def begins? (w : World) (id : ScannerId) : Event → Option Wake
  | .turn (.scanner other) =>
    if other = id then (w.scanners[id]?).bind (·.begins? w.now w.disk w.store) else none
  | _ => none

/-- How many requests the scanner takes on in a run. -/
def accepted (w : World) (id : ScannerId) (events : List Event) : Nat :=
  (w.happenings events).countP fun h => h.1.takesOn id h.2

/-- How many sweeps the scanner begins in a run because it was asked to. -/
def served (w : World) (id : ScannerId) (events : List Event) : Nat :=
  (w.happenings events).countP fun h => h.1.begins? id h.2 = some .trigger

/-- The scanner begins a sweep in the course of a run, for whatever reason. -/
def begun (w : World) (id : ScannerId) (events : List Event) : Bool :=
  (w.happenings events).any fun h => (h.1.begins? id h.2).isSome

variable {w w' : World} {event : Event} {notices : List Notice} {caller : CallId}
  {id : ScannerId} {sc sc' : Scanner}

/-! ## Events and requests -/

theorem answers?_of_call {call : Call} (hcall : w.calls[caller]? = some call)
    (hnot : call ≠ .scan .waiting) : w.answers? (.turn (.call caller)) = none := by
  simp only [answers?, hcall]
  split
  · rename_i hsame _
    exact absurd (Option.some.inj hsame) hnot
  · rfl

theorem answers?_of_scan {u : World} {queued : Bool}
    (hcall : w.calls[caller]? = some (.scan .waiting)) (hcalls : u.calls = w.calls)
    (hstep : w.step (.call caller) = some (u.setCall caller (.scan (.done queued)), notices)) :
    w.answers? (.turn (.call caller)) = some queued := by
  have hlt := (List.getElem?_eq_some_iff.mp hcall).1
  have hafter : (u.setCall caller (.scan (.done queued))).calls[caller]? =
      some (.scan (.done queued)) := by
    rw [setCall, hcalls]
    exact List.getElem?_set_self hlt
  simp only [answers?, hcall, hstep, Option.bind_some, hafter]

/-- What an event does to a scanner of the store's own and to its request. -/
inductive Fate (w : World) (event : Event) (id : ScannerId) (sc sc' : Scanner) : Prop
  | rests (hphase : sc'.phase = sc.phase) (hpending : sc'.pending = sc.pending)
      (hstopped : sc.stopped = true → sc'.stopped = true) (hnot : w.takesOn id event = false)
      (hother : event ≠ .turn (.scanner id))
  | goes (hevent : event = .turn (.scanner id)) (hstopped : sc'.stopped = sc.stopped)
      (hheeds : sc.Heeds w.now w.disk w.store sc')
  | asked {queued : Bool} (hanswer : w.answers? event = some queued)
      (hslot : w.switch.slot = some id) (hon : w.store.enabled = true)
      (hrequest : sc.request = (queued, sc')) (hother : event ≠ .turn (.scanner id))

theorem takesOn_of_answer (h : w.answers? event ≠ some true) : w.takesOn id event = false := by
  simp [takesOn, h]

/-- The scanner stays as it is. -/
theorem Fate.same (h : w.answers? event ≠ some true) (hother : event ≠ .turn (.scanner id)) :
    Fate w event id sc sc :=
  .rests rfl rfl (fun h => h) (takesOn_of_answer h) hother

/-- An event in which nobody takes a turn leaves the scanner as it is. -/
theorem Fate.still (h : event.isTurn = false) : Fate w event id sc sc := by
  cases event with
  | turn agent => cases h
  | _ => exact .same (by simp [answers?]) (by simp)

theorem turnOn_kept (hsc : w.scanners[id]? = some sc) : w.turnOn.scanners[id]? = some sc := by
  have hscanners : w.turnOn.scanners = w.scanners ++ [Scanner.fresh true] := rfl
  rw [hscanners, List.getElem?_append_left (List.getElem?_eq_some_iff.mp hsc).1]
  exact hsc

theorem turnOff_fate (hsc : w.scanners[id]? = some sc) (h : w.answers? event ≠ some true)
    (hother : event ≠ .turn (.scanner id)) :
    ∃ sc', w.turnOff.scanners[id]? = some sc' ∧ Fate w event id sc sc' := by
  refine ⟨_, by rw [turnOff_scanner, hsc]; rfl, ?_⟩
  split
  · exact .rests rfl rfl (fun _ => rfl) (takesOn_of_answer h) hother
  · exact .same h hother

theorem CallTurn.fate {call : Call} (hcall : w.calls[caller]? = some call)
    (hstep : w.step (.call caller) = some (w', notices)) (h : CallTurn w caller call w' notices)
    (hsc : w.scanners[id]? = some sc) :
    ∃ sc', w'.scanners[id]? = some sc' ∧ Fate w (.turn (.call caller)) id sc sc' := by
  have hquiet (hnot : call ≠ .scan .waiting) :
      w.answers? (.turn (.call caller)) ≠ some true := by
    rw [answers?_of_call hcall hnot]
    nofun
  cases h with
  | lookup => exact ⟨sc, hsc, .same (hquiet nofun) nofun⟩
  | sweep => exact ⟨sc, hsc, .same (hquiet nofun) nofun⟩
  | read => exact ⟨sc, hsc, .same (hquiet nofun) nofun⟩
  | stat => exact ⟨sc, hsc, .same (hquiet nofun) nofun⟩
  | toggle hturn =>
    cases hturn with
    | same => exact ⟨sc, hsc, .same (hquiet nofun) nofun⟩
    | joins => exact ⟨sc, hsc, .same (hquiet nofun) nofun⟩
    | on => exact ⟨sc, turnOn_kept hsc, .same (hquiet nofun) nofun⟩
    | joined => exact ⟨sc, turnOn_kept hsc, .same (hquiet nofun) nofun⟩
    | off => exact turnOff_fate hsc (hquiet nofun) nofun
  | shutdown hturn =>
    cases hturn with
    | off => exact turnOff_fate hsc (hquiet nofun) nofun
    | _ => exact ⟨sc, hsc, .same (hquiet nofun) nofun⟩
  | scan hturn =>
    cases hturn with
    | refused hfree hnone =>
      refine ⟨sc, hsc, .same ?_ nofun⟩
      rw [answers?_of_scan hcall rfl hstep]
      nofun
    | @asks other hfree hslot hon =>
      have hanswer := answers?_of_scan hcall (calls_requestScan other w) hstep
      by_cases hid : other = id
      · subst hid
        refine ⟨sc.request.2, ?_, ?_⟩
        · rw [setCall, requestScan, hsc]
          exact List.getElem?_set_self (List.getElem?_eq_some_iff.mp hsc).1
        · rw [requestScan, hsc] at hanswer
          exact .asked hanswer hslot hon rfl nofun
      · have hkept : (w.requestScan other).2.scanners[id]? = some sc := by
          rw [requestScan]
          split
          · exact hsc
          · exact (List.getElem?_set_ne hid).trans hsc
        refine ⟨sc, hkept, .rests rfl rfl (fun h => h) ?_ nofun⟩
        simp [takesOn, hslot, hid]

theorem apply_fate (h : w.apply event = some (w', notices)) (hsc : w.scanners[id]? = some sc)
    (hown : sc.own = true) : ∃ sc', w'.scanners[id]? = some sc' ∧ Fate w event id sc sc' := by
  have hlt := (List.getElem?_eq_some_iff.mp hsc).1
  have hextra {other : ScannerId} (hother : w.isExtra other = true) : other ≠ id := by
    rintro rfl
    simp [isExtra, hsc, hown] at hother
  cases apply_happens h with
  | turn hstep =>
    cases step_turn hstep with
    | call hcall hturn => exact hturn.fate hcall hstep hsc
    | @scanner other old st hold hturn =>
      by_cases hid : other = id
      · subst hid
        cases hsc.symm.trans hold
        exact ⟨_, List.getElem?_set_self hlt, .goes rfl (Scanner.step_turn hturn).stopped
          (Scanner.step_heeds hturn)⟩
      · refine ⟨sc, (List.getElem?_set_ne hid).trans hsc, .same (by simp [answers?]) ?_⟩
        rintro ⟨⟩
        exact hid rfl
  | spawn => exact ⟨sc, (List.getElem?_append_left hlt).trans hsc, .still rfl⟩
  | stop hother =>
    refine ⟨sc, ?_, .still rfl⟩
    rw [stopScanner]
    exact (List.getElem?_modify_ne _ _ (hextra hother)).trans hsc
  | request hother =>
    refine ⟨sc, ?_, .still rfl⟩
    rw [requestScan]
    split
    · exact hsc
    · exact (List.getElem?_set_ne (hextra hother)).trans hsc
  | _ => exact ⟨sc, hsc, .still rfl⟩

/-- A scanner that an event brings in is a fresh one. -/
theorem apply_new (h : w.apply event = some (w', notices)) (hnone : w.scanners[id]? = none)
    (hsc : w'.scanners[id]? = some sc) : ∃ own, sc = Scanner.fresh own := by
  have hno {old : Scanner} (hold : w.scanners[id]? = some old) : False := by
    cases hnone.symm.trans hold
  cases apply_switchMove h with
  | quiet hquiet =>
    rcases hquiet.scanners id sc hsc with rfl | ⟨old, hold, -⟩
    · exact ⟨false, rfl⟩
    · exact (hno hold).elim
  | toggle _ _ _ _ _ _ _ _ hturn hset =>
    subst hset
    rcases hturn.scanner hsc with ⟨rfl, -⟩ | ⟨old, hold, -⟩
    · exact ⟨true, rfl⟩
    · exact (hno hold).elim
  | shutdown _ _ _ _ _ _ _ hturn hset =>
    subst hset
    obtain ⟨old, hold, -⟩ := hturn.scanner hsc
    exact (hno hold).elim

theorem own_of_turnOff (hsc : w.scanners[id]? = some sc) :
    ∃ sc', w.turnOff.scanners[id]? = some sc' ∧ sc'.own = sc.own := by
  refine ⟨_, by rw [turnOff_scanner, hsc]; rfl, ?_⟩
  split <;> rfl

/-- Scanners stay in their places, and whether one is the store's own never changes. -/
theorem apply_own (h : w.apply event = some (w', notices)) (hsc : w.scanners[id]? = some sc) :
    ∃ sc', w'.scanners[id]? = some sc' ∧ sc'.own = sc.own := by
  cases apply_switchMove h with
  | quiet hquiet =>
    obtain ⟨next, hnext, honward⟩ := hquiet.kept id sc hsc
    exact ⟨next, hnext, honward.own⟩
  | toggle _ _ _ _ _ _ _ _ hturn hset =>
    subst hset
    cases hturn with
    | same => exact ⟨sc, hsc, rfl⟩
    | joins => exact ⟨sc, hsc, rfl⟩
    | on => exact ⟨sc, turnOn_kept hsc, rfl⟩
    | joined => exact ⟨sc, turnOn_kept hsc, rfl⟩
    | off => exact own_of_turnOff hsc
  | shutdown _ _ _ _ _ _ _ hturn hset =>
    subst hset
    cases hturn with
    | off => exact own_of_turnOff hsc
    | _ => exact ⟨sc, hsc, rfl⟩

/-- A scanner at work has room for a request, or one that waits already. -/
theorem request_of_works {queued : Bool} (hworks : sc.works = true)
    (h : sc.request = (queued, sc')) :
    sc'.phase = sc.phase ∧ sc'.stopped = sc.stopped ∧ sc'.pending = true ∧
      sc'.owed = sc.owed + queued.toNat := by
  have hended : sc.hasEnded = false := by
    simp only [Scanner.works, decide_eq_true_eq] at hworks
    exact decide_eq_false hworks.2
  simp only [Scanner.request, hended, Bool.false_eq_true, false_or] at h
  cases hpending : sc.pending with
  | true =>
    rw [if_pos hpending] at h
    cases h
    exact ⟨rfl, rfl, hpending, rfl⟩
  | false =>
    rw [if_neg (by simp [hpending])] at h
    cases h
    refine ⟨rfl, rfl, rfl, ?_⟩
    have hafter : ({ sc with pending := true } : Scanner).works = true := hworks
    simp [Scanner.owed, hpending, hafter]

theorem begins?_other (hother : event ≠ .turn (.scanner id)) : w.begins? id event = none := by
  cases event with
  | turn agent =>
    cases agent with
    | call caller => rfl
    | scanner other =>
      have hid : other ≠ id := by
        rintro rfl
        exact hother rfl
      exact if_neg hid
  | _ => rfl

theorem begins?_self (hsc : w.scanners[id]? = some sc) :
    w.begins? id (.turn (.scanner id)) = sc.begins? w.now w.disk w.store := by
  simp only [begins?, if_true, hsc, Option.bind_some]

/-- A request that is made while the store is on reaches the scanner in the slot. -/
theorem asks_of_scan (hcall : w.calls[caller]? = some (.scan .waiting))
    (hon : w.store.enabled = true) (hslot : w.switch.slot = some id)
    (hsc : w.scanners[id]? = some sc)
    (h : w.apply (.turn (.call caller)) = some (w', notices)) :
    notices = [] ∧ w'.scanners[id]? = some sc.request.2 := by
  have hstep : w.step (.call caller) = some (w', notices) := h
  cases step_turn hstep with
  | call hat hturn =>
    cases hcall.symm.trans hat
    cases hturn with
    | scan hturn =>
      cases hturn with
      | asks hfree hother =>
        cases hslot.symm.trans hother
        refine ⟨rfl, ?_⟩
        rw [setCall, requestScan, hsc]
        exact List.getElem?_set_self (List.getElem?_eq_some_iff.mp hsc).1
      | refused hfree hnone =>
        rcases hnone with hnone | hoff
        · cases hslot.symm.trans hnone
        · cases hon.symm.trans hoff

end World
end FileCache
