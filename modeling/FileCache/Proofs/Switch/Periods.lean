import FileCache.Proofs.Switch.Exclusive
import FileCache.Proofs.Switch.Off

/-!
The periods in which a store is on do not overlap.

Each begins with a scanner of its own, after the one before has come to its end, and has cleared
the store if the clock could hold its deadlines.  So what is in the map of a store that is on came
into it in the same period, and a scanner that clears the store does so in or after its own period,
before the next begins.
-/

namespace FileCache
namespace World

/-- Whether an event turns the store on. -/
def enables (w : World) (event : Event) : Bool :=
  !w.store.enabled && (w.apply event).any fun r => r.1.store.enabled

/-- The events of a run that turn the store on, each with the world it finds. -/
def enablings (w : World) (events : List Event) : List (World × Event) :=
  (w.happenings events).filter fun h => h.1.enables h.2

/-- In the course of the events the scanner has cleared the store. -/
def Cleared (w : World) (events : List Event) (id : ScannerId) : Prop :=
  ∃ (u : World) (sc : Scanner), (u, .turn (.scanner id)) ∈ w.happenings events ∧
    u.scanners[id]? = some sc ∧ sc.phase = .clearing

variable {w w' v v' : World} {event : Event} {events : List Event} {notices more : List Notice}
  {id : ScannerId} {sc : Scanner}

theorem enables_eq (happly : v.apply event = some (v', more)) :
    v.enables event = (!v.store.enabled && v'.store.enabled) := by
  rw [enables, happly, Option.any_some]

theorem enablings_snoc (hrun : w.run events = some (v, notices))
    (happly : v.apply event = some (v', more)) :
    w.enablings (events ++ [event]) =
      w.enablings events ++ if v.enables event then [(v, event)] else [] := by
  rw [enablings, happenings_snoc hrun happly, List.filter_append, enablings]
  cases h : v.enables event <;> simp [h]

/-! ## Scanners -/

theorem scanner_of_turnOff (hsc : w.turnOff.scanners[id]? = some sc) :
    ∃ old, w.scanners[id]? = some old ∧ sc.phase = old.phase ∧ sc.deadline = old.deadline ∧
      sc.own = old.own := by
  rw [turnOff_scanner] at hsc
  obtain ⟨old, hold, rfl⟩ := Option.map_eq_some_iff.mp hsc
  refine ⟨old, hold, ?_⟩
  split <;> exact ⟨rfl, rfl, rfl⟩

theorem ToggleTurn.scanner {on : Bool} {phase next : Toggle}
    (h : ToggleTurn w on phase next v notices) (hsc : v.scanners[id]? = some sc) :
    (sc = Scanner.fresh true ∧ v.store.enabled = true ∧
        (phase = .waiting → w.store.enabled = false)) ∨
      ∃ old, w.scanners[id]? = some old ∧ sc.phase = old.phase ∧ sc.deadline = old.deadline ∧
        sc.own = old.own := by
  have hkept (hold : w.scanners[id]? = some sc) : ∃ old, w.scanners[id]? = some old ∧
      sc.phase = old.phase ∧ sc.deadline = old.deadline ∧ sc.own = old.own :=
    ⟨sc, hold, rfl, rfl, rfl⟩
  cases h with
  | same => exact .inr (hkept hsc)
  | joins => exact .inr (hkept hsc)
  | on _ hoff => exact (turnOn_scanner hsc).symm.imp (⟨·.2, rfl, fun _ => hoff⟩) hkept
  | joined => exact (turnOn_scanner hsc).symm.imp (⟨·.2, rfl, nofun⟩) hkept
  | off => exact .inr (scanner_of_turnOff hsc)

theorem ShutdownTurn.scanner {phase next : Shutdown} (h : ShutdownTurn w phase next v notices)
    (hsc : v.scanners[id]? = some sc) :
    ∃ old, w.scanners[id]? = some old ∧ sc.phase = old.phase ∧ sc.deadline = old.deadline ∧
      sc.own = old.own := by
  cases h with
  | off => exact scanner_of_turnOff hsc
  | _ => exact ⟨sc, hsc, rfl, rfl, rfl⟩

/-- A scanner that has ended had ended before, or has just cleared the store. -/
theorem SwitchMove.ended (h : SwitchMove w event w') (htime : w.HasTime)
    (hsc : w'.scanners[id]? = some sc) (hended : sc.phase = .ended) :
    ∃ old, w.scanners[id]? = some old ∧
      (old.phase = .ended ∨ (event = .turn (.scanner id) ∧ old.phase = .clearing)) := by
  cases h with
  | quiet h =>
    rcases h.scanners id sc hsc with rfl | ⟨old, hold, honward⟩
    · cases hended
    · refine ⟨old, hold, ?_⟩
      cases honward with
      | rests _ _ hphase _ => exact .inl (hphase ▸ hended)
      | goes hevent hturn _ => exact .inr ⟨hevent, (hturn.ended htime hended).1⟩
      | stops _ => exact .inl hended
  | toggle _ _ _ _ _ _ _ _ hturn h =>
    subst h
    rcases hturn.scanner hsc with ⟨rfl, -⟩ | ⟨old, hold, hphase, -⟩
    · cases hended
    · exact ⟨old, hold, .inl (hphase ▸ hended)⟩
  | shutdown _ _ _ _ _ _ _ hturn h =>
    subst h
    obtain ⟨old, hold, hphase, -⟩ := hturn.scanner hsc
    exact ⟨old, hold, .inl (hphase ▸ hended)⟩

theorem cleared_of_ended {disk : Disk} {limits : Limits} {wall : Time.Timestamp}
    (hrun : (freshOn disk limits wall).run events = some (v, notices)) (htime : v.HasTime) :
    ∀ (id : ScannerId) (sc : Scanner), v.scanners[id]? = some sc → sc.phase = .ended →
      (freshOn disk limits wall).Cleared events id := by
  refine run_induction (P := fun events v => v.HasTime → ∀ (id : ScannerId) (sc : Scanner),
    v.scanners[id]? = some sc → sc.phase = .ended →
      (freshOn disk limits wall).Cleared events id) (fun _ _ _ h => by cases h) ?_ hrun htime
  intro before u event u' first more hbefore happly hu htime id sc hsc hended
  have hearlier := htime.before happly
  obtain ⟨old, hold, hphase⟩ := (apply_switchMove happly).ended hearlier hsc hended
  rw [Cleared, happenings_snoc hbefore happly]
  rcases hphase with hphase | ⟨rfl, hphase⟩
  · obtain ⟨x, sc', hmem, hat, hclears⟩ := hu hearlier id old hold hphase
    exact ⟨x, sc', List.mem_append_left _ hmem, hat, hclears⟩
  · exact ⟨u, old, List.mem_append_right _ (List.mem_singleton.mpr rfl), hold, hphase⟩

/-- Turning the store on starts one scanner, and nothing else does. -/
theorem Exclusive.spawned (hw : w.Exclusive) (happly : w.apply event = some (w', notices)) :
    w'.scanners.countP (·.own) =
      w.scanners.countP (·.own) + if w.enables event then 1 else 0 := by
  have hturnOn (hoff : w.store.enabled = false) (hon : w'.store.enabled = true)
      (h : w'.scanners = w.scanners ++ [Scanner.fresh true]) :
      w'.scanners.countP (·.own) =
        w.scanners.countP (·.own) + if w.enables event then 1 else 0 := by
    rw [enables_eq happly, hoff, hon, h, List.countP_append]
    rfl
  have hothers (hsame : w.store.enabled = true ∨ w'.store.enabled = false)
      (h : w'.scanners.countP (·.own) = w.scanners.countP (·.own)) :
      w'.scanners.countP (·.own) =
        w.scanners.countP (·.own) + if w.enables event then 1 else 0 := by
    have hnot : w.enables event = false := by
      rw [enables_eq happly]
      rcases hsame with hsame | hsame <;> simp [hsame]
    rw [hnot, h]
    rfl
  have hkept : w.store.enabled = true ∨ w.store.enabled = false := by
    cases w.store.enabled <;> simp
  cases apply_switchMove happly with
  | quiet h => exact hothers (h.enabled ▸ hkept) h.own
  | toggle caller on phase next v _ _ hcaller hturn hset =>
    subst hset
    cases hturn with
    | same => exact hothers hkept rfl
    | joins => exact hothers hkept rfl
    | on _ hoff _ => exact hturnOn hoff rfl rfl
    | off _ hon => exact hothers (.inl hon) (turnOff_own w)
    | joined => exact hturnOn ((hw.fits caller _ hcaller).off rfl) rfl rfl
  | shutdown caller phase next v _ _ _ hturn hset =>
    subst hset
    cases hturn with
    | off _ hon => exact hothers (.inl hon) (turnOff_own w)
    | _ => exact hothers hkept rfl

/-! ## Runs -/

/-- As to the periods so far: what is in the map came into it after the store was last turned
on, as long as the clock has time for a deadline, and every time it was turned on it started a
scanner. -/
structure Periods (w : World) (events : List Event) (v : World) : Prop where
  current : v.store.enabled = true → ∃ u event, (w.enablings events).getLast? = some (u, event) ∧
    u.store.entries.length ≤ v.store.entries.length ∧
    (v.HasTime → ∀ id ∈ v.store.mapped, u.store.entries.length ≤ id)
  spawned : v.scanners.countP (·.own) = (w.enablings events).length

variable {disk : Disk} {limits : Limits} {wall : Time.Timestamp}

theorem periods_snoc (hrun : (freshOn disk limits wall).run events = some (v, notices))
    (hv : (freshOn disk limits wall).Periods events v) (hexclusive : v.Exclusive)
    (hapart : v.Apart event) (happly : v.apply event = some (v', more)) :
    (freshOn disk limits wall).Periods (events ++ [event]) v' where
  current hon := by
    have hmove := apply_move happly
    rw [enablings_snoc hrun happly, enables_eq happly, hon]
    cases hbefore : v.store.enabled with
    | false =>
      -- the scanners of the periods before have ended, so the map is empty
      have hended := hexclusive.ended_of_enabling hapart happly hbefore hon
      have hguarded := Guarded.passed v (mem_passed_of_run hrun)
      refine ⟨v, event, List.getLast?_concat, hmove.grows, fun htime id hid => ?_⟩
      have hbare := hguarded.bare (htime.before happly) hbefore hended
      rcases hmove.mapped_new hid with hold | ⟨-, hon'⟩
      · rw [hbare.mapped] at hold
        cases hold
      · cases hbefore.symm.trans hon'
    | true =>
      obtain ⟨u, start, hlast, hlength, hmapped⟩ := hv.current hbefore
      refine ⟨u, start, ?_, Nat.le_trans hlength hmove.grows, fun htime id hid => ?_⟩
      · exact (congrArg List.getLast? (List.append_nil _)).trans hlast
      · rcases hmove.mapped_new hid with hold | ⟨rfl, -⟩
        · exact hmapped (htime.before happly) id hold
        · exact hlength
  spawned := by
    rw [hexclusive.spawned happly, enablings_snoc hrun happly, List.length_append, hv.spawned]
    cases v.enables event <;> rfl

theorem periods_of_run (hrun : (freshOn disk limits wall).run events = some (v, notices))
    (hapart : ∀ h ∈ (freshOn disk limits wall).happenings events, h.1.Apart h.2) :
    (freshOn disk limits wall).Periods events v := by
  refine run_induction (P := fun events v =>
    (∀ h ∈ (freshOn disk limits wall).happenings events, h.1.Apart h.2) →
      (freshOn disk limits wall).Periods events v) ?_ ?_ hrun hapart
  · intro _
    constructor
    · intro hon
      cases hon
    · rfl
  · intro before u event u' first more hbefore happly hu hapart
    rw [happenings_snoc hbefore happly] at hapart
    have hnow := hapart (u, event) (List.mem_append_right _ (List.mem_singleton.mpr rfl))
    have hearlier (h : World × Event)
        (hmem : h ∈ (freshOn disk limits wall).happenings before) : h.1.Apart h.2 :=
      hapart h (List.mem_append_left _ hmem)
    have hexclusive := Exclusive.passed hearlier u (mem_passed_of_run hbefore)
    exact periods_snoc hbefore (hu hearlier) hexclusive hnow happly

/-- However many calls turn the store on and off at a time, as long as shutdowns keep apart
from them and from each other: at most one scanner of the store's own has not ended; the store
is turned on only after all of them have ended, and have cleared it if the clock could hold the
deadlines of each; what is in the map of a store that is on came into it after it was last turned
on, under the same condition; a scanner clears a store that is off, before the next one is started;
and as many scanners were started as the store was turned on. -/
theorem periods_disjoint (disk : Disk) (limits : Limits) (wall : Time.Timestamp)
    (events : List Event) (v : World) (notices : List Notice)
    (hrun : (freshOn disk limits wall).run events = some (v, notices))
    (hapart : ∀ h ∈ (freshOn disk limits wall).happenings events, h.1.Apart h.2) :
    (∀ id other, v.Unended id → v.Unended other → id = other) ∧
    (∀ event v' more, v.apply event = some (v', more) → v.Apart event →
      v.store.enabled = false → v'.store.enabled = true →
      ∀ id, v.Owns id → ¬ v.Unended id ∧
        (v.now + Scanner.period limits ≤ Scanner.lastMoment →
          (freshOn disk limits wall).Cleared events id)) ∧
    (v.store.enabled = true →
      ∃ u event, ((freshOn disk limits wall).enablings events).getLast? = some (u, event) ∧
        (v.now + Scanner.period limits ≤ Scanner.lastMoment →
          ∀ id ∈ v.store.mapped, u.store.entries.length ≤ id)) ∧
    (∀ u id sc, (u, .turn (.scanner id)) ∈ (freshOn disk limits wall).happenings events →
      u.scanners[id]? = some sc → sc.own = true → sc.phase = .clearing →
      u.store.enabled = false ∧ ∀ other, u.Owns other → other ≤ id) ∧
    v.scanners.countP (·.own) = ((freshOn disk limits wall).enablings events).length := by
  have hexclusive := Exclusive.passed hapart
  have hv := hexclusive v (mem_passed_of_run hrun)
  have hperiods := periods_of_run hrun hapart
  have hlimits : v.store.limits = limits := limits_passed v (mem_passed_of_run hrun)
  refine ⟨fun id other => hv.unique, ?_, fun hon => ?_, ?_, hperiods.spawned⟩
  · intro event v' more happly hnow hoff hon id hid
    have hended := hv.ended_of_enabling hnow happly hoff hon id
    obtain ⟨sc, hsc, hown⟩ := hid
    have hphase : sc.phase = .ended :=
      Decidable.byContradiction fun hphase => hended ⟨sc, hsc, hown, hphase⟩
    exact ⟨hended, fun htime =>
      cleared_of_ended hrun ((hasTime_iff hlimits).mpr htime) id sc hsc hphase⟩
  · obtain ⟨u, event, hlast, -, hmapped⟩ := hperiods.current hon
    exact ⟨u, event, hlast, fun htime => hmapped ((hasTime_iff hlimits).mpr htime)⟩
  · intro u id sc hmem hsc hown hclears
    have hu := hexclusive u (passed_of_mem_happenings hmem).1
    have hid : u.Unended id := ⟨sc, hsc, hown, by rw [hclears]; nofun⟩
    exact ⟨hu.off_of_clearing hsc hown hclears, fun other => hu.last id other hid⟩

/-- Three periods.  Two calls turn the store on again while the first scanner is still in a
sweep, and a shutdown ends the second period. -/
def thrice : List Event :=
  [Event.edit (.write "a" [1] ⟨1, 0⟩), .call (.toggle true), .turn (.call 0),
    .call (.lookup ⟨"a"⟩)] ++
  List.replicate 10 (Event.turn (.call 1)) ++ [Event.turn (.scanner 0), .elapse 1000] ++
  List.replicate 2 (Event.turn (.scanner 0)) ++ [Event.call (.toggle false), .turn (.call 2),
    .call (.toggle true), .call (.toggle true), .turn (.call 3)] ++
  List.replicate 5 (Event.turn (.scanner 0)) ++ [Event.turn (.call 3), .turn (.call 4),
    .call (.lookup ⟨"a"⟩)] ++ List.replicate 10 (Event.turn (.call 5)) ++
  [Event.call .shutdown, .turn (.call 6), .turn (.call 6)] ++
  List.replicate 3 (Event.turn (.scanner 1)) ++ [Event.turn (.call 6), .call (.toggle true),
    .turn (.call 7), .call (.lookup ⟨"a"⟩)] ++ List.replicate 10 (Event.turn (.call 8))

theorem periods_disjoint_thrice :
    (∀ h ∈ (freshOn Disk.empty ⟨7, 10, 1000⟩ ⟨0, 0⟩).happenings thrice, h.1.Apart h.2) ∧
    ∃ v notices, (freshOn Disk.empty ⟨7, 10, 1000⟩ ⟨0, 0⟩).run thrice = some (v, notices) ∧
      v.now + Scanner.period ⟨7, 10, 1000⟩ ≤ Scanner.lastMoment ∧ v.store.mapped = [2] ∧
      (∀ id other, v.Unended id → v.Unended other → id = other) ∧
      (∃ u event, ((freshOn Disk.empty ⟨7, 10, 1000⟩ ⟨0, 0⟩).enablings thrice).getLast? =
        some (u, event) ∧ u.store.entries.length ≤ 2) ∧
      v.scanners.countP (·.own) = 3 ∧
      ((freshOn Disk.empty ⟨7, 10, 1000⟩ ⟨0, 0⟩).enablings thrice).length = 3 := by
  have hapart : ∀ h ∈ (freshOn Disk.empty ⟨7, 10, 1000⟩ ⟨0, 0⟩).happenings thrice,
      h.1.Apart h.2 := by decide +kernel
  have hrun : ((freshOn Disk.empty ⟨7, 10, 1000⟩ ⟨0, 0⟩).run thrice).map (fun r =>
      (r.1.store.enabled, r.1.now, r.1.store.mapped, r.1.scanners.countP (·.own))) =
      some (true, 1000, [2], 3) := by decide +kernel
  obtain ⟨⟨v, notices⟩, hrun, hend⟩ := Option.map_eq_some_iff.mp hrun
  simp only [Prod.mk.injEq] at hend
  obtain ⟨hon, hnow, hmapped, hthree⟩ := hend
  have htime : v.now + Scanner.period ⟨7, 10, 1000⟩ ≤ Scanner.lastMoment := by
    rw [hnow]
    decide
  obtain ⟨hunique, -, hcurrent, -, hcount⟩ :=
    periods_disjoint Disk.empty ⟨7, 10, 1000⟩ ⟨0, 0⟩ thrice v notices hrun hapart
  obtain ⟨u, event, hlast, hids⟩ := hcurrent hon
  have htwo := hids htime 2 (hmapped ▸ List.mem_singleton.mpr rfl)
  exact ⟨hapart, v, notices, hrun, htime, hmapped, hunique, ⟨u, event, hlast, htwo⟩, hthree,
    hcount ▸ hthree⟩

/-- A file is cached after the first scanner has broken off; the store is turned off, and on
again. -/
def inherited : List Event := abandoned ++ [.call (.toggle true)] ++
  List.replicate 2 (Event.turn (.call 3))

/-- The scanner of the first period has not cleared the store, and what came into the map in that
period is there in the second. -/
theorem inherited_overlaps :
    (∀ h ∈ (freshOn Disk.empty endless ⟨0, 0⟩).happenings inherited, h.1.Apart h.2) ∧
    ∃ v u event, v ∈ (freshOn Disk.empty endless ⟨0, 0⟩).passed inherited ∧
      v.store.enabled = true ∧ v.Owns 0 ∧
      ¬ (freshOn Disk.empty endless ⟨0, 0⟩).Cleared inherited 0 ∧
      ((freshOn Disk.empty endless ⟨0, 0⟩).enablings inherited).getLast? = some (u, event) ∧
      0 ∈ v.store.mapped ∧ 0 < u.store.entries.length := by
  have hapart : ∀ h ∈ (freshOn Disk.empty endless ⟨0, 0⟩).happenings inherited,
      h.1.Apart h.2 := by decide +kernel
  have hends : ((freshOn Disk.empty endless ⟨0, 0⟩).run inherited).map (fun r =>
      (r.1.store.enabled, r.1.store.mapped, r.1.scanners.map (·.own))) =
      some (true, [0], [true, true]) := by decide +kernel
  have hlast : (((freshOn Disk.empty endless ⟨0, 0⟩).enablings inherited).getLast?).map
      (fun h => h.1.store.entries.length) = some 1 := by decide +kernel
  have hclears : ∀ h ∈ (freshOn Disk.empty endless ⟨0, 0⟩).happenings inherited,
      h.2.isTurnOf (.scanner 0) = true →
        (h.1.scanners[0]?).map (·.phase) ≠ some .clearing := by decide +kernel
  obtain ⟨⟨v, notices⟩, hrun, hend⟩ := Option.map_eq_some_iff.mp hends
  simp only [Prod.mk.injEq] at hend
  obtain ⟨hon, hmapped, hscanners⟩ := hend
  obtain ⟨⟨u, event⟩, hlast, hlength⟩ := Option.map_eq_some_iff.mp hlast
  have hown : (v.scanners.map (·.own))[0]? = some true := by rw [hscanners]; rfl
  rw [List.getElem?_map] at hown
  refine ⟨hapart, v, u, event, mem_passed_of_run hrun, hon, Option.map_eq_some_iff.mp hown, ?_,
    hlast, hmapped ▸ List.mem_singleton.mpr rfl, hlength ▸ Nat.one_pos⟩
  rintro ⟨x, sc, hmem, hsc, hphase⟩
  exact hclears _ hmem (by simp [Event.isTurnOf]) (by rw [hsc, Option.map_some, hphase])

end World
end FileCache
