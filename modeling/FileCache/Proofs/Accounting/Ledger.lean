import FileCache.Proofs.Accounting.Limits

/-!
The count of bytes against the bytes held.

Every event moves both alike, but for one: the refill of an entry takes for granted that
the entry is empty.  What it overwrites stays in the count until the store is cleared.
Only another sweep over the same entry can put anything there, so that the count is exact
as long as sweeps do not overlap.
-/

namespace FileCache

open Store (Alike)

/-- The bytes that the next turn of a sweep overwrites without taking them from the
count. -/
def Sweep.overwritten (s : Store) (sw : Sweep) : Nat :=
  match sw.phase, sw.todo with
  | .refilling copy, id :: _ =>
    if s.isMapped id && s.hasRoom 0 copy.size then s.sizeOf id else 0
  | _, _ => 0

namespace World

def overwritten (w : World) : Event → Nat
  | .turn agent => ((w.sweep? agent).map (Sweep.overwritten w.store)).getD 0
  | _ => 0

/-- How many sweeps are underway at once. -/
def sweepsUnderway (w : World) : Nat :=
  w.agents.countP fun agent => (w.sweep? agent).any Sweep.isUnderway

end World

/-! ## Turns -/

/-- The bytes counted and the bytes held move alike from one store to the next, but for
`lost` bytes that are still counted and no longer held. -/
def Store.Moves (s t : Store) (lost : Nat) : Prop :=
  t.used + s.heldBytes = s.used + t.heldBytes + lost

namespace Store

theorem Alike.moves {s t : Store} (h : Alike s t) : s.Moves t 0 := by
  rw [Moves, h.used, h.heldBytes, Nat.add_zero]

theorem Moves.trans_alike {s t u : Store} {lost : Nat} (h : s.Moves t lost) (k : Alike t u) :
    s.Moves u lost := by
  rw [Moves, k.used, k.heldBytes]
  exact h

/-- An entry changes, and the count is set to `used`. -/
theorem Bounded.moves_revise {s : Store} (hs : s.Bounded) {id : EntryId} (hid : id ∈ s.mapped)
    {change : Entry → Entry} {used size lost : Nat}
    (hsize : (s.revise id change used).sizeOf id = size)
    (hused : used + s.sizeOf id = s.used + size + lost) :
    s.Moves (s.revise id change used) lost := by
  have hheld := heldBytes_revise hs.toOrderly hid change used
  rw [hsize] at hheld
  show used + s.heldBytes = s.used + (s.revise id change used).heldBytes + lost
  omega

end Store

theorem Lookup.Effect.moves {now : Nat} {path : Path} {phase : Lookup} {s t : Store}
    (h : Lookup.Effect now path phase s t) (hs : s.Bounded) : s.Moves t 0 := by
  cases h with
  | nothing h => exact h.moves
  | used id _ h =>
    refine Store.Moves.trans_alike ?_ h
    rw [Store.Moves, Store.heldBytes_markUsed]
    rfl
  | inserted gate copy _ _ h =>
    refine Store.Moves.trans_alike ?_ h
    have hheld := Store.heldBytes_insert hs.toOrderly now path copy
    show s.used + copy.size + s.heldBytes = s.used + (s.insert now path copy).heldBytes + 0
    omega

theorem Store.Bounded.moves_unmap {s : Store} (hs : s.Bounded) {id : EntryId}
    (hid : id ∈ s.mapped) : s.Moves (s.unmap id) 0 := by
  have hheld := Store.heldBytes_unmap hid
  have hle := hs.sizeOf_le_used hid
  show s.used - s.sizeOf id + s.heldBytes = s.used + (s.unmap id).heldBytes + 0
  omega

theorem Store.Bounded.moves_refill {s : Store} (hs : s.Bounded) (now : Nat) (id : EntryId)
    (copy : Copy) :
    s.Moves (s.refill now id copy).1
      (if s.isMapped id && s.hasRoom 0 copy.size then s.sizeOf id else 0) := by
  unfold Store.refill
  by_cases hmapped : s.isMapped id = true
  · have hid := Store.isMapped_iff.mp hmapped
    obtain ⟨e, he⟩ := hs.entry hid
    by_cases hroom : s.hasRoom 0 copy.size = true
    · rw [if_pos hmapped, if_pos hroom, hmapped, hroom]
      refine (hs.moves_revise hid (Store.sizeOf_revise_self he (Entry.replace now copy) _)
        ?_).trans_alike (Store.alike_count .refresh _)
      show s.used + copy.size + s.sizeOf id = s.used + copy.size + s.sizeOf id
      rfl
    · rw [if_pos hmapped, if_neg hroom, hmapped, Bool.eq_false_iff.mpr hroom]
      exact hs.moves_unmap hid
  · rw [if_neg hmapped, Bool.eq_false_iff.mpr hmapped]
    exact (Alike.refl s).moves

/-- But for refills, a turn of a sweep loses nothing. -/
theorem Sweep.Effect.moves {now : Nat} {sw : Sweep} {s t : Store}
    (h : Sweep.Effect now sw s t) (hs : s.Bounded)
    (hphase : ∀ copy, sw.phase ≠ .refilling copy) : s.Moves t 0 := by
  cases h with
  | nothing h => exact h.moves
  | removed id hid _ h => exact (hs.moves_unmap hid).trans_alike h
  | forgotten id hid _ _ h =>
    obtain ⟨e, he⟩ := hs.entry hid
    have hle := hs.sizeOf_le_used hid
    exact (hs.moves_revise hid (Store.sizeOf_revise_self he _ _)
      (by show _ = s.used + 0 + 0; omega)).trans_alike h
  | vacated id hid _ _ h =>
    obtain ⟨e, he⟩ := hs.entry hid
    have hle := hs.sizeOf_le_used hid
    exact (hs.moves_revise hid (Store.sizeOf_revise_self he _ _)
      (by show _ = s.used + 0 + 0; omega)).trans_alike h
  | exchanged id copy hid _ _ _ h =>
    obtain ⟨e, he⟩ := hs.entry hid
    have hle := hs.sizeOf_le_used hid
    exact (hs.moves_revise hid (Store.sizeOf_revise_self he _ _)
      (by show _ = s.used + copy.size + 0; omega)).trans_alike h
  | refilled id copy _ _ hrefilling _ _ => exact absurd hrefilling (hphase copy)

/-- A turn of a sweep loses exactly what it overwrites. -/
theorem Sweep.step_moves {now : Nat} {disk : Disk} {s : Store} {sw : Sweep} {st : Step Sweep}
    (hs : s.Bounded) (hstep : sw.step now disk s = some st) :
    s.Moves st.store (sw.overwritten s) := by
  by_cases hrefilling : ∃ copy, sw.phase = .refilling copy
  · obtain ⟨copy, hphase⟩ := hrefilling
    rcases step_cases hstep with ⟨hlisting, -⟩ | ⟨id, rest, e, htodo, he, -⟩
    · rw [hphase] at hlisting
      cases hlisting
    · simp only [step, hphase, htodo, he, Option.bind_some, visit, Option.some.injEq] at hstep
      subst hstep
      simp only [overwritten, hphase, htodo]
      exact (hs.moves_refill now id copy).trans_alike (alike_conclude _ _ _ _ _ _)
  · have hphase (copy : Copy) : sw.phase ≠ .refilling copy := fun h => hrefilling ⟨copy, h⟩
    have hzero : sw.overwritten s = 0 := by
      unfold overwritten
      split
      · rename_i copy _ _ h _
        exact absurd h (hphase copy)
      · rfl
    rw [hzero]
    exact (step_effect hstep).moves hs hphase

/-! ## Events -/

namespace World

theorem overwritten_eq_zero {w : World} {event : Event}
    (h : ∀ agent sw, event = .turn agent → w.sweep? agent ≠ some sw) :
    w.overwritten event = 0 := by
  cases event with
  | turn agent =>
    have hnone : w.sweep? agent = none :=
      Option.eq_none_iff_forall_ne_some.mpr fun sw => h agent sw rfl
    rw [overwritten, hnone]
    rfl
  | _ => rfl

/-- An event moves the count and the bytes held alike, but for what it overwrites, or it
clears the store. -/
theorem apply_moves {w w' : World} {event : Event} {notices : List Notice} (hw : w.Bounded)
    (happly : w.apply event = some (w', notices)) :
    w.store.Moves w'.store (w.overwritten event) ∨
      (w'.store = w.store.dropAll ∧ w.overwritten event = 0) := by
  by_cases hsweep : ∃ agent sw, event = .turn agent ∧ w.sweep? agent = some sw
  · obtain ⟨agent, sw, rfl, hat⟩ := hsweep
    obtain ⟨st, hturn⟩ := step_sweep hat happly
    have hover : w.overwritten (.turn agent) = sw.overwritten w.store := by
      rw [overwritten, hat]
      rfl
    rw [hover, hturn.store]
    exact .inl (Sweep.step_moves hw.store hturn.step)
  · have hno (agent : Agent) (sw : Sweep) (hevent : event = .turn agent) :
        w.sweep? agent ≠ some sw := fun hat => hsweep ⟨agent, sw, hevent, hat⟩
    rw [overwritten_eq_zero hno]
    cases apply_move happly with
    | idle hstore _ _ _ =>
      rw [hstore]
      exact .inl (Alike.refl _).moves
    | lookup _ _ _ _ _ _ hstep hstore _ _ _ =>
      rw [hstore]
      exact .inl ((Lookup.step_course hstep).effect.moves hw.store)
    | sweep agent sw _ hevent hat _ => exact absurd hat (hno agent sw hevent)
    | clear hstore _ => exact .inr ⟨hstore, rfl⟩
    | switch on hstore _ =>
      rw [hstore]
      exact .inl rfl
    | shuffle order hperm hstore _ =>
      have hsum : ({ w.store with mapped := order } : Store).heldBytes = w.store.heldBytes :=
        (hperm.map w.store.sizeOf).sum_nat
      rw [hstore]
      refine .inl ?_
      show w.store.used + w.store.heldBytes = w.store.used + _ + 0
      rw [hsum, Nat.add_zero]

/-! ## Runs -/

/-- If no event overwrites anything, no byte is counted that is not held. -/
theorem exact_of_nothing_overwritten {disk : Disk} {limits : Limits} {wall : Time.Timestamp}
    {events : List Event}
    (hzero : ∀ v event, (v, event) ∈ (freshOn disk limits wall).happenings events →
      v.overwritten event = 0) :
    ∀ v ∈ (freshOn disk limits wall).passed events, v.store.used = v.store.heldBytes := by
  intro v hv
  have hboth : v.Bounded ∧ v.store.used = v.store.heldBytes := by
    refine passed_induction_of (P := fun v => v.Bounded ∧ v.store.used = v.store.heldBytes)
      (Q := fun v event => v.overwritten event = 0) ?_ hzero
      ⟨.freshOn disk limits wall, rfl⟩ v hv
    rintro u event u' notices hnone ⟨hu, hexact⟩ happly
    refine ⟨hu.move (apply_move happly), ?_⟩
    rcases apply_moves hu happly with hmoves | ⟨hclear, -⟩
    · rw [Store.Moves, hnone] at hmoves
      omega
    · rw [hclear]
      rfl
  exact hboth.2

/-- The count is exact throughout a run from a fresh store if and only if no event of the
run overwrites anything. -/
theorem exact_iff_nothing_overwritten (disk : Disk) (limits : Limits) (wall : Time.Timestamp)
    (events : List Event) :
    (∀ v ∈ (freshOn disk limits wall).passed events, v.store.used = v.store.heldBytes) ↔
      ∀ v event, (v, event) ∈ (freshOn disk limits wall).happenings events →
        v.overwritten event = 0 := by
  constructor
  · intro hexact v event h
    obtain ⟨hv, v', notices, happly, hv'⟩ := passed_of_mem_happenings h
    have hbefore := hexact v hv
    have hafter := hexact v' hv'
    rcases apply_moves (Bounded.passed v hv) happly with hmoves | ⟨-, hzero⟩
    · rw [Store.Moves] at hmoves
      omega
    · exact hzero
  · exact exact_of_nothing_overwritten

/-- Two sweeps over one entry leave 4 bytes in the count that no entry holds. -/
theorem overlap_inexact :
    ∃ v ∈ (freshOn Disk.empty ⟨7, 10, 1000⟩ ⟨0, 0⟩).passed overlap,
      v.store.used = 8 ∧ v.store.heldBytes = 4 := by
  have hrun : (((freshOn Disk.empty ⟨7, 10, 1000⟩ ⟨0, 0⟩).run overlap).map fun r =>
      (r.1.store.used, r.1.store.heldBytes)) = some (8, 4) := by decide +kernel
  obtain ⟨⟨v, notices⟩, hrun, hcounts⟩ := Option.map_eq_some_iff.mp hrun
  obtain ⟨hused, hheld⟩ := Prod.mk.inj hcounts
  exact ⟨v, mem_passed_of_run hrun, hused, hheld⟩

end World

/-! ## One sweep at a time -/

namespace Sweep

/-- The content of the entry at hand was given up, and the new one is not there yet. -/
def isRefilling (sw : Sweep) : Bool :=
  match sw.phase with
  | .reloading _ | .refilling _ => true
  | _ => false

/-- If the sweep is about to refill its entry, the entry holds nothing. -/
def Vacant (s : Store) (sw : Sweep) : Prop :=
  sw.isRefilling = true → ∀ id, sw.todo.head? = some id → ∃ e, s.entry? id = some e ∧ e.size = 0

theorem Vacant.overwritten {s : Store} {sw : Sweep} (h : sw.Vacant s) :
    sw.overwritten s = 0 := by
  unfold Sweep.overwritten
  split
  · rename_i copy id rest hphase htodo
    obtain ⟨e, he, hsize⟩ := h (by simp only [isRefilling, hphase]) id (by rw [htodo]; rfl)
    split
    · rw [Store.sizeOf_eq he, hsize]
    · rfl
  · rfl

theorem Vacant.of_entries {s t : Store} {sw : Sweep} (h : sw.Vacant s)
    (hentries : t.entries = s.entries) : sw.Vacant t := by
  intro hrefilling id hhead
  obtain ⟨e, he, hsize⟩ := h hrefilling id hhead
  exact ⟨e, by rw [Store.entry?, hentries]; exact he, hsize⟩

/-- A lookup gives an entry no new content. -/
theorem Vacant.lookup {now : Nat} {path : Path} {phase : Lookup} {s t : Store} {sw : Sweep}
    (h : sw.Vacant s) (heffect : Lookup.Effect now path phase s t) : sw.Vacant t := by
  cases heffect with
  | nothing halike => exact h.of_entries halike.entries
  | used other _ halike =>
    refine of_entries ?_ halike.entries
    intro hrefilling id hhead
    obtain ⟨e, he, hsize⟩ := h hrefilling id hhead
    by_cases hid : other = id
    · subst hid
      exact ⟨e.markUsed now, Store.entry?_revise_self he _ s.used, hsize⟩
    · exact ⟨e, by rw [Store.markUsed_eq_revise, Store.entry?_revise_of_ne hid, he], hsize⟩
  | inserted gate copy _ _ halike =>
    refine of_entries ?_ halike.entries
    intro hrefilling id hhead
    obtain ⟨e, he, hsize⟩ := h hrefilling id hhead
    have hlt : id < s.entries.length := (List.getElem?_eq_some_iff.mp he).1
    exact ⟨e, by rw [Store.entry?_insert_of_lt hlt, he], hsize⟩

theorem not_refilling_proceed (sw : Sweep) (todo : List EntryId) (s : Store)
    (notices : List Notice) : (sw.proceed todo s notices).next.isRefilling = false := by
  cases todo <;> rfl

/-- A sweep empties an entry before it reads the new content, and its own turns put
nothing there until the refill. -/
theorem Vacant.step {now : Nat} {disk : Disk} {s : Store} {sw : Sweep} {st : Step Sweep}
    (h : sw.Vacant s) (hstep : sw.step now disk s = some st) : st.next.Vacant st.store := by
  rcases step_cases hstep with ⟨-, rfl⟩ | ⟨id, rest, e, htodo, he, hvisit⟩
  · intro hrefilling
    rw [not_refilling_proceed] at hrefilling
    cases hrefilling
  · rcases hvisit with ⟨hcourse⟩ | ⟨hending⟩
    · rename_i phase t notices
      have hhead : sw.todo.head? = some id := by rw [htodo]; rfl
      generalize hphase : sw.phase = before at hcourse
      intro hrefilling other hother
      rw [htodo, List.head?_cons, Option.some.injEq] at hother
      subst hother
      cases hcourse with
      | vacate hvacate =>
        unfold Store.vacate? at hvacate
        split at hvacate
        · cases hvacate
          exact ⟨e.vacate, Store.entry?_revise_self he _ _, rfl⟩
        · cases hvacate
      | reread hread hgo => exact h (by simp only [isRefilling, hphase]) id hhead
      | reloaded hread => exact h (by simp only [isRefilling, hphase]) id hhead
      | _ => cases hrefilling
    · intro hrefilling
      rw [conclude, not_refilling_proceed] at hrefilling
      cases hrefilling

theorem isUnderway_of_isRefilling {sw : Sweep} (h : sw.isRefilling = true) :
    sw.isUnderway = true := by
  unfold isRefilling at h
  unfold isUnderway
  split at h
  · rename_i hphase
    simp [hphase]
  · rename_i hphase
    simp [hphase]
  · cases h

/-- A sweep that is not underway takes its list at most, and leaves the store alone. -/
theorem alike_of_not_underway {now : Nat} {disk : Disk} {s : Store} {sw : Sweep}
    {st : Step Sweep} (h : sw.isUnderway = false) (hstep : sw.step now disk s = some st) :
    Alike s st.store := by
  rcases step_cases hstep with ⟨-, rfl⟩ | ⟨id, rest, e, htodo, he, -⟩
  · exact alike_proceed _ _ _ _
  · cases hphase : sw.phase with
    | listing =>
      simp only [step, hphase, Option.some.injEq] at hstep
      subst hstep
      exact alike_proceed _ _ _ _
    | finished =>
      simp only [step, hphase, htodo, he, Option.bind_some, visit] at hstep
      cases hstep
    | _ => simp [isUnderway, hphase] at h

end Sweep

namespace World

theorem mem_agents_of_sweep {w : World} {agent : Agent} {sw : Sweep}
    (h : w.sweep? agent = some sw) : agent ∈ w.agents := by
  cases agent with
  | call id =>
    obtain ⟨call, hcall, -⟩ := Option.bind_eq_some_iff.mp h
    exact call_mem_agents hcall
  | scanner id =>
    obtain ⟨sc, hsc, -⟩ := Option.bind_eq_some_iff.mp h
    exact scanner_mem_agents hsc

/-- While one sweep at most is underway, a sweep beside one that is underway is not. -/
theorem not_underway_of_ne {w : World} (h : w.sweepsUnderway ≤ 1) {a b : Agent} {sw sw' : Sweep}
    (ha : w.sweep? a = some sw) (hunderway : sw.isUnderway = true)
    (hb : w.sweep? b = some sw') (hne : a ≠ b) : sw'.isUnderway = false := by
  refine Bool.eq_false_iff.mpr fun hboth => ?_
  rw [sweepsUnderway, List.countP_eq_length_filter] at h
  have hmem {agent : Agent} {sw : Sweep} (hat : w.sweep? agent = some sw)
      (hsw : sw.isUnderway = true) :
      agent ∈ w.agents.filter fun agent => (w.sweep? agent).any Sweep.isUnderway :=
    List.mem_filter.mpr ⟨mem_agents_of_sweep hat, by rw [hat]; exact hsw⟩
  have hin := hmem ha hunderway
  have hin' := hmem hb hboth
  match hlist : w.agents.filter fun agent => (w.sweep? agent).any Sweep.isUnderway with
  | [] => rw [hlist] at hin; cases hin
  | [only] =>
    rw [hlist, List.mem_singleton] at hin hin'
    exact hne (hin.trans hin'.symm)
  | _ :: _ :: _ =>
    rw [hlist, List.length_cons, List.length_cons] at h
    omega

/-- Every sweep that is about to refill an entry finds it empty. -/
def Vacant (w : World) : Prop := ∀ agent sw, w.sweep? agent = some sw → sw.Vacant w.store

theorem Vacant.of_undisturbed {w w' : World} (h : w.Vacant) (hsame : Undisturbed w w')
    (hentries : w'.store.entries = w.store.entries) : w'.Vacant := fun agent sw hat =>
  (h agent sw (hsame.sweep? ▸ hat)).of_entries hentries

theorem Vacant.move {w w' : World} {event : Event} (h : w.Vacant) (halone : w.sweepsUnderway ≤ 1)
    (hmove : Move w event w') : w'.Vacant := by
  cases hmove with
  | idle hstore _ _ hsweeps =>
    intro agent sw hat
    rw [hstore]
    rcases hsweeps agent sw hat with hold | rfl
    · exact h agent sw hold
    · intro hrefilling
      cases hrefilling
  | lookup _ _ _ _ _ _ hstep hstore _ _ hsweeps =>
    intro agent sw hat
    rw [hstore]
    exact (h agent sw (hsweeps ▸ hat)).lookup (Lookup.step_course hstep).effect
  | sweep agent sw st _ hat hturn =>
    intro other sw' hother
    rw [hturn.store]
    by_cases hagent : other = agent
    · subst hagent
      rw [hturn.next sw' hother]
      exact (h other sw hat).step hturn.step
    · rw [hturn.others other hagent] at hother
      intro hrefilling
      -- another sweep is underway, so that the one whose turn it is was not
      have hnot : sw.isUnderway = false :=
        not_underway_of_ne halone hother (Sweep.isUnderway_of_isRefilling hrefilling) hat hagent
      have halike := Sweep.alike_of_not_underway hnot hturn.step
      exact (h other sw' hother).of_entries halike.entries hrefilling
  | clear hstore hsame => exact h.of_undisturbed hsame (by rw [hstore]; rfl)
  | switch on hstore hsame => exact h.of_undisturbed hsame (by rw [hstore])
  | shuffle order _ hstore hsame => exact h.of_undisturbed hsame (by rw [hstore])

theorem Vacant.overwritten {w : World} (h : w.Vacant) (event : Event) :
    w.overwritten event = 0 := by
  cases event with
  | turn agent =>
    rw [World.overwritten]
    cases hat : w.sweep? agent with
    | none => rfl
    | some sw => exact (h agent sw hat).overwritten
  | _ => rfl

/-- As long as one sweep at most is underway at a time, the count of a store that was fresh
is the sum of what its entries hold. -/
theorem exact_of_one_sweep (disk : Disk) (limits : Limits) (wall : Time.Timestamp)
    (events : List Event)
    (halone : ∀ v ∈ (freshOn disk limits wall).passed events, v.sweepsUnderway ≤ 1) :
    ∀ v ∈ (freshOn disk limits wall).passed events, v.store.used = v.store.heldBytes := by
  have hvacant : ∀ v ∈ (freshOn disk limits wall).passed events, v.Vacant :=
    passed_induction_of (Q := fun v _ => v.sweepsUnderway ≤ 1)
      (fun _ _ _ _ hone h happly => h.move hone (apply_move happly))
      (fun v event hv => halone v (passed_of_mem_happenings hv).1)
      (by rintro (id | id) sw hat <;> cases hat)
  refine exact_of_nothing_overwritten fun v event hv => ?_
  exact (hvacant v (passed_of_mem_happenings hv).1).overwritten event

/-- The two sweeps of `overlap`, one after the other, with the refill in the first. -/
def inTurn : List Event :=
  overlap.take 23 ++ List.replicate 4 (Event.turn (.call 2)) ++
  List.replicate 4 (Event.turn (.call 3))

theorem exact_of_one_sweep_inTurn :
    ∃ v ∈ (freshOn Disk.empty ⟨7, 10, 1000⟩ ⟨0, 0⟩).passed inTurn,
      v.store.tally.refreshes = 1 ∧ v.store.used = v.store.heldBytes := by
  have hrun : (((freshOn Disk.empty ⟨7, 10, 1000⟩ ⟨0, 0⟩).run inTurn).map fun r =>
      r.1.store.tally.refreshes) = some 1 := by decide +kernel
  obtain ⟨⟨v, notices⟩, hrun, hrefreshed⟩ := Option.map_eq_some_iff.mp hrun
  have hv := mem_passed_of_run hrun
  have halone : ∀ u ∈ (freshOn Disk.empty ⟨7, 10, 1000⟩ ⟨0, 0⟩).passed inTurn,
      u.sweepsUnderway ≤ 1 := by decide +kernel
  exact ⟨v, hv, hrefreshed,
    exact_of_one_sweep Disk.empty ⟨7, 10, 1000⟩ ⟨0, 0⟩ inTurn halone v hv⟩

end World
end FileCache
