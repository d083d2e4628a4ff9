import FileCache.Proofs.Gates.Passage
import FileCache.Proofs.World.Sound

/-!
One lookup at a time loads a path, and no gate outlives the lookups that know it.

A gate counts the lookups that know it.  So long as there is one, newcomers for the path find
the gate; the last one to leave takes it out of the list.  Whoever has passed the gate keeps it
locked until it has its answer.
-/

namespace FileCache

namespace World

/-! ## Who knows a gate, and who keeps it locked -/

/-- A lookup of the path has something to do with the gate. -/
def At (w : World) (about : Lookup → Option GateId) (id : CallId) (path : Path) (g : GateId) :
    Prop :=
  ∃ phase, w.lookup? id = some (path, phase) ∧ about phase = some g

def Knows (w : World) : CallId → Path → GateId → Prop := w.At Lookup.gate?

def Holds (w : World) : CallId → Path → GateId → Prop := w.At Lookup.held?

def Loads (w : World) (id : CallId) (path : Path) : Prop :=
  ∃ phase, w.lookup? id = some (path, phase) ∧ phase.loads = true

variable {w w' : World} {event : Event} {about : Lookup → Option GateId} {id other : CallId}
  {path q : Path} {g gate : GateId} {phase next : Lookup}

theorem Holds.knows (h : w.Holds id path g) : w.Knows id path g := by
  obtain ⟨phase, hat, hheld⟩ := h
  exact ⟨phase, hat, Lookup.gate?_of_held hheld⟩

theorem Loads.holds (h : w.Loads id path) : ∃ g, w.Holds id path g := by
  obtain ⟨phase, hat, hloads⟩ := h
  obtain ⟨g, hheld⟩ := Lookup.held_of_loads hloads
  exact ⟨g, phase, hat, hheld⟩

theorem At.eq_of_lookup? (h : w.At about id q g) (hat : w.lookup? id = some (path, phase)) :
    q = path ∧ about phase = some g := by
  obtain ⟨phase', hat', habout⟩ := h
  cases hat.symm.trans hat'
  exact ⟨rfl, habout⟩

/-- After the turn of a lookup that has to do with the same gate as before, if with any. -/
theorem at_iff_of_same (hat : w.lookup? id = some (path, phase))
    (hnext : w'.lookup? id = some (path, next))
    (hothers : ∀ other, other ≠ id → w'.lookup? other = w.lookup? other)
    (hsame : about next = about phase) : w'.At about other q g ↔ w.At about other q g := by
  by_cases hid : other = id
  · subst hid
    constructor
    · intro h
      obtain ⟨rfl, habout⟩ := h.eq_of_lookup? hnext
      exact ⟨phase, hat, hsame ▸ habout⟩
    · intro h
      obtain ⟨rfl, habout⟩ := h.eq_of_lookup? hat
      exact ⟨next, hnext, hsame ▸ habout⟩
  · rw [At, At, hothers other hid]

/-- After the turn in which a lookup comes to have to do with a gate. -/
theorem at_iff_of_gain (hat : w.lookup? id = some (path, phase))
    (hnext : w'.lookup? id = some (path, next))
    (hothers : ∀ other, other ≠ id → w'.lookup? other = w.lookup? other)
    (hbefore : about phase = none) (hafter : about next = some gate) :
    w'.At about other q g ↔ w.At about other q g ∨ (other = id ∧ q = path ∧ g = gate) := by
  by_cases hid : other = id
  · subst hid
    constructor
    · intro h
      obtain ⟨rfl, habout⟩ := h.eq_of_lookup? hnext
      exact .inr ⟨rfl, rfl, Option.some.inj (habout.symm.trans hafter)⟩
    · rintro (h | ⟨-, rfl, rfl⟩)
      · cases hbefore.symm.trans (h.eq_of_lookup? hat).2
      · exact ⟨next, hnext, hafter⟩
  · rw [At, At, hothers other hid]
    constructor
    · exact .inl
    · rintro (h | ⟨h, -⟩)
      · exact h
      · exact absurd h hid

/-- After the turn in which a lookup is done with its gate. -/
theorem at_iff_of_loss (hnext : w'.lookup? id = some (path, next))
    (hothers : ∀ other, other ≠ id → w'.lookup? other = w.lookup? other)
    (hafter : about next = none) :
    w'.At about other q g ↔ w.At about other q g ∧ other ≠ id := by
  by_cases hid : other = id
  · subst hid
    constructor
    · intro h
      cases hafter.symm.trans (h.eq_of_lookup? hnext).2
    · intro h
      exact absurd rfl h.2
  · rw [At, At, hothers other hid]
    exact ⟨fun h => ⟨h, hid⟩, And.left⟩

/-- The lookups that know a gate, each of them once. -/
structure KnownBy (w : World) (g : GateId) (ids : List CallId) : Prop where
  nodup : ids.Nodup
  mem : ∀ id, id ∈ ids ↔ ∃ path, w.Knows id path g

namespace KnownBy

variable {ids : List CallId}

theorem congr (h : w.KnownBy g ids) (hknows : ∀ id path, w'.Knows id path g ↔ w.Knows id path g) :
    w'.KnownBy g ids := by
  refine ⟨h.nodup, fun id => ?_⟩
  rw [h.mem]
  exact exists_congr fun path => (hknows id path).symm

theorem gain (h : w.KnownBy g ids) (hnew : id ∉ ids)
    (hknows : ∀ other q, w'.Knows other q g ↔ w.Knows other q g ∨ (other = id ∧ q = path)) :
    w'.KnownBy g (id :: ids) := by
  refine ⟨List.nodup_cons.mpr ⟨hnew, h.nodup⟩, fun other => ?_⟩
  rw [List.mem_cons, h.mem]
  constructor
  · rintro (rfl | ⟨q, hq⟩)
    · exact ⟨path, (hknows other path).mpr (.inr ⟨rfl, rfl⟩)⟩
    · exact ⟨q, (hknows other q).mpr (.inl hq)⟩
  · rintro ⟨q, hq⟩
    rcases (hknows other q).mp hq with hold | ⟨rfl, -⟩
    · exact .inr ⟨q, hold⟩
    · exact .inl rfl

theorem loss (h : w.KnownBy g ids)
    (hknows : ∀ other q, w'.Knows other q g ↔ w.Knows other q g ∧ other ≠ id) :
    w'.KnownBy g (ids.erase id) := by
  refine ⟨h.nodup.erase id, fun other => ?_⟩
  rw [h.nodup.mem_erase_iff, h.mem]
  constructor
  · rintro ⟨hne, q, hq⟩
    exact ⟨q, (hknows other q).mpr ⟨hq, hne⟩⟩
  · rintro ⟨q, hq⟩
    obtain ⟨hold, hne⟩ := (hknows other q).mp hq
    exact ⟨hne, q, hold⟩

end KnownBy

/-! ## Gates and their lookups -/

/-- The gates of a world.  Whoever knows a gate can find it, and every gate that can be found is
known to somebody. -/
structure Gated (w : World) : Prop where
  found : ∀ id path g, w.Knows id path g → w.store.findGate? path = some g
  known : ∀ g ∈ w.store.listed, ∃ id path, w.Knows id path g
  users : ∀ g, ∃ ids, w.KnownBy g ids ∧ w.store.usersOf g = ids.length
  locked : ∀ id path g, w.Holds id path g → w.store.isLocked g = true
  alone : ∀ id path other q g, w.Holds id path g → w.Holds other q g → id = other

namespace Gated

theorem freshOn (disk : Disk) (limits : Limits) (wall : Time.Timestamp) :
    (freshOn disk limits wall).Gated where
  found _ _ _ h := by cases h.choose_spec.1
  known _ h := by cases h
  users g := by
    refine ⟨[], ⟨List.nodup_nil, fun id => ⟨nofun, ?_⟩⟩, rfl⟩
    rintro ⟨path, phase, hat, -⟩
    cases hat
  locked _ _ _ h := by cases h.choose_spec.1
  alone _ _ _ _ _ h := by cases h.choose_spec.1

theorem serves (hw : w.Gated) (h : w.Knows id path g) :
    g ∈ w.store.listed ∧ w.store.serves g path = true :=
  Store.mem_of_findGate? (hw.found id path g h)

/-- Lookups of one path know the same gate. -/
theorem same_gate (hw : w.Gated) {p : Path} {h : GateId} (hp : w.Knows id p g)
    (hq : w.Knows other q h) (hsame : p.same q = true) : g = h := by
  have hfound := hw.found id p g hp
  rw [Store.findGate?_congr hsame, hw.found other q h hq] at hfound
  exact (Option.some.inj hfound).symm

/-- A gate that can be found was made. -/
theorem made (hw : w.Gated) : ∀ g ∈ w.store.listed, g < w.store.gates.length := by
  intro g hg
  obtain ⟨id, path, h⟩ := hw.known g hg
  exact Store.lt_of_serves (hw.serves h).2

/-- The gates stay, and so does everyone who knows them; some may be locked or opened. -/
theorem of_kept (hw : w.Gated) (hsame : Store.SameGates w.store w'.store)
    (hknows : ∀ id path g, w'.Knows id path g ↔ w.Knows id path g)
    (hlocked : ∀ id path g, w'.Holds id path g → w'.store.isLocked g = true)
    (halone : ∀ id path other q g, w'.Holds id path g → w'.Holds other q g → id = other) :
    w'.Gated where
  found id path g h := by
    rw [hsame.findGate?]
    exact hw.found id path g ((hknows id path g).mp h)
  known g hg := by
    obtain ⟨id, path, h⟩ := hw.known g (hsame.listed ▸ hg)
    exact ⟨id, path, (hknows id path g).mpr h⟩
  users g := by
    obtain ⟨ids, hids, hcount⟩ := hw.users g
    exact ⟨ids, hids.congr fun id path => hknows id path g, (hsame.users g).trans hcount⟩
  locked := hlocked
  alone := halone

/-- The gates stay as they are, and so does everyone who has to do with them. -/
theorem of_same (hw : w.Gated) (hgates : w'.store.gates = w.store.gates)
    (hlisted : w'.store.listed = w.store.listed)
    (hknows : ∀ id path g, w'.Knows id path g ↔ w.Knows id path g)
    (hholds : ∀ id path g, w'.Holds id path g ↔ w.Holds id path g) : w'.Gated := by
  refine hw.of_kept (.of_eq hgates hlisted) hknows ?_ ?_
  · intro id path g h
    rw [Store.isLocked, Store.gate?, hgates]
    exact hw.locked id path g ((hholds id path g).mp h)
  · intro id path other q g h k
    exact hw.alone id path other q g ((hholds id path g).mp h) ((hholds other q g).mp k)

/-- A lookup passes its gate, which nobody has kept locked. -/
theorem passes (hw : w.Gated) (hat : w.lookup? id = some (path, .waiting gate))
    (hnext : w'.lookup? id = some (path, .rechecking gate))
    (hothers : ∀ other, other ≠ id → w'.lookup? other = w.lookup? other)
    (hfree : w.store.isLocked gate = false) (hstore : w'.store = w.store.lock gate) :
    w'.Gated := by
  have hlt : gate < w.store.gates.length :=
    Store.lt_of_serves (hw.serves ⟨.waiting gate, hat, rfl⟩).2
  have hholds {other : CallId} {q : Path} {g : GateId} (h : w'.Holds other q g) :
      w.Holds other q g ∨ (other = id ∧ q = path ∧ g = gate) :=
    (at_iff_of_gain hat hnext hothers rfl rfl).mp h
  have hnobody {other : CallId} {q : Path} (h : w.Holds other q gate) : False := by
    cases hfree.symm.trans (hw.locked other q gate h)
  refine hw.of_kept ?_ (fun other q g => at_iff_of_same hat hnext hothers rfl) ?_ ?_
  · rw [hstore]
    exact .lock gate w.store
  · intro other q g h
    rw [hstore]
    rcases hholds h with hold | ⟨-, -, rfl⟩
    · exact Store.isLocked_lock_of_isLocked (hw.locked other q g hold)
    · exact Store.isLocked_lock_self hlt
  · intro a p b q g ha hb
    rcases hholds ha with ha | ⟨rfl, -, rfl⟩
    · rcases hholds hb with hb | ⟨rfl, -, rfl⟩
      · exact hw.alone a p b q g ha hb
      · exact (hnobody ha).elim
    · rcases hholds hb with hb | ⟨rfl, -, -⟩
      · exact (hnobody hb).elim
      · rfl

/-- A lookup opens the gate that it has passed. -/
theorem opens (hw : w.Gated) (hat : w.lookup? id = some (path, phase))
    (hnext : w'.lookup? id = some (path, next))
    (hothers : ∀ other, other ≠ id → w'.lookup? other = w.lookup? other)
    (hbefore : phase.held? = some gate) (hgate : next.gate? = some gate)
    (hheld : next.held? = none) (hgates : w'.store.gates = (w.store.unlock gate).gates)
    (hlisted : w'.store.listed = w.store.listed) : w'.Gated := by
  have hholds {other : CallId} {q : Path} {g : GateId} (h : w'.Holds other q g) :
      w.Holds other q g ∧ other ≠ id := (at_iff_of_loss hnext hothers hheld).mp h
  have hsame : phase.gate? = next.gate? := (Lookup.gate?_of_held hbefore).trans hgate.symm
  refine hw.of_kept ((Store.SameGates.unlock gate w.store).trans (.of_eq hgates hlisted))
    (fun other q g => at_iff_of_same hat hnext hothers hsame.symm) ?_ ?_
  · intro other q g h
    obtain ⟨hold, hne⟩ := hholds h
    rw [Store.isLocked, Store.gate?, hgates]
    refine Store.isLocked_unlock_of_ne (hw.locked other q g hold) ?_
    rintro rfl
    exact hne (hw.alone other q id path gate hold ⟨phase, hat, hbefore⟩)
  · intro a p b q g ha hb
    exact hw.alone a p b q g (hholds ha).1 (hholds hb).1

/-- A lookup arrives at the gate of its path. -/
theorem arrives (hw : w.Gated) (hat : w.lookup? id = some (path, phase))
    (hnext : w'.lookup? id = some (path, .waiting (w.store.arrive path).1))
    (hothers : ∀ other, other ≠ id → w'.lookup? other = w.lookup? other)
    (hbefore : phase.gate? = none) (hstore : w'.store = (w.store.arrive path).2) :
    w'.Gated := by
  have hknows (other : CallId) (q : Path) (g : GateId) : w'.Knows other q g ↔
      w.Knows other q g ∨ (other = id ∧ q = path ∧ g = (w.store.arrive path).1) :=
    at_iff_of_gain hat hnext hothers hbefore rfl
  have hunheld : phase.held? = none := by
    cases hheld : phase.held? with
    | none => rfl
    | some g => cases hbefore.symm.trans (Lookup.gate?_of_held hheld)
  have hholds (other : CallId) (q : Path) (g : GateId) :
      w'.Holds other q g ↔ w.Holds other q g :=
    at_iff_of_same hat hnext hothers hunheld.symm
  constructor
  case found =>
    intro other q g h
    rw [hstore]
    rcases (hknows other q g).mp h with hold | ⟨-, rfl, rfl⟩
    · exact Store.findGate?_arrive_of_some hw.made (hw.found other q g hold)
    · exact Store.findGate?_arrive hw.made q
  case known =>
    intro g hg
    rw [hstore, Store.mem_listed_arrive] at hg
    rcases hg with hold | rfl
    · obtain ⟨other, q, h⟩ := hw.known g hold
      exact ⟨other, q, (hknows other q g).mpr (.inl h)⟩
    · exact ⟨id, path, (hknows id path _).mpr (.inr ⟨rfl, rfl, rfl⟩)⟩
  case users =>
    intro g
    obtain ⟨ids, hids, hcount⟩ := hw.users g
    rw [hstore, Store.usersOf_arrive, hcount]
    by_cases hg : g = (w.store.arrive path).1
    · have hnew : id ∉ ids := by
        intro hmem
        obtain ⟨q, hq⟩ := (hids.mem id).mp hmem
        cases hbefore.symm.trans (hq.eq_of_lookup? hat).2
      have hgain (other : CallId) (q : Path) :
          w'.Knows other q g ↔ w.Knows other q g ∨ (other = id ∧ q = path) := by
        rw [hknows]
        simp only [hg, and_true]
      exact ⟨id :: ids, hids.gain hnew hgain, by rw [if_pos hg, List.length_cons]⟩
    · refine ⟨ids, hids.congr fun other q => ?_, by rw [if_neg hg, Nat.add_zero]⟩
      rw [hknows]
      simp only [hg, and_false, or_false]
  case locked =>
    intro other q g h
    rw [hstore]
    exact Store.isLocked_arrive_of_isLocked (hw.locked other q g ((hholds other q g).mp h))
  case alone =>
    intro a p b q g ha hb
    exact hw.alone a p b q g ((hholds a p g).mp ha) ((hholds b q g).mp hb)

/-- By its references, a lookup can tell whether it is the last one to know its gate. -/
theorem last_or_shared (hw : w.Gated) (hid : w.Knows id path gate) :
    (w.store.references gate = 2 ∧ ∀ other q, w.Knows other q gate → other = id) ∨
      (w.store.references gate ≠ 2 ∧ ∃ other q, other ≠ id ∧ w.Knows other q gate) := by
  obtain ⟨ids, hids, hcount⟩ := hw.users gate
  have hmem : id ∈ ids := (hids.mem id).mpr ⟨path, hid⟩
  have hlisted : w.store.listed.contains gate = true := List.contains_iff_mem.mpr (hw.serves hid).1
  have hreferences : w.store.references gate = ids.length + 1 := by
    rw [Store.references_eq, hcount, if_pos hlisted]
  have hlength : (ids.erase id).length = ids.length - 1 := List.length_erase_of_mem hmem
  cases hrest : ids.erase id with
  | nil =>
    have hpos := List.length_pos_of_mem hmem
    rw [hrest, List.length_nil] at hlength
    refine .inl ⟨by omega, fun other q h => ?_⟩
    by_contra hne
    have hother : other ∈ ids.erase id :=
      hids.nodup.mem_erase_iff.mpr ⟨hne, (hids.mem other).mpr ⟨q, h⟩⟩
    rw [hrest] at hother
    cases hother
  | cons other rest =>
    have hother : other ∈ ids.erase id := hrest ▸ List.mem_cons_self
    obtain ⟨hne, hknown⟩ := hids.nodup.mem_erase_iff.mp hother
    obtain ⟨q, h⟩ := (hids.mem other).mp hknown
    rw [hrest, List.length_cons] at hlength
    exact .inr ⟨by omega, other, q, hne, h⟩

/-- A lookup leaves its gate. -/
theorem leaves (hw : w.Gated) (hat : w.lookup? id = some (path, phase))
    (hnext : w'.lookup? id = some (path, next))
    (hothers : ∀ other, other ≠ id → w'.lookup? other = w.lookup? other)
    (hbefore : phase.gate? = some gate) (hunheld : phase.held? = none)
    (hgate : next.gate? = none) (hheld : next.held? = none)
    (hstore : w'.store = w.store.leave gate path) : w'.Gated := by
  have hknows (other : CallId) (q : Path) (g : GateId) :
      w'.Knows other q g ↔ w.Knows other q g ∧ other ≠ id :=
    at_iff_of_loss hnext hothers hgate
  have hholds (other : CallId) (q : Path) (g : GateId) :
      w'.Holds other q g ↔ w.Holds other q g :=
    at_iff_of_same hat hnext hothers (hheld.trans hunheld.symm)
  have hmine {q : Path} {g : GateId} (h : w.Knows id q g) : g = gate :=
    Option.some.inj ((h.eq_of_lookup? hat).2.symm.trans hbefore)
  have hleaver : w.Knows id path gate := ⟨phase, hat, hbefore⟩
  have hlast := hw.last_or_shared hleaver
  constructor
  case found =>
    intro other q g h
    obtain ⟨hold, hne⟩ := (hknows other q g).mp h
    have hfound := hw.found other q g hold
    rw [hstore, Store.findGate?_leave w.store gate, hfound]
    rcases hlast with ⟨-, hnobody⟩ | ⟨hshared, -⟩
    · -- the other one has a gate of its own
      refine .inr (Bool.eq_false_iff.mpr fun hsame => hne (hnobody other q ?_))
      exact hw.same_gate hleaver hold hsame ▸ hold
    · exact .inl hshared
  case known =>
    intro g hg
    rw [hstore, Store.mem_listed_leave] at hg
    obtain ⟨other, q, h⟩ := hw.known g hg.1
    by_cases hid : other = id
    · subst hid
      rcases hlast with ⟨htwo, -⟩ | ⟨-, another, p, hne, hanother⟩
      · have hserves := (hw.serves hleaver).2
        rw [← hmine h, hg.2 htwo] at hserves
        cases hserves
      · exact ⟨another, p, (hknows another p g).mpr ⟨hmine h ▸ hanother, hne⟩⟩
    · exact ⟨other, q, (hknows other q g).mpr ⟨h, hid⟩⟩
  case users =>
    intro g
    obtain ⟨ids, hids, hcount⟩ := hw.users g
    have hmem : id ∈ ids ↔ g = gate := by
      rw [hids.mem]
      constructor
      · rintro ⟨q, h⟩
        exact hmine h
      · rintro rfl
        exact ⟨path, hleaver⟩
    refine ⟨ids.erase id, hids.loss fun other q => hknows other q g, ?_⟩
    rw [hstore, Store.usersOf_leave, hcount, List.length_erase]
    simp only [hmem]
    split <;> rfl
  case locked =>
    intro other q g h
    rw [hstore, Store.isLocked_leave]
    exact hw.locked other q g ((hholds other q g).mp h)
  case alone =>
    intro a p b q g ha hb
    exact hw.alone a p b q g ((hholds a p g).mp ha) ((hholds b q g).mp hb)

/-- No lookup takes a turn. -/
theorem of_lookup? (hw : w.Gated) (hgates : w'.store.gates = w.store.gates)
    (hlisted : w'.store.listed = w.store.listed) (hlookups : w'.lookup? = w.lookup?) :
    w'.Gated := by
  have hat (about : Lookup → Option GateId) (id : CallId) (path : Path) (g : GateId) :
      w'.At about id path g ↔ w.At about id path g := by rw [At, At, hlookups]
  exact hw.of_same hgates hlisted (hat Lookup.gate?) (hat Lookup.held?)

theorem move (hw : w.Gated) (h : Move w event w') : w'.Gated := by
  cases h with
  | idle hstore hlookups hkept _ =>
    have hat {about : Lookup → Option GateId} (hnew : about .starting = none) (id : CallId)
        (path : Path) (g : GateId) : w'.At about id path g ↔ w.At about id path g := by
      constructor
      · rintro ⟨phase, hafter, habout⟩
        rcases hlookups id path phase hafter with hold | ⟨-, rfl⟩
        · exact ⟨phase, hold, habout⟩
        · cases hnew.symm.trans habout
      · rintro ⟨phase, hbefore, habout⟩
        exact ⟨phase, hkept id path phase hbefore, habout⟩
    exact hw.of_same (by rw [hstore]) (by rw [hstore]) (hat rfl) (hat rfl)
  | lookup id path phase st _ hat hstep hstore hnext hothers _ =>
    cases (Lookup.step_course hstep).passage with
    | stays hgate hheld hgates hlisted =>
      exact hw.of_same (by rw [hstore, hgates]) (by rw [hstore, hlisted])
        (fun other q g => at_iff_of_same hat hnext hothers hgate)
        (fun other q g => at_iff_of_same hat hnext hothers hheld)
    | arrives hbefore hnew hafter =>
      rw [hnew] at hnext
      exact hw.arrives hat hnext hothers hbefore (hstore.trans hafter)
    | passes gate hbefore hnew hfree hafter =>
      rw [hnew] at hnext
      exact hw.passes (hbefore ▸ hat) hnext hothers hfree (hstore.trans hafter)
    | opens gate hbefore hgate hheld hgates hlisted =>
      exact hw.opens hat hnext hothers hbefore hgate hheld (by rw [hstore, hgates])
        (by rw [hstore, hlisted])
    | leaves gate hbefore hunheld hgate hheld hafter =>
      exact hw.leaves hat hnext hothers hbefore hunheld hgate hheld (hstore.trans hafter)
  | sweep _ _ _ _ _ hturn =>
    obtain ⟨hgates, hlisted⟩ := Sweep.step_gates hturn.step
    exact hw.of_lookup? (by rw [hturn.store, hgates]) (by rw [hturn.store, hlisted])
      hturn.lookups
  | clear hstore hsame =>
    exact hw.of_lookup? (by rw [hstore]; rfl) (by rw [hstore]; rfl) hsame.lookup?
  | switch _ hstore hsame => exact hw.of_lookup? (by rw [hstore]) (by rw [hstore]) hsame.lookup?
  | shuffle _ _ hstore hsame => exact hw.of_lookup? (by rw [hstore]) (by rw [hstore]) hsame.lookup?

theorem passed {disk : Disk} {limits : Limits} {wall : Time.Timestamp} {events : List Event} :
    ∀ v ∈ (World.freshOn disk limits wall).passed events, v.Gated :=
  passed_induction (fun _ _ _ _ hw happly => hw.move (apply_move happly))
    (.freshOn disk limits wall)

end Gated

/-- However lookups, sweeps, clears and switches take turns, of the lookups of a path one at a
time has counted its miss and not yet tried to store what it reads.  The lookups that know a gate
find it as the gate of their path, so that lookups of one path know the same gate.  A path has a
gate that can be found just when some lookup of the path knows one, and it has one at most; none is
left when no lookup is in flight. -/
theorem one_load_per_path {disk : Disk} {limits : Limits} {wall : Time.Timestamp}
    {events : List Event} {v : World} (hv : v ∈ (freshOn disk limits wall).passed events) :
    (∀ id other p q, v.Loads id p → v.Loads other q → p.same q = true → id = other) ∧
    (∀ id p g, v.Knows id p g → v.store.findGate? p = some g) ∧
    (∀ id other p q g h, v.Knows id p g → v.Knows other q h → p.same q = true → g = h) ∧
    (∀ p, (v.store.findGate? p).isSome = true ↔ ∃ id q g, v.Knows id q g ∧ q.same p = true) ∧
    (∀ g ∈ v.store.listed, ∀ h ∈ v.store.listed, ∀ p, v.store.serves g p = true →
      v.store.serves h p = true → g = h) ∧
    (v.AllAnswered → v.store.listed = []) := by
  have hgated := Gated.passed v hv
  refine ⟨?_, hgated.found, ?_, ?_, ?_, ?_⟩
  · intro id other p q hp hq hsame
    obtain ⟨g, hg⟩ := hp.holds
    obtain ⟨h, hh⟩ := hq.holds
    cases hgated.same_gate hg.knows hh.knows hsame
    exact hgated.alone id p other q g hg hh
  · intro id other p q g h hp hq hsame
    exact hgated.same_gate hp hq hsame
  · intro p
    constructor
    · intro hsome
      obtain ⟨g, hg⟩ := Option.isSome_iff_exists.mp hsome
      obtain ⟨hlisted, hserves⟩ := Store.mem_of_findGate? hg
      obtain ⟨id, q, hknown⟩ := hgated.known g hlisted
      exact ⟨id, q, g, hknown, Store.same_of_serves (hgated.serves hknown).2 hserves⟩
    · rintro ⟨id, q, g, hknown, hsame⟩
      rw [← Store.findGate?_congr hsame, hgated.found id q g hknown]
      rfl
  · intro g hg h hh p hgp hhp
    obtain ⟨id, q, hq⟩ := hgated.known g hg
    obtain ⟨other, r, hr⟩ := hgated.known h hh
    have hqp := Store.same_of_serves (hgated.serves hq).2 hgp
    have hpr := Store.same_of_serves hhp (hgated.serves hr).2
    exact hgated.same_gate hq hr (Path.same_trans hqp hpr)
  · intro hanswered
    refine List.eq_nil_iff_forall_not_mem.mpr fun g hg => ?_
    obtain ⟨id, path, phase, hat, hgate⟩ := hgated.known g hg
    cases hgate.symm.trans (Lookup.gate?_of_answered (hanswered id path phase hat))

/-- Two lookups come to the gate of a path, each by a name of its own for it, and the first one
goes on to load. -/
def meeting : List Event := List.flatten
  [[.edit (.write "a" [1] ⟨1, 0⟩), .call (.toggle true), .turn (.call 0), .call (.lookup ⟨"a"⟩),
      .call (.lookup ⟨"a//"⟩)],
    List.replicate 3 (.turn (.call 1)), List.replicate 3 (.turn (.call 2)),
    List.replicate 2 (.turn (.call 1))]

theorem one_load_per_path_meeting :
    ∃ v ∈ (freshOn Disk.empty ⟨3, 4, 1000⟩ ⟨0, 0⟩).passed meeting,
      v.lookup? 1 = some (⟨"a"⟩, .loading 0 .opening) ∧
      v.lookup? 2 = some (⟨"a//"⟩, .waiting 0) ∧
      v.store.findGate? ⟨"a"⟩ = some 0 ∧
      ∀ other path, v.Loads other path → (⟨"a"⟩ : Path).same path = true → 1 = other := by
  have hrun : ((freshOn Disk.empty ⟨3, 4, 1000⟩ ⟨0, 0⟩).run meeting).map (fun r =>
      (r.1.lookup? 1, r.1.lookup? 2)) =
      some (some (⟨"a"⟩, .loading 0 .opening), some (⟨"a//"⟩, .waiting 0)) := by decide +kernel
  obtain ⟨⟨v, notices⟩, hrun, hend⟩ := Option.map_eq_some_iff.mp hrun
  obtain ⟨hfirst, hsecond⟩ := Prod.mk.inj hend
  have hv := mem_passed_of_run hrun
  obtain ⟨hsingle, hfound, -⟩ := one_load_per_path hv
  have hloads : v.Loads 1 ⟨"a"⟩ := ⟨_, hfirst, rfl⟩
  exact ⟨v, hv, hfirst, hsecond, hfound 1 _ 0 ⟨_, hfirst, rfl⟩,
    fun other path hother hsame => hsingle 1 other _ path hloads hother hsame⟩

end World
end FileCache
