import FileCache.Proofs.Lookup.Gates
import FileCache.Proofs.Path.Names
import Mathlib.Data.List.Find

/-!
How a lookup goes through the gate of its path.

It arrives at the gate and knows it from then on, passes it once it is open, opens it again, and
leaves it.  All other turns let the gates be.
-/

namespace FileCache

/-! ## Gates -/

namespace Store

def gatePath? (s : Store) (g : GateId) : Option Path := (s.gate? g).map (·.path)

/-- How many lookups know a gate, by its own count. -/
def usersOf (s : Store) (g : GateId) : Nat := (s.gate? g).elim 0 (·.users)

/-- Whether the gate is one for the path. -/
def serves (s : Store) (g : GateId) (path : Path) : Bool := (s.gatePath? g).any (·.same path)

variable {s t : Store} {id g : GateId} {path : Path}

theorem findGate?_eq (s : Store) (path : Path) :
    s.findGate? path = s.listed.find? (s.serves · path) := by
  have hserves : (fun id => (s.gate? id).any fun g => g.path.same path) = (s.serves · path) := by
    funext id
    simp only [serves, gatePath?, Option.any_map]
  rw [findGate?, hserves]

theorem mem_of_findGate? (h : s.findGate? path = some g) :
    g ∈ s.listed ∧ s.serves g path = true := by
  rw [findGate?_eq] at h
  have hserves := List.find?_some h
  exact ⟨List.mem_of_find?_eq_some h, hserves⟩

/-- Paths of the same components have the same gate. -/
theorem findGate?_congr {p q : Path} (h : p.same q = true) (s : Store) :
    s.findGate? p = s.findGate? q := by
  have hserves : (s.serves · p) = (s.serves · q) := by
    funext g
    simp only [serves, Path.same_congr h]
  rw [findGate?_eq, findGate?_eq, hserves]

theorem references_eq (s : Store) (g : GateId) :
    s.references g = s.usersOf g + if s.listed.contains g then 1 else 0 := rfl

theorem gate?_modifyGate (change : Gate → Gate) (s : Store) :
    (s.modifyGate id change).gate? g =
      (s.gate? g).map fun gate => if id = g then change gate else gate := by
  rw [gate?, modifyGate, List.getElem?_modify]
  rfl

theorem gatePath?_modifyGate (change : Gate → Gate)
    (hkeeps : ∀ gate, (change gate).path = gate.path) (s : Store) (g : GateId) :
    (s.modifyGate id change).gatePath? g = s.gatePath? g := by
  rw [gatePath?, gate?_modifyGate, gatePath?]
  cases s.gate? g with
  | none => rfl
  | some gate =>
    simp only [Option.map_some, Option.some.injEq]
    split
    · exact hkeeps gate
    · rfl

theorem usersOf_modifyGate (change : Gate → Gate)
    (hkeeps : ∀ gate, (change gate).users = gate.users) (s : Store) (g : GateId) :
    (s.modifyGate id change).usersOf g = s.usersOf g := by
  rw [usersOf, gate?_modifyGate, usersOf]
  cases s.gate? g with
  | none => rfl
  | some gate =>
    simp only [Option.map_some, Option.elim_some]
    split
    · exact hkeeps gate
    · rfl

/-- The paths of one gate have the same components. -/
theorem same_of_serves {p q : Path} (hp : s.serves g p = true) (hq : s.serves g q = true) :
    p.same q = true := by
  obtain ⟨r, hr, hrp⟩ := (Option.any_eq_true _ _).mp hp
  obtain ⟨r', hr', hrq⟩ := (Option.any_eq_true _ _).mp hq
  cases hr.symm.trans hr'
  exact Path.same_trans (Path.same_symm hrp) hrq

theorem gatePath?_eq_none (h : s.gates.length ≤ g) : s.gatePath? g = none := by
  rw [gatePath?, gate?, List.getElem?_eq_none h, Option.map_none]

theorem usersOf_eq_zero (h : s.gates.length ≤ g) : s.usersOf g = 0 := by
  rw [usersOf, gate?, List.getElem?_eq_none h, Option.elim_none]

theorem lt_of_serves (h : s.serves g path = true) : g < s.gates.length := by
  refine Nat.lt_of_not_le fun hle => ?_
  rw [serves, gatePath?_eq_none hle] at h
  cases h

/-- The same gates, of the same paths and known to as many lookups; which of them are locked may
differ. -/
structure SameGates (s t : Store) : Prop where
  listed : t.listed = s.listed
  path : ∀ g, t.gatePath? g = s.gatePath? g
  users : ∀ g, t.usersOf g = s.usersOf g

namespace SameGates

theorem of_eq (hgates : t.gates = s.gates) (hlisted : t.listed = s.listed) : SameGates s t where
  listed := hlisted
  path g := by rw [gatePath?, gate?, hgates, gatePath?, gate?]
  users g := by rw [usersOf, gate?, hgates, usersOf, gate?]

theorem trans {u : Store} (h : SameGates s t) (k : SameGates t u) : SameGates s u where
  listed := k.listed.trans h.listed
  path g := (k.path g).trans (h.path g)
  users g := (k.users g).trans (h.users g)

theorem lock (id : GateId) (s : Store) : SameGates s (s.lock id) where
  listed := rfl
  path := gatePath?_modifyGate ({ · with locked := true }) (fun _ => rfl) s
  users := usersOf_modifyGate ({ · with locked := true }) (fun _ => rfl) s

theorem unlock (id : GateId) (s : Store) : SameGates s (s.unlock id) where
  listed := rfl
  path := gatePath?_modifyGate ({ · with locked := false }) (fun _ => rfl) s
  users := usersOf_modifyGate ({ · with locked := false }) (fun _ => rfl) s

theorem serves (h : SameGates s t) (g : GateId) (path : Path) :
    t.serves g path = s.serves g path := by
  rw [Store.serves, h.path, Store.serves]

theorem findGate? (h : SameGates s t) (path : Path) : t.findGate? path = s.findGate? path := by
  have hserves : (t.serves · path) = (s.serves · path) := by
    funext g
    exact h.serves g path
  rw [findGate?_eq, findGate?_eq, h.listed, hserves]

end SameGates

/-! ## Arriving -/

/-- There is a gate for the path, or a new one is made. -/
theorem arrive_cases (s : Store) (path : Path) :
    (∃ g, s.findGate? path = some g ∧
      s.arrive path = (g, s.modifyGate g fun gate => { gate with users := gate.users + 1 })) ∨
    (s.findGate? path = none ∧
      s.arrive path = (s.gates.length,
        { s with
          gates := s.gates ++ [{ path, users := 1, locked := false }]
          listed := s.listed ++ [s.gates.length] })) := by
  unfold arrive
  cases hfind : s.findGate? path with
  | some g => exact .inl ⟨g, rfl, rfl⟩
  | none => exact .inr ⟨rfl, rfl⟩

/-- A gate that was there before stays as it was, but for the count of its users. -/
theorem gate?_arrive_of_lt (path : Path) (h : g < s.gates.length) : ∃ users,
    (s.arrive path).2.gate? g = (s.gate? g).map ({ · with users }) := by
  obtain ⟨gate, hgate⟩ : ∃ gate, s.gate? g = some gate := ⟨_, List.getElem?_eq_getElem h⟩
  rcases arrive_cases s path with ⟨found, -, harrive⟩ | ⟨-, harrive⟩
  · by_cases hid : found = g
    · exact ⟨gate.users + 1, by rw [harrive, gate?_modifyGate, hgate]; simp [hid]⟩
    · exact ⟨gate.users, by rw [harrive, gate?_modifyGate, hgate]; simp [hid]⟩
  · refine ⟨gate.users, ?_⟩
    rw [hgate, harrive]
    exact (List.getElem?_append_left h).trans hgate

theorem gatePath?_arrive_of_lt (h : g < s.gates.length) :
    (s.arrive path).2.gatePath? g = s.gatePath? g := by
  obtain ⟨users, hgate⟩ := gate?_arrive_of_lt path h
  rw [gatePath?, hgate, Option.map_map, gatePath?]
  rfl

theorem isLocked_arrive_of_isLocked (h : s.isLocked g = true) :
    (s.arrive path).2.isLocked g = true := by
  have hlt : g < s.gates.length := by
    refine Nat.lt_of_not_le fun hle => ?_
    rw [isLocked, gate?, List.getElem?_eq_none hle] at h
    cases h
  obtain ⟨users, hgate⟩ := gate?_arrive_of_lt path hlt
  rw [isLocked, hgate, Option.any_map]
  exact h

theorem serves_arrive_of_lt (path q : Path) (h : g < s.gates.length) :
    (s.arrive path).2.serves g q = s.serves g q := by
  rw [serves, gatePath?_arrive_of_lt h, serves]

theorem serves_arrive_self (s : Store) (path : Path) :
    (s.arrive path).2.serves (s.arrive path).1 path = true := by
  rcases arrive_cases s path with ⟨found, hfound, harrive⟩ | ⟨-, harrive⟩
  · have hserves := (mem_of_findGate? hfound).2
    have hsame := serves_arrive_of_lt path path (lt_of_serves hserves)
    rw [hserves] at hsame
    rw [harrive] at hsame ⊢
    exact hsame
  · rw [harrive]
    simp [serves, gatePath?, gate?, Path.same_refl]

theorem mem_listed_arrive : g ∈ (s.arrive path).2.listed ↔
    g ∈ s.listed ∨ g = (s.arrive path).1 := by
  rcases arrive_cases s path with ⟨found, hfound, harrive⟩ | ⟨-, harrive⟩
  · have hmem := (mem_of_findGate? hfound).1
    rw [harrive]
    constructor
    · exact .inl
    · rintro (h | rfl)
      · exact h
      · exact hmem
  · rw [harrive]
    simp

/-- An arrival makes no difference to the gate that is found for a path. -/
theorem findGate?_arrive_of_some {q : Path} (hmade : ∀ g ∈ s.listed, g < s.gates.length)
    (h : s.findGate? q = some g) : (s.arrive path).2.findGate? q = some g := by
  have hserves : ∀ g ∈ s.listed, (s.arrive path).2.serves g q = s.serves g q :=
    fun g hg => serves_arrive_of_lt path _ (hmade g hg)
  have hold : s.listed.find? ((s.arrive path).2.serves · q) = some g := by
    rw [List.find?_congr hserves, ← findGate?_eq, h]
  rw [findGate?_eq]
  rcases arrive_cases s path with ⟨found, -, harrive⟩ | ⟨-, harrive⟩
  · rw [harrive] at hold ⊢
    exact hold
  · rw [harrive] at hold ⊢
    rw [List.find?_append, hold, Option.some_or]

/-- The gate at which a lookup arrives is the one for its path. -/
theorem findGate?_arrive (hmade : ∀ g ∈ s.listed, g < s.gates.length) (path : Path) :
    (s.arrive path).2.findGate? path = some (s.arrive path).1 := by
  rcases arrive_cases s path with ⟨found, hfound, harrive⟩ | ⟨hnone, harrive⟩
  · have hgate : (s.arrive path).1 = found := by rw [harrive]
    rw [hgate]
    exact findGate?_arrive_of_some hmade hfound
  · have hserves : ∀ g ∈ s.listed, (s.arrive path).2.serves g path = s.serves g path :=
      fun g hg => serves_arrive_of_lt path _ (hmade g hg)
    have hold : s.listed.find? ((s.arrive path).2.serves · path) = none := by
      rw [List.find?_congr hserves, ← findGate?_eq, hnone]
    have hself := serves_arrive_self s path
    rw [findGate?_eq]
    rw [harrive] at hold hself ⊢
    rw [List.find?_append, hold, Option.none_or, List.find?_cons]
    simp only [hself]

theorem usersOf_arrive (s : Store) (path : Path) (g : GateId) :
    (s.arrive path).2.usersOf g = s.usersOf g + if g = (s.arrive path).1 then 1 else 0 := by
  rcases arrive_cases s path with ⟨found, hfound, harrive⟩ | ⟨-, harrive⟩
  · have hlt := lt_of_serves (mem_of_findGate? hfound).2
    obtain ⟨gate, hgate⟩ : ∃ gate, s.gate? found = some gate := ⟨_, List.getElem?_eq_getElem hlt⟩
    rw [harrive]
    by_cases hid : g = found
    · subst hid
      simp [usersOf, gate?_modifyGate, hgate]
    · have hne : ¬ found = g := fun he => hid he.symm
      simp [usersOf, gate?_modifyGate, hid, hne]
  · rw [harrive]
    rcases Nat.lt_trichotomy g s.gates.length with hlt | rfl | hgt
    · simp [usersOf, gate?, List.getElem?_append_left hlt, Nat.ne_of_lt hlt]
    · simp [usersOf, gate?]
    · have hnone : (s.gates ++ [⟨path, 1, false⟩])[g]? = none := by
        rw [List.getElem?_eq_none_iff, List.length_append, List.length_singleton]
        omega
      rw [usersOf_eq_zero (Nat.le_of_lt hgt), usersOf, gate?, hnone,
        if_neg (Nat.ne_of_gt hgt)]
      rfl

/-! ## Leaving -/

theorem gatePath?_leave (s : Store) (id : GateId) (path : Path) (g : GateId) :
    (s.leave id path).gatePath? g = s.gatePath? g := by
  have hmodify : (s.modifyGate id fun g => { g with users := g.users - 1 }).gatePath? g =
      s.gatePath? g := gatePath?_modifyGate (fun g => { g with users := g.users - 1 })
        (fun _ => rfl) s g
  simp only [leave]
  split
  · exact hmodify
  · exact hmodify

theorem serves_leave (s : Store) (id : GateId) (path : Path) (g : GateId) (q : Path) :
    (s.leave id path).serves g q = s.serves g q := by
  rw [serves, gatePath?_leave, serves]

theorem usersOf_leave (s : Store) (id : GateId) (path : Path) (g : GateId) :
    (s.leave id path).usersOf g = s.usersOf g - if g = id then 1 else 0 := by
  have hmodify : (s.modifyGate id fun g => { g with users := g.users - 1 }).usersOf g =
      s.usersOf g - if g = id then 1 else 0 := by
    rw [usersOf, gate?_modifyGate, usersOf]
    by_cases hid : g = id
    · subst hid
      cases s.gate? g <;> simp
    · have hne : ¬ id = g := fun he => hid he.symm
      cases s.gate? g <;> simp [hid, hne]
  simp only [leave]
  split
  · exact hmodify
  · exact hmodify

/-- The last one who knows a gate takes it out of the list, and nobody else does. -/
theorem listed_leave (s : Store) (id : GateId) (path : Path) :
    (s.leave id path).listed =
      if s.references id = 2 then s.listed.filter fun g => !s.serves g path else s.listed := by
  have hserves : (fun g => !((s.modifyGate id fun g => { g with users := g.users - 1 }).gate? g).any
      fun gate => gate.path.same path) = fun g => !s.serves g path := by
    funext g
    have hpath : (s.modifyGate id fun g => { g with users := g.users - 1 }).gatePath? g =
        s.gatePath? g := gatePath?_modifyGate (fun g => { g with users := g.users - 1 })
          (fun _ => rfl) s g
    rw [serves, ← hpath, gatePath?, Option.any_map]
  simp only [leave]
  split
  · rw [← hserves]
    rfl
  · rfl

theorem mem_listed_leave : g ∈ (s.leave id path).listed ↔
    g ∈ s.listed ∧ (s.references id = 2 → s.serves g path = false) := by
  rw [listed_leave]
  split
  · rename_i hlast
    simp [hlast]
  · rename_i hshared
    simp [hshared]

/-- A lookup that leaves a gate to others makes no difference to the gate that is found for a
path, and none in any case to the gates of other paths. -/
theorem findGate?_leave {q : Path} (s : Store) (id : GateId)
    (h : s.references id ≠ 2 ∨ path.same q = false) :
    (s.leave id path).findGate? q = s.findGate? q := by
  have hserves : ((s.leave id path).serves · q) = (s.serves · q) := by
    funext g
    exact serves_leave s id path g q
  rw [findGate?_eq, findGate?_eq, hserves, listed_leave]
  split
  · rename_i hlast
    have hother := h.resolve_left fun hne => hne hlast
    rw [List.find?_filter]
    congr 1
    funext g
    -- a gate for `q` is none for `path`
    cases hq : s.serves g q with
    | false => simp
    | true =>
      have hnot : s.serves g path = false := by
        refine Bool.eq_false_iff.mpr fun hpath => ?_
        cases hother.symm.trans (same_of_serves hpath hq)
      simp [hnot]
  · rfl

/-! ## Locks -/

theorem isLocked_lock_self (h : g < s.gates.length) : (s.lock g).isLocked g = true := by
  rw [isLocked, lock, gate?_modifyGate, gate?, List.getElem?_eq_getElem h]
  simp

theorem isLocked_lock_of_isLocked (h : s.isLocked g = true) : (s.lock id).isLocked g = true := by
  obtain ⟨gate, hgate, hlocked⟩ := (Option.any_eq_true _ _).mp h
  rw [isLocked, lock, gate?_modifyGate, hgate, Option.map_some, Option.any_some]
  split
  · rfl
  · exact hlocked

theorem isLocked_unlock_of_ne (h : s.isLocked g = true) (hne : id ≠ g) :
    (s.unlock id).isLocked g = true := by
  rw [isLocked, unlock, gate?_modifyGate, ← h, isLocked]
  simp [hne]

end Store

/-! ## Turns -/

namespace Lookup

/-- The gate that a lookup knows. -/
def gate? : Lookup → Option GateId
  | .found gate _ => gate
  | .waiting gate => some gate
  | .rechecking gate => some gate
  | .loading gate _ => some gate
  | .storing gate _ => some gate
  | .bypassing gate _ => gate
  | .leaving gate _ => some gate
  | _ => none

/-- Whether a lookup has counted its miss and is still to try to store what it reads. -/
def loads : Lookup → Bool
  | .loading _ _ => true
  | .storing _ _ => true
  | _ => false

theorem gate?_of_held {phase : Lookup} {g : GateId} (h : phase.held? = some g) :
    phase.gate? = some g := by
  cases phase <;> first | exact h | cases h

theorem held_of_loads {phase : Lookup} (h : phase.loads = true) : ∃ g, phase.held? = some g := by
  cases phase <;> first | exact ⟨_, rfl⟩ | cases h

theorem gate?_of_answered {phase : Lookup} (h : phase.answer?.isSome = true) :
    phase.gate? = none := by
  cases phase <;> first | rfl | cases h

/-- What a turn of a lookup has to do with the gate of its path. -/
inductive Passage (path : Path) (s : Store) (phase next : Lookup) (t : Store) : Prop
  | stays (hgate : next.gate? = phase.gate?) (hheld : next.held? = phase.held?)
      (hgates : t.gates = s.gates) (hlisted : t.listed = s.listed)
  | arrives (hbefore : phase.gate? = none) (hnext : next = .waiting (s.arrive path).1)
      (hafter : t = (s.arrive path).2)
  | passes (gate : GateId) (hbefore : phase = .waiting gate) (hnext : next = .rechecking gate)
      (hfree : s.isLocked gate = false) (hafter : t = s.lock gate)
  | opens (gate : GateId) (hbefore : phase.held? = some gate) (hgate : next.gate? = some gate)
      (hheld : next.held? = none) (hgates : t.gates = (s.unlock gate).gates)
      (hlisted : t.listed = s.listed)
  | leaves (gate : GateId) (hbefore : phase.gate? = some gate) (hunheld : phase.held? = none)
      (hgate : next.gate? = none) (hheld : next.held? = none) (hafter : t = s.leave gate path)

variable {now : Nat} {disk : Disk} {path : Path} {s t u : Store} {phase next : Lookup}

/-- A lookup that has its answer opens its gate, if it has one. -/
theorem passage_answered {gate : Option GateId} {answer : Option Copy}
    (hgate : phase.gate? = gate) (hheld : phase.held? = gate) (hgates : u.gates = s.gates)
    (hlisted : u.listed = s.listed) :
    Passage path s phase (answered gate answer) (reopened gate u) := by
  cases gate with
  | none => exact .stays hgate.symm hheld.symm hgates hlisted
  | some g =>
    refine .opens g hheld rfl rfl ?_ hlisted
    rw [reopened, Store.unlock, Store.modifyGate, hgates]
    rfl

theorem Course.passage (h : Course now disk path s phase next t) :
    Passage path s phase next t := by
  cases h with
  | take => exact passage_answered rfl rfl rfl rfl
  | answer => exact passage_answered rfl rfl rfl rfl
  | arrive => exact .arrives rfl rfl rfl
  | pass hfree => exact .passes _ rfl rfl hfree rfl
  | outsized => exact .opens _ rfl rfl rfl rfl rfl
  | vain => exact .opens _ rfl rfl rfl rfl rfl
  | insert => exact .opens _ rfl rfl rfl rfl rfl
  | refuse => exact .opens _ rfl rfl rfl rfl rfl
  | leave => exact .leaves _ rfl rfl rfl rfl rfl
  | _ => exact .stays rfl rfl rfl rfl

/-- A lookup begins to load in the turn that counts its miss. -/
theorem Course.misses (h : Course now disk path s phase next t) :
    t.tally.misses = s.tally.misses + (next.loads && !phase.loads).toNat := by
  cases h with
  | @take gate id e answer _ _ =>
    have hcounted : ((s.markUsed now id).count e.content.counted).tally.misses =
        s.tally.misses := by
      cases e.content <;> rfl
    cases gate with
    | none => exact hcounted
    | some g => exact hcounted
  | arrive =>
    rcases Store.arrive_cases s path with ⟨g, -, harrive⟩ | ⟨-, harrive⟩
    · rw [harrive]
      rfl
    · rw [harrive]
      rfl
  | @answer gate _ _ _ => cases gate <;> rfl
  | leave =>
    simp only [Store.leave]
    split <;> rfl
  | _ => rfl

end Lookup
end FileCache
