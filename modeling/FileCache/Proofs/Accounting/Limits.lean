import FileCache.Proofs.Lookup.Course
import FileCache.Proofs.Sweep.Course
import FileCache.Proofs.World.Run

/-!
The limits hold however many sweeps overlap, and no step takes more bytes from the count
than the count holds.

The bytes counted are at least the bytes held (`Bounded.held`): that is the lower bound
which every change of the store keeps, also when a sweep commits what it had decided
upon before another sweep went over the same entry.
-/

namespace FileCache

open Store (Alike Orderly)

namespace Store

/-- The map is in order, its entries and the count are within the limits, and the count
covers what the entries hold. -/
structure Bounded (s : Store) : Prop extends Orderly s where
  file : ∀ id ∈ s.mapped, s.sizeOf id ≤ s.limits.maxFile
  held : s.heldBytes ≤ s.used
  room : s.used ≤ s.limits.capacity

theorem Alike.bounded {s t : Store} (h : Alike s t) (hs : s.Bounded) : t.Bounded where
  toOrderly := h.orderly hs.toOrderly
  file id hid := by rw [h.sizeOf, h.limits]; exact hs.file id (h.mapped ▸ hid)
  held := by rw [h.heldBytes, h.used]; exact hs.held
  room := by rw [h.used, h.limits]; exact hs.room

theorem hasRoom_iff {s : Store} {old new : Nat} :
    s.hasRoom old new = true ↔
      new ≤ s.limits.maxFile ∧ s.used - old + new ≤ s.limits.capacity := by
  simp [hasRoom]

namespace Bounded

theorem fresh (limits : Limits) : (Store.fresh limits).Bounded where
  nodup := List.nodup_nil
  known _ hid := absurd hid List.not_mem_nil
  file _ hid := absurd hid List.not_mem_nil
  held := Nat.le_refl 0
  room := Nat.zero_le _

/-- No mapped entry holds more than what is counted in all. -/
theorem sizeOf_le_used {s : Store} (hs : s.Bounded) {id : EntryId} (hid : id ∈ s.mapped) :
    s.sizeOf id ≤ s.used := Nat.le_trans (sizeOf_le_heldBytes hid) hs.held

theorem markUsed {s : Store} (hs : s.Bounded) (now : Nat) (id : EntryId) :
    (s.markUsed now id).Bounded where
  toOrderly := hs.toOrderly.markUsed now id
  file other hid := by rw [sizeOf_markUsed]; exact hs.file other hid
  held := by rw [heldBytes_markUsed]; exact hs.held
  room := hs.room

theorem insert {s : Store} (hs : s.Bounded) {now : Nat} {path : Path} {copy : Copy}
    (hfile : copy.size ≤ s.limits.maxFile) (hroom : s.used + copy.size ≤ s.limits.capacity) :
    (s.insert now path copy).Bounded where
  toOrderly := hs.toOrderly.insert now path copy
  file id hid := by
    rcases List.mem_append.mp hid with hold | hnew
    · rw [sizeOf_insert_of_lt (hs.known id hold)]
      exact hs.file id hold
    · rw [List.mem_singleton.mp hnew, sizeOf_insert_length]
      exact hfile
  held := by
    rw [heldBytes_insert hs.toOrderly]
    exact Nat.add_le_add_right hs.held _
  room := hroom

theorem unmap {s : Store} (hs : s.Bounded) {id : EntryId} (hid : id ∈ s.mapped) :
    (s.unmap id).Bounded where
  toOrderly := hs.toOrderly.unmap id
  file other ho := hs.file other (List.mem_of_mem_erase ho)
  held := by
    have hheld := heldBytes_unmap hid
    have hused : (s.unmap id).used = s.used - s.sizeOf id := rfl
    have hle := hs.held
    omega
  room := Nat.le_trans (Nat.sub_le _ _) hs.room

/-- An entry may change if the count follows the change of its size, or exceeds it. -/
theorem revise {s : Store} (hs : s.Bounded) {id : EntryId} (hid : id ∈ s.mapped)
    {change : Entry → Entry} {used : Nat} {size : Nat}
    (hsize : (s.revise id change used).sizeOf id = size) (hfile : size ≤ s.limits.maxFile)
    (hused : s.used + size ≤ used + s.sizeOf id) (hroom : used ≤ s.limits.capacity) :
    (s.revise id change used).Bounded where
  toOrderly := hs.toOrderly.revise id change used
  file other ho := by
    by_cases h : id = other
    · subst h
      rw [hsize]
      exact hfile
    · rw [sizeOf_revise_of_ne h]
      exact hs.file other ho
  held := by
    have hheld := heldBytes_revise hs.toOrderly hid change used
    rw [hsize] at hheld
    have hle := hs.held
    show (s.revise id change used).heldBytes ≤ used
    omega
  room := hroom

theorem dropAll (s : Store) : s.dropAll.Bounded where
  toOrderly := Orderly.dropAll s
  file _ hid := absurd hid List.not_mem_nil
  held := Nat.le_refl 0
  room := Nat.zero_le _

theorem switch {s : Store} (hs : s.Bounded) (on : Bool) :
    ({ s with enabled := on } : Store).Bounded where
  nodup := hs.nodup
  known := hs.known
  file := hs.file
  held := hs.held
  room := hs.room

theorem shuffle {s : Store} (hs : s.Bounded) {order : List EntryId}
    (hperm : order.Perm s.mapped) : ({ s with mapped := order } : Store).Bounded where
  nodup := hperm.nodup_iff.mpr hs.nodup
  known id hid := hs.known id (hperm.mem_iff.mp hid)
  file id hid := hs.file id (hperm.mem_iff.mp hid)
  held := by
    have hsum : ({ s with mapped := order } : Store).heldBytes = s.heldBytes :=
      (hperm.map s.sizeOf).sum_nat
    rw [hsum]
    exact hs.held
  room := hs.room

end Bounded
end Store

/-! ## Turns -/

theorem Lookup.Effect.bounded {now : Nat} {path : Path} {phase : Lookup} {s t : Store}
    (h : Lookup.Effect now path phase s t) (hs : s.Bounded)
    (hphase : ∀ gate copy, phase = .storing gate copy → copy.size ≤ s.limits.maxFile) :
    t.Bounded := by
  cases h with
  | nothing h => exact h.bounded hs
  | used id _ h => exact h.bounded (hs.markUsed now id)
  | inserted gate copy hstoring haccepts h =>
    have hroom : s.used + copy.size ≤ s.limits.capacity := by
      simp only [Store.accepts, decide_eq_true_eq] at haccepts
      exact haccepts.2.2
    exact h.bounded (hs.insert (hphase gate copy hstoring) hroom)

theorem Sweep.Effect.bounded {now : Nat} {sw : Sweep} {s t : Store}
    (h : Sweep.Effect now sw s t) (hs : s.Bounded) : t.Bounded := by
  cases h with
  | nothing h => exact h.bounded hs
  | removed id hid _ h => exact h.bounded (hs.unmap hid)
  | forgotten id hid _ _ h =>
    obtain ⟨e, he⟩ := hs.entry hid
    have hle := hs.sizeOf_le_used hid
    exact h.bounded (hs.revise hid (Store.sizeOf_revise_self he _ _) (Nat.zero_le _)
      (by show s.used + 0 ≤ _; omega) (Nat.le_trans (Nat.sub_le _ _) hs.room))
  | vacated id hid _ _ h =>
    obtain ⟨e, he⟩ := hs.entry hid
    have hle := hs.sizeOf_le_used hid
    exact h.bounded (hs.revise hid (Store.sizeOf_revise_self he _ _) (Nat.zero_le _)
      (by show s.used + 0 ≤ _; omega) (Nat.le_trans (Nat.sub_le _ _) hs.room))
  | exchanged id copy hid _ _ hroom h =>
    obtain ⟨e, he⟩ := hs.entry hid
    have hle := hs.sizeOf_le_used hid
    obtain ⟨hfile, hroom⟩ := Store.hasRoom_iff.mp hroom
    exact h.bounded (hs.revise hid (Store.sizeOf_revise_self he _ _) hfile
      (by show s.used + copy.size ≤ _; omega) hroom)
  | refilled id copy hid _ _ hroom h =>
    obtain ⟨e, he⟩ := hs.entry hid
    obtain ⟨hfile, hroom⟩ := Store.hasRoom_iff.mp hroom
    exact h.bounded (hs.revise hid (Store.sizeOf_revise_self he _ _) hfile
      (by show s.used + copy.size ≤ _; omega) hroom)

theorem Lookup.Effect.limits {now : Nat} {path : Path} {phase : Lookup} {s t : Store}
    (h : Lookup.Effect now path phase s t) : t.limits = s.limits := by
  cases h with
  | nothing h => exact h.limits
  | used _ _ h => exact h.limits
  | inserted _ _ _ _ h => exact h.limits

theorem Sweep.Effect.limits {now : Nat} {sw : Sweep} {s t : Store}
    (h : Sweep.Effect now sw s t) : t.limits = s.limits := by
  rcases h.kinds with h | ⟨id, -, h⟩ | ⟨id, -, change, used, h⟩
  · exact h.limits
  · exact h.limits
  · exact h.limits

/-- A lookup is about to store a copy only if the copy is small enough. -/
theorem Lookup.Course.storing {now : Nat} {disk : Disk} {path : Path} {s t : Store}
    {phase : Lookup} {gate : GateId} {copy : Copy}
    (h : Lookup.Course now disk path s phase (.storing gate copy) t) :
    copy.size ≤ s.limits.maxFile := by
  generalize hnext : Lookup.storing gate copy = next at h
  cases h with
  | @take gate' _ _ _ _ _ => cases gate' <;> cases hnext
  | @answer gate' _ _ _ => cases gate' <;> cases hnext
  | keep _ hsize =>
    cases hnext
    exact hsize
  | _ => cases hnext

/-! ## Runs -/

namespace World

/-- The store is within its limits, and so is what lookups are about to store. -/
structure Bounded (w : World) : Prop where
  store : w.store.Bounded
  storing : ∀ id path gate copy, w.lookup? id = some (path, .storing gate copy) →
    copy.size ≤ w.store.limits.maxFile

theorem Bounded.freshOn (disk : Disk) (limits : Limits) (wall : Time.Timestamp) :
    (freshOn disk limits wall).Bounded where
  store := .fresh limits
  storing id path gate copy h := by cases h

theorem Move.limits {w w' : World} {event : Event} (h : Move w event w') :
    w'.store.limits = w.store.limits := by
  cases h with
  | idle hstore _ _ _ => rw [hstore]
  | lookup _ _ _ _ _ _ hstep hstore _ _ _ =>
    rw [hstore]
    exact (Lookup.step_course hstep).effect.limits
  | sweep _ _ _ _ _ hturn =>
    rw [hturn.store]
    exact (Sweep.step_effect hturn.step).limits
  | clear hstore _ => rw [hstore]; rfl
  | switch _ hstore _ => rw [hstore]
  | shuffle _ _ hstore _ => rw [hstore]

theorem Bounded.move {w w' : World} {event : Event} (hw : w.Bounded)
    (h : Move w event w') : w'.Bounded := by
  refine ⟨?_, fun id path gate copy hat => ?_⟩
  · cases h with
    | idle hstore _ _ _ => exact hstore ▸ hw.store
    | lookup id path phase st _ hat hstep hstore _ _ _ =>
      rw [hstore]
      exact (Lookup.step_course hstep).effect.bounded hw.store fun gate copy hphase =>
        hw.storing id path gate copy (hphase ▸ hat)
    | sweep _ _ _ _ _ hturn =>
      rw [hturn.store]
      exact (Sweep.step_effect hturn.step).bounded hw.store
    | clear hstore _ => exact hstore ▸ .dropAll w.store
    | switch on hstore _ => exact hstore ▸ hw.store.switch on
    | shuffle _ hperm hstore _ => exact hstore ▸ hw.store.shuffle hperm
  · rw [h.limits]
    rcases h.lookup_cases hat with hold | ⟨-, hnew⟩ | ⟨before, st, -, hstep, -, hnext⟩
    · exact hw.storing id path gate copy hold
    · cases hnew
    · have hcourse := Lookup.step_course hstep
      rw [← hnext] at hcourse
      exact hcourse.storing

theorem limits_passed {w : World} {events : List Event} :
    ∀ v ∈ w.passed events, v.store.limits = w.store.limits :=
  passed_induction (P := fun v => v.store.limits = w.store.limits)
    (fun _ _ _ _ hlimits happly => (apply_move happly).limits.trans hlimits) rfl

theorem Bounded.passed {disk : Disk} {limits : Limits} {wall : Time.Timestamp}
    {events : List Event} :
    ∀ v ∈ (World.freshOn disk limits wall).passed events, v.Bounded :=
  passed_induction (fun _ _ _ _ hw happly => hw.move (apply_move happly))
    (.freshOn disk limits wall)

end World

/-! ## Subtraction -/

/-- Subtraction that fails where it would go below zero. -/
def less? (a b : Nat) : Option Nat := if b ≤ a then some (a - b) else none

theorem less?_eq {a b : Nat} (h : b ≤ a) : less? a b = some (a - b) := if_pos h

namespace Store

/-! The operations of the store that take bytes from the count, with a subtraction that
can fail. -/

def unmapChecked (id : EntryId) (s : Store) : Option Store :=
  (less? s.used (s.sizeOf id)).map fun used =>
    { s with mapped := s.mapped.erase id, used }.count .eviction

def discardChecked (id : EntryId) (s : Store) : Option Store :=
  if s.isMapped id then s.unmapChecked id else some s

def forgetChecked (id : EntryId) (s : Store) : Option Store :=
  if s.isMapped id then
    let wasMissing := (s.entry? id).any fun e => e.content = .missing
    (less? s.used (s.sizeOf id)).map fun used =>
      let s := { s.modify id Entry.forget with used }
      if wasMissing then s else s.count .invalidation
  else some s

def hasRoomChecked (s : Store) (old new : Nat) : Option Bool :=
  if new ≤ s.limits.maxFile then
    (less? s.used old).map fun used => used + new ≤ s.limits.capacity
  else some false

def exchangeChecked (now : Nat) (id : EntryId) (copy : Copy) (s : Store) :
    Option (Store × Verdict) :=
  if s.isMapped id then do
    let old := s.sizeOf id
    if ← s.hasRoomChecked old copy.size then
      let used ← less? s.used old
      return (({ s with used := used + copy.size }.modify id (Entry.replace now copy)).count
        .refresh, .preloaded)
    else return (← s.unmapChecked id, .failed)
  else some (s, .noChange)

def vacateChecked (id : EntryId) (s : Store) : Option (Option Store) :=
  if s.isMapped id then
    (less? s.used (s.sizeOf id)).map fun used => some ({ s with used }.modify id Entry.vacate)
  else some none

def refillChecked (now : Nat) (id : EntryId) (copy : Copy) (s : Store) :
    Option (Store × Verdict) :=
  if s.isMapped id then do
    if ← s.hasRoomChecked 0 copy.size then
      return (({ s with used := s.used + copy.size }.modify id (Entry.replace now copy)).count
        .refresh, .swapped)
    else return (← s.unmapChecked id, .failed)
  else some (s, .noChange)

/-- No subtraction of the store fails, whatever entry and copy it is about. -/
structure NeverShort (s : Store) : Prop where
  discard : ∀ id, s.discardChecked id = some (s.discard id)
  forget : ∀ id, s.forgetChecked id = some (s.forget id)
  exchange : ∀ now id copy, s.exchangeChecked now id copy = some (s.exchange now id copy)
  vacate : ∀ id, s.vacateChecked id = some (s.vacate? id)
  refill : ∀ now id copy, s.refillChecked now id copy = some (s.refill now id copy)

theorem hasRoomChecked_eq {s : Store} {old : Nat} (h : old ≤ s.used) (new : Nat) :
    s.hasRoomChecked old new = some (s.hasRoom old new) := by
  unfold hasRoomChecked hasRoom
  by_cases hfile : new ≤ s.limits.maxFile
  · rw [if_pos hfile, less?_eq h]
    simp [hfile]
  · rw [if_neg hfile]
    simp [hfile]

theorem unmapChecked_eq {s : Store} {id : EntryId} (h : s.sizeOf id ≤ s.used) :
    s.unmapChecked id = some (s.unmap id) := by
  rw [unmapChecked, less?_eq h, Option.map_some, unmap]

/-- A count that covers what the entries hold never falls short. -/
theorem Bounded.neverShort {s : Store} (hs : s.Bounded) : s.NeverShort := by
  have hle (id : EntryId) (hid : s.isMapped id = true) : s.sizeOf id ≤ s.used :=
    hs.sizeOf_le_used (isMapped_iff.mp hid)
  constructor
  · intro id
    unfold discardChecked discard
    split
    · rename_i hid
      exact unmapChecked_eq (hle id hid)
    · rfl
  · intro id
    unfold forgetChecked forget
    split
    · rename_i hid
      simp only [less?_eq (hle id hid), Option.map_some]
    · rfl
  · intro now id copy
    unfold exchangeChecked exchange
    split
    · rename_i hid
      simp only [hasRoomChecked_eq (hle id hid), less?_eq (hle id hid),
        unmapChecked_eq (hle id hid), Option.bind_eq_bind, Option.bind_some, Option.pure_def]
      split <;> rfl
    · rfl
  · intro id
    unfold vacateChecked vacate?
    split
    · rename_i hid
      rw [less?_eq (hle id hid), Option.map_some]
    · rfl
  · intro now id copy
    unfold refillChecked refill
    split
    · rename_i hid
      simp only [hasRoomChecked_eq (Nat.zero_le s.used), unmapChecked_eq (hle id hid),
        Option.bind_eq_bind, Option.bind_some, Option.pure_def]
      split <;> rfl
    · rfl

end Store

namespace World

/-- In every run, with any number of overlapping sweeps, every entry and the count stay
within the limits, the count covers the bytes held, and no subtraction from it falls
short. -/
theorem limits_hold (disk : Disk) (limits : Limits) (wall : Time.Timestamp)
    (events : List Event) :
    ∀ v ∈ (freshOn disk limits wall).passed events,
      (∀ id ∈ v.store.mapped, v.store.sizeOf id ≤ limits.maxFile) ∧
      v.store.heldBytes ≤ v.store.used ∧ v.store.used ≤ limits.capacity ∧
      v.store.NeverShort := by
  intro v hv
  have hstore : v.store.Bounded := (Bounded.passed v hv).store
  have hlimits : v.store.limits = limits := limits_passed v hv
  have hfile := hstore.file
  have hroom := hstore.room
  rw [hlimits] at hfile hroom
  exact ⟨hfile, hstore.held, hroom, hstore.neverShort⟩

/-- An entry of 7 bytes is cached, its file is written anew with 4, and one sweep is over
with it while another is still reading it. -/
def overlap : List Event :=
  [Event.edit (.write "a" (List.replicate 7 0) ⟨0, 0⟩), .call (.toggle true), .turn (.call 0),
    .call (.lookup ⟨"a"⟩)] ++ List.replicate 10 (Event.turn (.call 1)) ++
  [Event.edit (.write "a" (List.replicate 4 1) ⟨5, 0⟩), .call .sweep, .call .sweep] ++
  List.replicate 6 (Event.turn (.call 2)) ++ List.replicate 9 (Event.turn (.call 3)) ++
  List.replicate 4 (Event.turn (.call 2))

theorem limits_hold_overlap :
    ∃ v ∈ (freshOn Disk.empty ⟨7, 10, 1000⟩ ⟨0, 0⟩).passed overlap,
      v.store.mapped = [0] ∧ v.store.sizeOf 0 ≤ 7 ∧ v.store.heldBytes ≤ v.store.used ∧
      v.store.used ≤ 10 ∧ v.store.NeverShort := by
  have hrun : (((freshOn Disk.empty ⟨7, 10, 1000⟩ ⟨0, 0⟩).run overlap).map fun r =>
      r.1.store.mapped) = some [0] := by decide +kernel
  obtain ⟨⟨v, notices⟩, hrun, hmapped⟩ := Option.map_eq_some_iff.mp hrun
  have hv := mem_passed_of_run hrun
  obtain ⟨hfile, hheld, hroom, hshort⟩ :=
    limits_hold Disk.empty ⟨7, 10, 1000⟩ ⟨0, 0⟩ overlap v hv
  exact ⟨v, hv, hmapped, hfile 0 (hmapped ▸ List.mem_singleton.mpr rfl), hheld, hroom, hshort⟩

end World
end FileCache
