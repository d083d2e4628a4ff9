import FileCache.Proofs.Store.Alike
import Mathlib.Algebra.GroupWithZero.Nat

/-!
The bytes that a store holds, entry by entry, after each of its operations.

`heldBytes` counts the mapped entries one by one.  Every lemma about it has the form of
a sum, so that no subtraction hides a loss.
-/

namespace FileCache
namespace Store

/-- The bytes that the mapped entries hold, counted one by one. -/
def heldBytes (s : Store) : Nat := (s.mapped.map s.sizeOf).sum

theorem Alike.heldBytes {s t : Store} (h : Alike s t) : t.heldBytes = s.heldBytes := by
  rw [Store.heldBytes, Store.heldBytes, h.mapped, h.sizeOf]

/-! ## Sizes of single entries -/

theorem sizeOf_eq {s : Store} {id : EntryId} {e : Entry} (h : s.entry? id = some e) :
    s.sizeOf id = e.size := by
  rw [sizeOf, h]

/-- Changes one entry and sets the count. -/
def revise (id : EntryId) (change : Entry → Entry) (used : Nat) (s : Store) : Store :=
  { s.modify id change with used }

theorem entry?_revise_self {s : Store} {id : EntryId} {e : Entry} (h : s.entry? id = some e)
    (change : Entry → Entry) (used : Nat) :
    Store.entry? (s.revise id change used) id = some (change e) := by
  rw [Store.entry?] at h
  simp [Store.entry?, revise, modify, h]

theorem entry?_revise_of_ne {s : Store} {id other : EntryId} (h : id ≠ other)
    (change : Entry → Entry) (used : Nat) :
    Store.entry? (s.revise id change used) other = s.entry? other := by
  simp [Store.entry?, revise, modify, h]

theorem sizeOf_revise_self {s : Store} {id : EntryId} {e : Entry} (h : s.entry? id = some e)
    (change : Entry → Entry) (used : Nat) :
    (s.revise id change used).sizeOf id = (change e).size :=
  sizeOf_eq (Store.entry?_revise_self h change used)

theorem sizeOf_revise_of_ne {s : Store} {id other : EntryId} (h : id ≠ other)
    (change : Entry → Entry) (used : Nat) :
    (s.revise id change used).sizeOf other = s.sizeOf other := by
  rw [sizeOf, sizeOf, entry?_revise_of_ne h]

theorem markUsed_eq_revise (s : Store) (now : Nat) (id : EntryId) :
    s.markUsed now id = s.revise id (Entry.markUsed now) s.used := rfl

/-- Being used changes the size of no entry. -/
theorem sizeOf_markUsed (s : Store) (now : Nat) (id : EntryId) :
    (s.markUsed now id).sizeOf = s.sizeOf := by
  funext other
  rw [markUsed_eq_revise]
  by_cases h : id = other
  · subst h
    cases he : s.entry? id with
    | none =>
      have hnone : Store.entry? (s.revise id (Entry.markUsed now) s.used) id = none := by
        rw [Store.entry?] at he
        simp [Store.entry?, revise, modify, he]
      rw [sizeOf, sizeOf, hnone, he]
    | some e =>
      rw [sizeOf_revise_self he, sizeOf_eq he]
      rfl
  · exact sizeOf_revise_of_ne h _ _

theorem entry?_insert_of_lt {s : Store} {id : EntryId} (h : id < s.entries.length) (now : Nat)
    (path : Path) (copy : Copy) : Store.entry? (s.insert now path copy) id = s.entry? id := by
  simp [Store.entry?, insert, List.getElem?_append_left h]

theorem entry?_insert_length (s : Store) (now : Nat) (path : Path) (copy : Copy) :
    Store.entry? (s.insert now path copy) s.entries.length = some (Entry.ofCopy now path copy) := by
  simp [Store.entry?, insert]

theorem sizeOf_insert_of_lt {s : Store} {id : EntryId} (h : id < s.entries.length) (now : Nat)
    (path : Path) (copy : Copy) : (s.insert now path copy).sizeOf id = s.sizeOf id := by
  rw [sizeOf, sizeOf, entry?_insert_of_lt h]

theorem sizeOf_insert_length (s : Store) (now : Nat) (path : Path) (copy : Copy) :
    (s.insert now path copy).sizeOf s.entries.length = copy.size :=
  sizeOf_eq (Store.entry?_insert_length s now path copy)

/-! ## The map -/

/-- The map names every entry once, and only entries that were made. -/
structure Orderly (s : Store) : Prop where
  nodup : s.mapped.Nodup
  known : ∀ id ∈ s.mapped, id < s.entries.length

theorem isMapped_iff {s : Store} {id : EntryId} : s.isMapped id = true ↔ id ∈ s.mapped := by
  simp [isMapped]

theorem Orderly.entry {s : Store} (hs : s.Orderly) {id : EntryId} (hid : id ∈ s.mapped) :
    ∃ e, s.entry? id = some e :=
  ⟨_, List.getElem?_eq_getElem (hs.known id hid)⟩

theorem Alike.orderly {s t : Store} (h : Alike s t) (hs : s.Orderly) : t.Orderly :=
  ⟨h.mapped ▸ hs.nodup, fun id hid => by rw [h.entries]; exact hs.known id (h.mapped ▸ hid)⟩

theorem Orderly.revise {s : Store} (hs : s.Orderly) (id : EntryId) (change : Entry → Entry)
    (used : Nat) : (s.revise id change used).Orderly :=
  ⟨hs.nodup, fun other hid => by
    rw [Store.revise, modify, List.length_modify]
    exact hs.known other hid⟩

theorem Orderly.markUsed {s : Store} (hs : s.Orderly) (now : Nat) (id : EntryId) :
    (s.markUsed now id).Orderly := hs.revise id _ s.used

theorem Orderly.unmap {s : Store} (hs : s.Orderly) (id : EntryId) : (s.unmap id).Orderly :=
  ⟨hs.nodup.erase id, fun other hid => hs.known other (List.mem_of_mem_erase hid)⟩

theorem Orderly.dropAll (s : Store) : s.dropAll.Orderly :=
  ⟨List.nodup_nil, fun _ hid => absurd hid List.not_mem_nil⟩

theorem Orderly.insert {s : Store} (hs : s.Orderly) (now : Nat) (path : Path) (copy : Copy) :
    (s.insert now path copy).Orderly := by
  constructor
  · have hnew : s.entries.length ∉ s.mapped := fun h => Nat.lt_irrefl _ (hs.known _ h)
    rw [Store.insert, List.nodup_append]
    refine ⟨hs.nodup, by simp, fun a ha b hb e => ?_⟩
    rw [List.mem_singleton] at hb
    exact hnew (hb ▸ e ▸ ha)
  · intro id hid
    rw [Store.insert, List.length_append, List.length_singleton]
    rcases List.mem_append.mp hid with h | h
    · exact Nat.lt_succ_of_lt (hs.known id h)
    · rw [List.mem_singleton.mp h]; exact Nat.lt_succ_self _

/-! ## Bytes held -/

/-- The share of one entry, apart from that of all others. -/
theorem heldBytes_eq_add {s : Store} {id : EntryId} (hid : id ∈ s.mapped) :
    s.heldBytes = s.sizeOf id + ((s.mapped.erase id).map s.sizeOf).sum := by
  have h := ((List.perm_cons_erase hid).map s.sizeOf).sum_nat
  rw [heldBytes, h, List.map_cons, List.sum_cons]

theorem sizeOf_le_heldBytes {s : Store} {id : EntryId} (hid : id ∈ s.mapped) :
    s.sizeOf id ≤ s.heldBytes := by
  rw [heldBytes_eq_add hid]
  exact Nat.le_add_right _ _

/-- Revising one mapped entry moves the bytes held by the change of its size. -/
theorem heldBytes_revise {s : Store} (hs : s.Orderly) {id : EntryId} (hid : id ∈ s.mapped)
    (change : Entry → Entry) (used : Nat) :
    (s.revise id change used).heldBytes + s.sizeOf id =
      s.heldBytes + (s.revise id change used).sizeOf id := by
  have hrest : (s.mapped.erase id).map (s.revise id change used).sizeOf =
      (s.mapped.erase id).map s.sizeOf := by
    refine List.map_congr_left fun other ho => ?_
    have hne : id ≠ other := fun e => hs.nodup.not_mem_erase (e ▸ ho)
    exact sizeOf_revise_of_ne hne change used
  have hid' : id ∈ (s.revise id change used).mapped := hid
  have hmapped : (s.revise id change used).mapped = s.mapped := rfl
  rw [heldBytes_eq_add hid, heldBytes_eq_add hid', hmapped, hrest]
  omega

/-- An entry that leaves the map takes its bytes with it. -/
theorem heldBytes_unmap {s : Store} {id : EntryId} (hid : id ∈ s.mapped) :
    (s.unmap id).heldBytes + s.sizeOf id = s.heldBytes := by
  have h : (s.unmap id).heldBytes = ((s.mapped.erase id).map s.sizeOf).sum := rfl
  rw [heldBytes_eq_add hid, h, Nat.add_comm]

theorem heldBytes_insert {s : Store} (hs : s.Orderly) (now : Nat) (path : Path) (copy : Copy) :
    (s.insert now path copy).heldBytes = s.heldBytes + copy.size := by
  have hold : s.mapped.map (s.insert now path copy).sizeOf = s.mapped.map s.sizeOf :=
    List.map_congr_left fun id hid => sizeOf_insert_of_lt (hs.known id hid) now path copy
  have hmapped : (s.insert now path copy).mapped = s.mapped ++ [s.entries.length] := rfl
  rw [heldBytes, hmapped, List.map_append, List.sum_append_nat, hold, List.map_singleton,
    List.sum_singleton, sizeOf_insert_length, heldBytes]

theorem heldBytes_markUsed (s : Store) (now : Nat) (id : EntryId) :
    (s.markUsed now id).heldBytes = s.heldBytes := by
  rw [heldBytes, heldBytes, sizeOf_markUsed]
  rfl

end Store
end FileCache
