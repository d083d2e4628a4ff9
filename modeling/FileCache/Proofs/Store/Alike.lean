import FileCache.Store

/-!
Stores that differ at most in their counters and their gates.

Most steps of a task touch only these.  Whatever is said of the entries, the map and
the count of bytes is carried over by `Alike`.
-/

namespace FileCache
namespace Store

structure Alike (s t : Store) : Prop where
  limits : t.limits = s.limits
  enabled : t.enabled = s.enabled
  entries : t.entries = s.entries
  mapped : t.mapped = s.mapped
  used : t.used = s.used

namespace Alike

@[refl] theorem refl (s : Store) : Alike s s := ⟨rfl, rfl, rfl, rfl, rfl⟩

theorem trans {s t u : Store} (h : Alike s t) (k : Alike t u) : Alike s u :=
  ⟨k.limits.trans h.limits, k.enabled.trans h.enabled, k.entries.trans h.entries,
    k.mapped.trans h.mapped, k.used.trans h.used⟩

theorem entry? {s t : Store} (h : Alike s t) (id : EntryId) : t.entry? id = s.entry? id := by
  rw [Store.entry?, Store.entry?, h.entries]

theorem sizeOf {s t : Store} (h : Alike s t) : t.sizeOf = s.sizeOf := by
  funext id
  rw [Store.sizeOf, Store.sizeOf, h.entry? id]

end Alike

theorem alike_count (c : Count) (s : Store) : Alike s (s.count c) := ⟨rfl, rfl, rfl, rfl, rfl⟩

theorem alike_modifyGate (id : GateId) (change : Gate → Gate) (s : Store) :
    Alike s (s.modifyGate id change) := ⟨rfl, rfl, rfl, rfl, rfl⟩

theorem alike_arrive (path : Path) (s : Store) : Alike s (s.arrive path).2 := by
  unfold arrive
  split
  · exact alike_modifyGate _ _ s
  · exact ⟨rfl, rfl, rfl, rfl, rfl⟩

theorem alike_lock (id : GateId) (s : Store) : Alike s (s.lock id) := alike_modifyGate _ _ s

theorem alike_unlock (id : GateId) (s : Store) : Alike s (s.unlock id) := alike_modifyGate _ _ s

theorem alike_leave (id : GateId) (path : Path) (s : Store) : Alike s (s.leave id path) := by
  simp only [leave]
  split <;> exact ⟨rfl, rfl, rfl, rfl, rfl⟩

end Store
end FileCache
