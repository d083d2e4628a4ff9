import FileCache.Proofs.Store.Bytes

/-!
What the steps that end a visit leave of the entry.

Each of them takes the entry out of the map or gives it the content that it was meant to have;
an entry that is in the map no more is left alone.
-/

namespace FileCache
namespace Store

variable {s : Store} {id : EntryId} {e : Entry}

theorem Orderly.not_mem_unmap (hs : s.Orderly) : id ∉ (s.unmap id).mapped :=
  hs.nodup.not_mem_erase

theorem Orderly.not_mem_discard (hs : s.Orderly) : id ∉ (s.discard id).mapped := by
  unfold Store.discard
  split
  · exact hs.not_mem_unmap
  · rename_i hid
    exact fun h => hid (isMapped_iff.mpr h)

theorem Orderly.exchange_leaves (hs : s.Orderly) (he : s.entry? id = some e) (now : Nat)
    (copy : Copy) : id ∉ (s.exchange now id copy).1.mapped ∨
      Store.entry? (s.exchange now id copy).1 id = some (e.replace now copy) := by
  unfold Store.exchange
  split
  · simp only []
    split
    · exact .inr (entry?_revise_self he _ s.used)
    · exact .inl hs.not_mem_unmap
  · rename_i hid
    exact .inl fun h => hid (isMapped_iff.mpr h)

theorem Orderly.refill_leaves (hs : s.Orderly) (he : s.entry? id = some e) (now : Nat)
    (copy : Copy) : id ∉ (s.refill now id copy).1.mapped ∨
      Store.entry? (s.refill now id copy).1 id = some (e.replace now copy) := by
  unfold Store.refill
  split
  · split
    · exact .inr (entry?_revise_self he _ s.used)
    · exact .inl hs.not_mem_unmap
  · rename_i hid
    exact .inl fun h => hid (isMapped_iff.mpr h)

theorem forget_leaves (he : s.entry? id = some e) :
    id ∉ (s.forget id).mapped ∨ Store.entry? (s.forget id) id = some e.forget := by
  unfold Store.forget
  split
  · simp only []
    split
    · exact .inr (entry?_revise_self he _ s.used)
    · exact .inr (entry?_revise_self he _ s.used)
  · rename_i hid
    exact .inl fun h => hid (isMapped_iff.mpr h)

end Store
end FileCache
