import FileCache.Proofs.Sweep.Table

/-!
The two ways of renewing an entry come to the same.

One reads the file beside the old content and changes all at once; the other gives up the old
content first, and counts in two steps what the first counts in one.  They part when the file
cannot be read: then the second has nothing left to keep.  And they part in what they leave of an
entry that they take out of the map because its file does not fit (`full_routes_part`): whoever
still has that entry finds the old content in it after the first, and none after the second.
-/

namespace FileCache

namespace Store

variable {now : Nat} {d : Disk} {s : Store} {id : EntryId} {e : Entry} {copy : Copy}

/-- A file that does not fit is not put in the place of the old content. -/
theorem preload_full (hid : id ∈ s.mapped) (he : s.entry? id = some e)
    (hread : d.read e.path = .copy copy) (hfull : s.hasRoom e.size copy.size = false) :
    s.preload now d id e.path = (s.settle id e .failed none, .failed) := by
  rw [preload, hread]
  simp only [exchange, isMapped_iff.mpr hid, sizeOf_eq he, hfull, if_true, Bool.false_eq_true,
    if_false, unmap_eq he (.inr rfl)]

theorem swap_full (hid : id ∈ s.mapped) (he : s.entry? id = some e)
    (hread : d.read e.path = .copy copy) (hfull : s.hasRoom e.size copy.size = false) :
    s.swap now d id e.path =
      ({ s.settle id e .failed none with entries := s.entries.set id e.vacate }, .failed) := by
  have hfull' : (s.vacated id e).hasRoom 0 copy.size = false := hfull
  rw [swap_eq hid he, reload, hread]
  simp only [refill, isMapped_iff.mpr (mem_vacated hid), hfull', if_true, Bool.false_eq_true,
    if_false, unmap_eq (entry?_vacated he) (.inr rfl)]
  rfl

end Store

namespace Sweep

variable {now : Nat} {d : Disk} {s : Store} {id : EntryId} {e : Entry} {rest : List EntryId}

/-- From one store on, both ways of renewing an entry that has content end with the same store,
whatever the size of the file, and also if there is none; the verdicts differ in name at most.  Only
if the file does not fit, the entry has left the map with its old content after the first way, and
without any after the second.  If the file cannot be read, the first way leaves everything as it
was, and the second evicts the entry. -/
theorem routes_agree (sw : Sweep) (htodo : sw.todo = id :: rest) (hs : s.Orderly)
    (hid : id ∈ s.mapped) (he : s.entry? id = some e) {old : Copy}
    (hcontent : e.content = .present old) (hused : e.size ≤ s.used) :
    ∃ v t v' t', Concludes now d s { sw with phase := .preloading .opening } e v t ∧
      Concludes now d s { sw with phase := .vacating } e v' t' ∧
      ((∀ error, d.read e.path ≠ .failed error) →
        v' = (if v = .preloaded then .swapped else v) ∧
        t' = (if id ∈ t.mapped then t else { t with entries := t.entries.set id e.vacate }) ∧
        (id ∉ t.mapped → v = .failed ∧ t.entry? id = some e)) ∧
      ∀ error, d.read e.path = .failed error →
        v = .unknown ∧ t = s ∧ v' = .failed ∧
          t' = { s with
            entries := s.entries.set id e.vacate
            mapped := s.mapped.erase id
            used := s.used - e.size
            tally := s.tally.add .eviction } ∧
          t'.used + e.size = s.used := by
  have hmissing : e.content ≠ .missing := by rw [hcontent]; nofun
  refine ⟨_, _, _, _, concludes_preloading htodo he rfl, concludes_vacating htodo he rfl, ?_⟩
  cases hread : d.read e.path with
  | copy copy =>
    refine ⟨fun _ => ?_, nofun⟩
    cases hroom : s.hasRoom e.size copy.size with
    | true =>
      rw [Store.preload_copy hid he hread hroom, Store.swap_copy hid he hmissing hread hroom]
      exact ⟨rfl, (if_pos hid).symm, fun hnot => absurd hid hnot⟩
    | false =>
      have hgone : id ∉ (s.settle id e .failed none).mapped := hs.nodup.not_mem_erase
      rw [Store.preload_full hid he hread hroom, Store.swap_full hid he hread hroom]
      exact ⟨rfl, (if_neg hgone).symm, fun _ => ⟨rfl, he⟩⟩
  | absent =>
    refine ⟨fun _ => ?_, nofun⟩
    rw [Store.preload_absent hid he hread, Store.swap_absent hid he hmissing hread]
    exact ⟨rfl, (if_pos hid).symm, fun hnot => absurd hid hnot⟩
  | failed error =>
    refine ⟨fun h => absurd rfl (h error), fun _ _ => ?_⟩
    rw [Store.preload_failed hread, Store.swap_failed hid he hread]
    exact ⟨rfl, rfl, rfl, rfl, Nat.sub_add_cancel hused⟩

theorem routes_agree_crowded : ∃ v t v' t',
    Concludes 1000 drawer crowded ⟨.preloading .opening, [0], false, {}⟩ outdated v t ∧
      Concludes 1000 drawer crowded ⟨.vacating, [0], false, {}⟩ outdated v' t' ∧
      ((∀ error, drawer.read ⟨"a"⟩ ≠ .failed error) →
        v' = (if v = .preloaded then .swapped else v) ∧
        t' = (if 0 ∈ t.mapped then t else { t with entries := t.entries.set 0 outdated.vacate }) ∧
        (0 ∉ t.mapped → v = .failed ∧ t.entry? 0 = some outdated)) ∧
      ∀ error, drawer.read ⟨"a"⟩ = .failed error →
        v = .unknown ∧ t = crowded ∧ v' = .failed ∧
          t' = { crowded with
            entries := crowded.entries.set 0 outdated.vacate
            mapped := crowded.mapped.erase 0
            used := crowded.used - outdated.size
            tally := crowded.tally.add .eviction } ∧
          t'.used + outdated.size = crowded.used :=
  routes_agree ⟨.vacating, [0], false, {}⟩ rfl ⟨by decide, by decide⟩ (by decide) rfl rfl
    (by decide)

/-- A store for whose largest files the file in the drawer is too long. -/
def narrow : Store :=
  { Store.fresh ⟨3, 6, 1000⟩ with entries := [outdated], mapped := [0], used := 3 }

/-- The entry is taken out of the map in both ways, with its old content in one and without it in
the other. -/
theorem full_routes_part :
    0 ∈ narrow.mapped ∧ narrow.entry? 0 = some outdated ∧ outdated.size ≤ narrow.used ∧
      (∀ error, drawer.read ⟨"a"⟩ ≠ .failed error) ∧
      ∃ v t v' t',
        Concludes 1000 drawer narrow ⟨.preloading .opening, [0], false, {}⟩ outdated v t ∧
        Concludes 1000 drawer narrow ⟨.vacating, [0], false, {}⟩ outdated v' t' ∧
        t.mapped = [] ∧ t'.mapped = [] ∧
        (t.entry? 0).map Entry.content = some outdated.content ∧
        (t'.entry? 0).map Entry.content = some .reloading := by
  have hread : drawer.read ⟨"a"⟩ = .copy ⟨[1, 2, 3, 4], ⟨⟨5, 0⟩, 4⟩⟩ := by decide +kernel
  refine ⟨by decide, rfl, by decide, by rw [hread]; nofun, _, _, _, _,
    concludes_preloading rfl rfl rfl, concludes_vacating rfl rfl rfl, ?_⟩
  rw [Store.preload_full (by decide) rfl hread rfl, Store.swap_full (by decide) rfl hread rfl]
  exact ⟨rfl, rfl, rfl, rfl⟩

end Sweep
end FileCache
