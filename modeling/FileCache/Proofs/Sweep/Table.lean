import FileCache.Proofs.Sweep.Alone

/-!
The table by which a visit is judged.

On a disk that reports true lengths, what a visit does is told by what it makes out about the
entry, by the two limits, and by what comes of reading the file.
-/

namespace FileCache

open Store (Orderly)

/-! ## The table -/

/-- The counter that moves with a verdict, if one does. -/
def Verdict.count? (wasMissing : Bool) : Verdict → Option Count
  | .stale => some .eviction
  | .failed => some .eviction
  | .notExist => if wasMissing then none else some .invalidation
  | .preloaded => some .refresh
  | .swapped => some .refresh
  | .unknown => none
  | .noChange => none

def Tally.tell (verdict : Verdict) (wasMissing : Bool) (t : Tally) : Tally :=
  (verdict.count? wasMissing).elim t fun count => t.add count

namespace Store

/-- The entry `e`, known as `id`, becomes `after`, or leaves the map; beside it only the bytes in
use change, and the counter that the verdict moves. -/
def settle (id : EntryId) (e : Entry) (verdict : Verdict) (after : Option Entry) (s : Store) :
    Store :=
  { s with
    entries := after.elim s.entries fun e' => s.entries.set id e'
    mapped := if after.isSome then s.mapped else s.mapped.erase id
    used := s.used - e.size + after.elim 0 Entry.size
    tally := s.tally.tell verdict (e.content = .missing) }

/-- The table's rows for an entry whose file is another, of the given size.  The table says
nothing of a file that then cannot be read; here the last two rows do. -/
def Renewed (now : Nat) (d : Disk) (s : Store) (id : EntryId) (e : Entry) (size : Nat)
    (verdict : Verdict) (t : Store) : Prop :=
  if s.limits.maxFile < size ∨ s.limits.capacity < s.used - e.size + size then
    verdict = .failed ∧ t = s.settle id e verdict none
  else
    match d.read e.path with
    | .copy copy =>
      d.Holds e.path copy ∧ copy.size = size ∧
        verdict = (if s.used + size ≤ s.limits.capacity then .preloaded else .swapped) ∧
        t = s.settle id e verdict (some (e.replace now copy))
    | .absent => verdict = .notExist ∧ t = s.settle id e verdict (some e.forget)
    | .failed _ =>
      if s.used + size ≤ s.limits.capacity then verdict = .unknown ∧ t = s
      else verdict = .failed ∧
        t = { s.settle id e verdict none with entries := s.entries.set id e.vacate }

/-- The verdict on the entry `e`, known as `id`, and the store after the visit, as the table has
them. -/
def Prescribed (now : Nat) (d : Disk) (s : Store) (id : EntryId) (e : Entry) (verdict : Verdict)
    (t : Store) : Prop :=
  match e.finding now s.limits.interval (d.statPath e.path) with
  | .idle => verdict = .stale ∧ t = s.settle id e verdict none
  | .unseen => verdict = .unknown ∧ t = s
  | .gone => verdict = .notExist ∧ t = s.settle id e verdict (some e.forget)
  | .same => verdict = .noChange ∧ t = s
  | .other size => s.Renewed now d id e size verdict t

variable {now : Nat} {d : Disk} {s t : Store} {id other : EntryId} {e : Entry} {verdict : Verdict}
  {copy : Copy}

/-! ## The entry that is settled, and all others -/

theorem entry?_settle_self (he : s.entry? id = some e) (verdict : Verdict)
    (after : Option Entry) :
    Store.entry? (s.settle id e verdict after) id = some (after.getD e) := by
  cases after with
  | none => exact he
  | some e' => exact List.getElem?_set_self (List.getElem?_eq_some_iff.mp he).1

theorem entry?_settle_of_ne (hne : other ≠ id) (e : Entry) (verdict : Verdict)
    (after : Option Entry) : Store.entry? (s.settle id e verdict after) other = s.entry? other := by
  cases after with
  | none => rfl
  | some e' => exact List.getElem?_set_ne hne.symm

theorem mem_settle_self (hs : s.Orderly) (hid : id ∈ s.mapped) (e : Entry) (verdict : Verdict)
    (after : Option Entry) : id ∈ (s.settle id e verdict after).mapped ↔ after.isSome = true := by
  cases after with
  | none => simpa [settle] using hs.nodup.not_mem_erase
  | some e' => simpa [settle] using hid

theorem mem_settle_of_ne (hne : other ≠ id) (e : Entry) (verdict : Verdict)
    (after : Option Entry) :
    other ∈ (s.settle id e verdict after).mapped ↔ other ∈ s.mapped := by
  cases after with
  | none => exact List.mem_erase_of_ne hne
  | some e' => exact Iff.rfl

theorem Orderly.settle (hs : s.Orderly) (id : EntryId) (e : Entry) (verdict : Verdict)
    (after : Option Entry) : (s.settle id e verdict after).Orderly := by
  cases after with
  | none =>
    exact ⟨hs.nodup.erase id, fun other hother => hs.known other (List.mem_of_mem_erase hother)⟩
  | some e' =>
    exact ⟨hs.nodup, fun other hother => by
      rw [Store.settle, Option.elim_some, List.length_set]
      exact hs.known other hother⟩

theorem Orderly.shuffle {order : List EntryId} (hs : s.Orderly) (hperm : order.Perm s.mapped) :
    Orderly { s with mapped := order } :=
  ⟨hperm.nodup_iff.mpr hs.nodup, fun _ hid => hs.known _ (hperm.mem_iff.mp hid)⟩

/-- To leave an entry as it is is to settle it so, if the verdict moves no counter. -/
theorem settle_self (he : s.entry? id = some e) (hsize : e.size ≤ s.used)
    (hverdict : verdict.count? (e.content = .missing) = none) :
    s.settle id e verdict (some e) = s := by
  obtain ⟨hlt, hget⟩ := List.getElem?_eq_some_iff.mp he
  have hentries : s.entries.set id e = s.entries := by rw [← hget, List.set_getElem_self]
  have hused : s.used - e.size + e.size = s.used := Nat.sub_add_cancel hsize
  simp only [settle, Option.elim_some, hentries, hused, Tally.tell, hverdict]
  rfl

/-! ## The steps that end a visit -/

theorem modify_entries (he : s.entry? id = some e) (change : Entry → Entry) :
    s.entries.modify id change = s.entries.set id (change e) := by
  have : Inhabited Entry := ⟨e⟩
  rw [List.modify_eq_set, show s.entries[id]? = some e from he, Option.getD_some]

theorem unmap_eq (he : s.entry? id = some e) (hverdict : verdict = .stale ∨ verdict = .failed) :
    s.unmap id = s.settle id e verdict none := by
  rw [unmap, sizeOf_eq he]
  rcases hverdict with rfl | rfl <;> rfl

theorem discard_eq (hid : id ∈ s.mapped) (he : s.entry? id = some e)
    (hverdict : verdict = .stale ∨ verdict = .failed) :
    s.discard id = s.settle id e verdict none := by
  rw [discard, if_pos (isMapped_iff.mpr hid), unmap_eq he hverdict]

theorem forget_eq (hid : id ∈ s.mapped) (he : s.entry? id = some e) :
    s.forget id = s.settle id e .notExist (some e.forget) := by
  rw [forget, if_pos (isMapped_iff.mpr hid), sizeOf_eq he, he, Option.any_some, modify,
    modify_entries he]
  by_cases hmissing : e.content = .missing
  · simp only [decide_eq_true hmissing, if_true, settle, Tally.tell]
    rfl
  · simp only [decide_eq_false hmissing, Bool.false_eq_true, if_false, settle, Tally.tell]
    rfl

theorem exchange_eq (hid : id ∈ s.mapped) (he : s.entry? id = some e)
    (hroom : s.hasRoom e.size copy.size = true) :
    s.exchange now id copy =
      (s.settle id e .preloaded (some (e.replace now copy)), .preloaded) := by
  rw [exchange, if_pos (isMapped_iff.mpr hid), sizeOf_eq he]
  simp only [hroom, if_true, modify, modify_entries he]
  rfl

theorem preload_copy (hid : id ∈ s.mapped) (he : s.entry? id = some e)
    (hread : d.read e.path = .copy copy) (hroom : s.hasRoom e.size copy.size = true) :
    s.preload now d id e.path =
      (s.settle id e .preloaded (some (e.replace now copy)), .preloaded) := by
  rw [preload, hread]
  exact exchange_eq hid he hroom

theorem preload_absent (hid : id ∈ s.mapped) (he : s.entry? id = some e)
    (hread : d.read e.path = .absent) :
    s.preload now d id e.path = (s.settle id e .notExist (some e.forget), .notExist) := by
  rw [preload, hread, forget_eq hid he]

theorem preload_failed {error : Errno} (hread : d.read e.path = .failed error) :
    s.preload now d id e.path = (s, .unknown) := by
  rw [preload, hread]

theorem refill_eq (hid : id ∈ s.mapped) (he : s.entry? id = some e) (hempty : e.size = 0)
    (hroom : s.hasRoom 0 copy.size = true) :
    s.refill now id copy = (s.settle id e .swapped (some (e.replace now copy)), .swapped) := by
  rw [refill, if_pos (isMapped_iff.mpr hid), if_pos hroom, modify, modify_entries he, settle,
    hempty]
  rfl

/-- The store while the content of the entry `e`, known as `id`, is given up. -/
def vacated (id : EntryId) (e : Entry) (s : Store) : Store :=
  { s with entries := s.entries.set id e.vacate, used := s.used - e.size }

theorem vacate_eq (hid : id ∈ s.mapped) (he : s.entry? id = some e) :
    s.vacate? id = some (s.vacated id e) := by
  rw [vacate?, if_pos (isMapped_iff.mpr hid), sizeOf_eq he, modify, modify_entries he, vacated]

theorem entry?_vacated (he : s.entry? id = some e) :
    Store.entry? (s.vacated id e) id = some e.vacate :=
  List.getElem?_set_self (List.getElem?_eq_some_iff.mp he).1

theorem mem_vacated (hid : id ∈ s.mapped) : id ∈ (s.vacated id e).mapped := hid

/-- Unless it was a placeholder, an entry is settled alike before and after its content was
given up. -/
theorem settle_vacated (hcontent : e.content ≠ .missing) (verdict : Verdict) (e' : Entry) :
    (s.vacated id e).settle id e.vacate verdict (some e') = s.settle id e verdict (some e') := by
  have hmissing : decide (e.vacate.content = .missing) = decide (e.content = .missing) :=
    (decide_eq_false nofun).trans (decide_eq_false hcontent).symm
  simp only [settle, vacated, hmissing, Option.elim_some, List.set_set, Option.isSome_some,
    if_true]
  rfl

theorem swap_eq (hid : id ∈ s.mapped) (he : s.entry? id = some e) :
    s.swap now d id e.path = (s.vacated id e).reload now d id e.path := by
  rw [swap, vacate_eq hid he]

theorem swap_copy (hid : id ∈ s.mapped) (he : s.entry? id = some e)
    (hcontent : e.content ≠ .missing) (hread : d.read e.path = .copy copy)
    (hroom : s.hasRoom e.size copy.size = true) :
    s.swap now d id e.path = (s.settle id e .swapped (some (e.replace now copy)), .swapped) := by
  rw [swap_eq hid he, reload, hread]
  refine (refill_eq (mem_vacated hid) (entry?_vacated he) rfl hroom).trans ?_
  rw [settle_vacated hcontent]
  rfl

theorem swap_absent (hid : id ∈ s.mapped) (he : s.entry? id = some e)
    (hcontent : e.content ≠ .missing) (hread : d.read e.path = .absent) :
    s.swap now d id e.path = (s.settle id e .notExist (some e.forget), .notExist) := by
  rw [swap_eq hid he, reload, hread]
  dsimp only
  rw [forget_eq (mem_vacated hid) (entry?_vacated he), settle_vacated hcontent]
  rfl

theorem swap_failed {error : Errno} (hid : id ∈ s.mapped) (he : s.entry? id = some e)
    (hread : d.read e.path = .failed error) :
    s.swap now d id e.path =
      ({ s.settle id e .failed none with entries := s.entries.set id e.vacate }, .failed) := by
  rw [swap_eq hid he, reload, hread]
  dsimp only
  rw [discard_eq (mem_vacated hid) (entry?_vacated he) (.inr rfl)]
  rfl

end Store

/-! ## What is made out, and what is read -/

namespace Entry

variable {now interval size : Nat} {stat : Except Errno Status} {e : Entry}

/-- A file that is another has shown the status of a regular file, with a stamp of its own. -/
theorem stat_of_other (h : e.finding now interval stat = .other size) :
    ∃ status, stat = .ok status ∧ status.regular = true ∧
      e.content.stamp? ≠ some status.stamp ∧ status.stamp.size = size := by
  unfold finding at h
  split at h
  · cases h
  · split at h
    · rename_i status
      split at h
      · rename_i hregular
        split at h
        · cases h
        · rename_i hstamp
          exact ⟨status, rfl, hregular, hstamp, Finding.other.inj h⟩
      · cases h
    · cases h
    · cases h

end Entry

namespace Store

variable {now : Nat} {d : Disk} {s t : Store} {id : EntryId} {e : Entry} {verdict : Verdict}

/-- Whichever way is taken, it does what the table says. -/
theorem renew_renewed {status : Status} (hid : id ∈ s.mapped) (he : s.entry? id = some e)
    (htruthful : d.Truthful) (hstat : d.statPath e.path = .ok status) :
    s.Renewed now d id e status.stamp.size (s.renew now d id e.path status.stamp.size e.size).2
      (s.renew now d id e.path status.stamp.size e.size).1 := by
  rw [Renewed, renew]
  by_cases hover : s.limits.maxFile < status.stamp.size ∨
      s.limits.capacity < s.used - e.size + status.stamp.size
  · rw [if_pos hover, if_pos hover]
    exact ⟨rfl, discard_eq hid he (.inr rfl)⟩
  rw [if_neg hover, if_neg hover]
  obtain ⟨hfile, hroom⟩ := not_or.mp hover
  have hfits (copy : Copy) (hread : d.read e.path = .copy copy) :
      s.hasRoom e.size copy.size = true := by
    rw [htruthful.size_of_read hstat hread, hasRoom, decide_eq_true_eq]
    exact ⟨Nat.le_of_not_lt hfile, Nat.le_of_not_lt hroom⟩
  by_cases hboth : s.used + status.stamp.size ≤ s.limits.capacity
  · rw [if_pos hboth]
    cases hread : d.read e.path with
    | copy copy =>
      rw [preload_copy hid he hread (hfits copy hread)]
      refine ⟨htruthful.holds_of_read hread, htruthful.size_of_read hstat hread, ?_, rfl⟩
      rw [if_pos hboth]
    | absent =>
      rw [preload_absent hid he hread]
      exact ⟨rfl, rfl⟩
    | failed error =>
      rw [preload_failed hread]
      exact (if_pos hboth).mpr ⟨rfl, rfl⟩
  · -- A placeholder gives up nothing, so that it would have fitted beside itself.
    have hcontent : e.content ≠ .missing := by
      intro hmissing
      rw [Entry.size, hmissing, Content.size] at hroom
      omega
    rw [if_neg hboth]
    cases hread : d.read e.path with
    | copy copy =>
      rw [swap_copy hid he hcontent hread (hfits copy hread)]
      refine ⟨htruthful.holds_of_read hread, htruthful.size_of_read hstat hread, ?_, rfl⟩
      rw [if_neg hboth]
    | absent =>
      rw [swap_absent hid he hcontent hread]
      exact ⟨rfl, rfl⟩
    | failed error =>
      rw [swap_failed hid he hread]
      exact (if_neg hboth).mpr ⟨rfl, rfl⟩

theorem reconcile_prescribed (hid : id ∈ s.mapped) (he : s.entry? id = some e)
    (htruthful : d.Truthful) :
    s.Prescribed now d id e (s.reconcile now d id e).2 (s.reconcile now d id e).1 := by
  unfold reconcile
  cases hfinding : e.finding now s.limits.interval (d.statPath e.path) with
  | idle =>
    rw [Prescribed, hfinding]
    exact ⟨rfl, discard_eq hid he (.inl rfl)⟩
  | unseen =>
    rw [Prescribed, hfinding]
    exact ⟨rfl, rfl⟩
  | gone =>
    rw [Prescribed, hfinding]
    exact ⟨rfl, forget_eq hid he⟩
  | same =>
    rw [Prescribed, hfinding]
    exact ⟨rfl, rfl⟩
  | other size =>
    obtain ⟨status, hstat, -, -, rfl⟩ := Entry.stat_of_other hfinding
    rw [Prescribed, hfinding]
    exact renew_renewed hid he htruthful hstat

/-! ## Bytes -/

theorem heldBytes_settle (hs : s.Orderly) (hid : id ∈ s.mapped) (he : s.entry? id = some e)
    (verdict : Verdict) (after : Option Entry) :
    (s.settle id e verdict after).heldBytes + e.size = s.heldBytes + after.elim 0 Entry.size := by
  cases after with
  | none =>
    rw [← sizeOf_eq he]
    exact heldBytes_unmap hid
  | some e' =>
    have hheld := heldBytes_revise hs hid (fun _ => e') s.used
    have hsame : (s.settle id e verdict (some e')).heldBytes =
        (s.revise id (fun _ => e') s.used).heldBytes := by
      rw [revise, modify, modify_entries he]
      rfl
    rw [sizeOf_eq he, sizeOf_revise_self he] at hheld
    rw [hsame, hheld]
    rfl

/-- The count stays that of the bytes held. -/
theorem used_settle (hs : s.Orderly) (hid : id ∈ s.mapped) (he : s.entry? id = some e)
    (hused : s.used = s.heldBytes) (verdict : Verdict) (after : Option Entry) :
    (s.settle id e verdict after).used = (s.settle id e verdict after).heldBytes := by
  have hheld := heldBytes_settle hs hid he verdict after
  have hle := sizeOf_le_heldBytes hid
  rw [sizeOf_eq he] at hle
  show s.used - e.size + after.elim 0 Entry.size = _
  omega

/-- What has left the map holds no bytes that count. -/
theorem heldBytes_set_of_not_mem (hid : id ∉ s.mapped) (e' : Entry) :
    ({ s with entries := s.entries.set id e' } : Store).heldBytes = s.heldBytes := by
  refine congrArg List.sum (List.map_congr_left fun other hother => ?_)
  have hne : id ≠ other := fun h => hid (h ▸ hother)
  rw [sizeOf, sizeOf, Store.entry?, Store.entry?, List.getElem?_set_ne hne]

/-- What a visit can leave of the entry `e`, known as `id`. -/
inductive Leaves (now : Nat) (s : Store) (id : EntryId) (e : Entry) (verdict : Verdict) :
    Store → Prop
  | kept : Leaves now s id e verdict s
  | evicted : Leaves now s id e verdict (s.settle id e verdict none)
  | forgotten : Leaves now s id e verdict (s.settle id e verdict (some e.forget))
  | renewed (copy : Copy) (hroom : s.used - e.size + copy.size ≤ s.limits.capacity) :
      Leaves now s id e verdict (s.settle id e verdict (some (e.replace now copy)))
  | emptied : Leaves now s id e verdict
      { s.settle id e verdict none with entries := s.entries.set id e.vacate }

theorem Prescribed.leaves (h : s.Prescribed now d id e verdict t) :
    s.Leaves now id e verdict t := by
  unfold Prescribed at h
  split at h
  · obtain ⟨-, rfl⟩ := h
    exact .evicted
  · obtain ⟨-, rfl⟩ := h
    exact .kept
  · obtain ⟨-, rfl⟩ := h
    exact .forgotten
  · obtain ⟨-, rfl⟩ := h
    exact .kept
  · unfold Renewed at h
    split at h
    · obtain ⟨-, rfl⟩ := h
      exact .evicted
    · rename_i hover
      split at h
      · obtain ⟨-, rfl, -, rfl⟩ := h
        exact .renewed _ (Nat.le_of_not_lt (not_or.mp hover).2)
      · obtain ⟨-, rfl⟩ := h
        exact .forgotten
      · split at h
        · obtain ⟨-, rfl⟩ := h
          exact .kept
        · obtain ⟨-, rfl⟩ := h
          exact .emptied

theorem Leaves.used (h : s.Leaves now id e verdict t) (hs : s.Orderly) (hid : id ∈ s.mapped)
    (he : s.entry? id = some e) (hused : s.used = s.heldBytes) : t.used = t.heldBytes := by
  have hsettle := used_settle hs hid he hused verdict
  cases h with
  | kept => exact hused
  | evicted => exact hsettle none
  | forgotten => exact hsettle _
  | renewed copy hroom => exact hsettle _
  | emptied =>
    have hgone : id ∉ (s.settle id e verdict none).mapped := hs.nodup.not_mem_erase
    exact (hsettle none).trans (heldBytes_set_of_not_mem hgone e.vacate).symm

theorem Leaves.capacity (h : s.Leaves now id e verdict t) (hcapacity : s.used ≤ s.limits.capacity) :
    t.used ≤ t.limits.capacity := by
  have hless : s.used - e.size ≤ s.limits.capacity := Nat.le_trans (Nat.sub_le _ _) hcapacity
  cases h with
  | kept => exact hcapacity
  | evicted => exact hless
  | forgotten => exact hless
  | renewed copy hroom => exact hroom
  | emptied => exact hless

end Store

namespace Sweep

variable {now : Nat} {d : Disk} {s : Store} {sw : Sweep} {id : EntryId} {e : Entry}
  {rest : List EntryId}

/-- A visit that nobody interrupts goes by the table.  The bytes in use stay those that the
entries hold, and within the capacity; nothing is taken from them that they do not hold. -/
theorem visit_prescribed (hphase : sw.phase = .visiting) (htodo : sw.todo = id :: rest)
    (hs : s.Orderly) (hid : id ∈ s.mapped) (he : s.entry? id = some e)
    (hused : s.used = s.heldBytes) (hcapacity : s.used ≤ s.limits.capacity)
    (htruthful : d.Truthful) :
    ∃ verdict t, sw.Concludes now d s e verdict t ∧ s.Prescribed now d id e verdict t ∧
      e.size ≤ s.used ∧ t.used = t.heldBytes ∧ t.used ≤ t.limits.capacity := by
  have hprescribed : s.Prescribed now d id e (s.reconcile now d id e).2
      (s.reconcile now d id e).1 := Store.reconcile_prescribed hid he htruthful
  have hleaves := hprescribed.leaves
  have hsize : e.size ≤ s.used := by
    rw [hused, ← Store.sizeOf_eq he]
    exact Store.sizeOf_le_heldBytes hid
  exact ⟨_, _, concludes_visiting htodo he hphase, hprescribed, hsize,
    hleaves.used hs hid he hused, hleaves.capacity hcapacity⟩

/-- A disk with one file, of four bytes. -/
def drawer : Disk where
  tree place := if place = ["a"] then some (.file 0) else none
  files _ := { bytes := [1, 2, 3, 4], modified := ⟨5, 0⟩, reported := none }
  fresh := 1
  faults _ _ := none

/-- The file as it was before. -/
def outdated : Entry :=
  { path := ⟨"a"⟩, content := .present ⟨[1, 2, 3], ⟨⟨0, 0⟩, 3⟩⟩, touched := 0 }

/-- A store with room for three bytes more. -/
def crowded : Store :=
  { Store.fresh ⟨4, 6, 1000⟩ with entries := [outdated], mapped := [0], used := 3 }

theorem visit_prescribed_crowded : ∃ verdict t,
    Concludes 1000 drawer crowded ⟨.visiting, [0], false, {}⟩ outdated verdict t ∧
      crowded.Prescribed 1000 drawer 0 outdated verdict t ∧ outdated.size ≤ crowded.used ∧
      t.used = t.heldBytes ∧ t.used ≤ t.limits.capacity :=
  visit_prescribed rfl rfl ⟨by decide, by decide⟩ (by decide) rfl rfl (by decide) fun _ => rfl

end Sweep
end FileCache
