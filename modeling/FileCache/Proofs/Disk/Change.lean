import FileCache.Disk.Edit

/-!
What a change from outside does to the files of a disk.

A file is written to where it stands, made anew under an identity of its own, or moved out
of the tree together with the directory it is in.  One that has left the tree never comes
back and never changes: whoever has it open goes on reading what it held.
-/

namespace FileCache

/-! ## The place of a path -/

namespace Path

/-- The place that the pieces of a path lead to from a place, as far as the names go. -/
def placeFrom (place : Place) : List String → Place
  | [] => place
  | piece :: rest =>
    if piece = "" ∨ piece = "." then placeFrom place rest
    else if piece = ".." then placeFrom place.dropLast rest
    else placeFrom (place ++ [piece]) rest

/-- The one place of the tree that a path can lead to. -/
def place (p : Path) : Place := placeFrom [] (Text.pieces separator p.text)

end Path

/-- A regular file as it is at one moment. -/
structure Version where
  file : FileId
  bytes : Bytes
  modified : Time.Timestamp
deriving DecidableEq, Repr

namespace Disk

/-- The regular file at a place. -/
def versionAt? (d : Disk) (place : Place) : Option Version :=
  match d.tree place with
  | some (.file id) => some { file := id, bytes := (d.files id).bytes,
                              modified := (d.files id).modified }
  | _ => none

theorem versionAt?_eq {d : Disk} {place : Place} {id : FileId}
    (h : d.tree place = some (.file id)) :
    d.versionAt? place = some { file := id, bytes := (d.files id).bytes,
                                modified := (d.files id).modified } := by
  rw [versionAt?, h]

theorem tree_of_versionAt? {d : Disk} {place : Place} {version : Version}
    (h : d.versionAt? place = some version) : d.tree place = some (.file version.file) := by
  unfold versionAt? at h
  split at h
  · rename_i id hid
    cases h
    exact hid
  · cases h

/-- A walk that comes to a file comes to the place that the names lead to. -/
theorem tree_of_walk {d : Disk} {place : Place} {item : Item} {pieces : List String}
    {id : FileId} (hitem : item = .directory ∨ d.tree place = some item)
    (h : d.walk place item pieces = .ok (.file id)) :
    d.tree (Path.placeFrom place pieces) = some (.file id) := by
  induction pieces generalizing place item with
  | nil =>
    cases h
    rcases hitem with hdirectory | htree
    · cases hdirectory
    · exact htree
  | cons piece rest ih =>
    cases item with
    | file other => cases h
    | directory =>
      simp only [walk] at h
      rw [Path.placeFrom]
      split at h
      · rename_i hstay
        rw [if_pos hstay]
        exact ih (.inl rfl) h
      · rename_i hgo
        rw [if_neg hgo]
        split at h
        · rename_i hup
          rw [if_pos hup]
          exact ih (.inl rfl) h
        · rename_i hdown
          rw [if_neg hdown]
          split at h
          · cases h
          · split at h
            · cases h
            · rename_i next hnext
              exact ih (.inr hnext) h

theorem tree_of_locate {d : Disk} {path : Path} {id : FileId}
    (h : d.locate path = .ok (.file id)) : d.tree path.place = some (.file id) :=
  tree_of_walk (.inl rfl) h

/-! ## Changes -/

/-- Every file of the tree has one place, and none has the identity of a file still to be
made. -/
structure Proper (d : Disk) : Prop where
  single : ∀ p q id, d.tree p = some (.file id) → d.tree q = some (.file id) → p = q
  known : ∀ p id, d.tree p = some (.file id) → id < d.fresh

/-- The kinds of changes, as far as regular files are concerned. -/
inductive Change (d d' : Disk) : Prop
  | written (place : Place) (id : FileId) (data : FileData)
      (hplace : d.tree place = some (.file id)) (h : d' = d.putFile id data)
  | made (place : Place) (data : FileData) (hnone : d.tree place = none)
      (htree : d'.tree place = some (.file d.fresh))
      (hothers : ∀ q, q ≠ place → ∀ id, d'.tree q = some (.file id) ↔ d.tree q = some (.file id))
      (hfiles : ∀ id, id ≠ d.fresh → d'.files id = d.files id) (hfresh : d'.fresh = d.fresh + 1)
  | arranged (hfiles : d'.files = d.files) (hfresh : d'.fresh = d.fresh)
      (htree : ∀ q id, d'.tree q = some (.file id) → d.tree q = some (.file id))

theorem Change.same (d : Disk) : Change d d := .arranged rfl rfl fun _ _ h => h

theorem tree_put_of_ne (d : Disk) {place q : Place} (item : Item) (h : q ≠ place) :
    (d.put place item).tree q = d.tree q := if_neg h

/-- Making directories neither makes nor removes a file. -/
theorem makeDirectories_files {d d' : Disk} {place : Place} {names : List String}
    (h : d.makeDirectories place names = some d') :
    d'.files = d.files ∧ d'.fresh = d.fresh ∧
      ∀ q id, d'.tree q = some (.file id) ↔ d.tree q = some (.file id) := by
  induction names generalizing d place with
  | nil =>
    cases h
    exact ⟨rfl, rfl, fun _ _ => Iff.rfl⟩
  | cons name rest ih =>
    rw [makeDirectories] at h
    split at h
    · cases h
    · exact ih h
    · rename_i hnone
      obtain ⟨hfiles, hfresh, htree⟩ := ih h
      refine ⟨hfiles, hfresh, fun q id => (htree q id).trans ?_⟩
      by_cases hq : q = place ++ [name]
      · subst hq
        simp [put, hnone]
      · rw [tree_put_of_ne d _ hq]

theorem tree_of_itemAt {d : Disk} {place : Place} {id : FileId}
    (h : d.itemAt place = some (.file id)) : d.tree place = some (.file id) := by
  unfold itemAt at h
  split at h
  · cases h
  · exact h

theorem writeFile_change {d d' : Disk} {place : Place} {data : FileData}
    (h : d.writeFile? place data = some d') : Change d d' := by
  unfold writeFile? at h
  split at h
  · cases h
  · rename_i id hitem
    cases h
    exact .written place id data (tree_of_itemAt hitem) rfl
  · rename_i hitem
    obtain ⟨base, hbase, rfl⟩ := Option.map_eq_some_iff.mp h
    obtain ⟨hfiles, hfresh, htree⟩ := makeDirectories_files hbase
    have hnone : d.tree place = none := by
      unfold itemAt at hitem
      split at hitem
      · cases hitem
      · exact hitem
    refine .made place data hnone ?_ ?_ ?_ ?_
    · show (if place = place then some (Item.file base.fresh) else _) = _
      rw [if_pos rfl, hfresh]
    · intro q hq id
      show (if q = place then some (Item.file base.fresh) else base.tree q) = _ ↔ _
      rw [if_neg hq]
      exact htree q id
    · intro id hid
      show (if id = base.fresh then data else base.files id) = _
      rw [if_neg (hfresh ▸ hid), hfiles]
    · show base.fresh + 1 = _
      rw [hfresh]

theorem changeFile_change {d d' : Disk} {place : Place} {change : FileData → FileData}
    (h : d.changeFile? place change = some d') : Change d d' := by
  unfold changeFile? at h
  split at h
  · rename_i id hitem
    cases h
    exact .written place id _ (tree_of_itemAt hitem) rfl
  · cases h

/-- Every edit is one of the changes. -/
theorem edit_change {d d' : Disk} {edit : Edit} (h : d.edit? edit = some d') : Change d d' := by
  cases edit with
  | write path bytes modified => exact writeFile_change h
  | makeDirectory path =>
    obtain ⟨hfiles, hfresh, htree⟩ := makeDirectories_files h
    exact .arranged hfiles hfresh fun q id => (htree q id).mp
  | remove path =>
    simp only [edit?, removeItem?] at h
    split at h
    · cases h
      refine .arranged rfl rfl fun q id hq => ?_
      simp only at hq
      split at hq
      · cases hq
      · exact hq
    · cases h
  | setModified path modified =>
    simp only [edit?] at h
    exact changeFile_change h
  | setReported path size =>
    simp only [edit?] at h
    exact changeFile_change h
  | setFault path op errno =>
    cases h
    exact .arranged rfl rfl fun _ _ h => h

/-! ## Files that left the tree -/

/-- The file was made and is no longer in the tree. -/
structure Lost (d : Disk) (id : FileId) : Prop where
  known : id < d.fresh
  gone : ∀ place, d.tree place ≠ some (.file id)

namespace Change

variable {d d' : Disk}

theorem proper (h : Change d d') (hd : d.Proper) : d'.Proper := by
  cases h with
  | written place id data hplace h =>
    subst h
    exact ⟨hd.single, hd.known⟩
  | made place data hnone htree hothers hfiles hfresh =>
    have hold {q : Place} {id : FileId} (hq : q ≠ place) (h : d'.tree q = some (.file id)) :
        d.tree q = some (.file id) := (hothers q hq id).mp h
    have hnew {q : Place} {id : FileId} (hq : q ≠ place) (h : d'.tree q = some (.file id)) :
        id ≠ d.fresh := Nat.ne_of_lt (hd.known q id (hold hq h))
    constructor
    · intro p q id hp hq
      by_cases hpp : p = place
      · by_cases hqp : q = place
        · rw [hpp, hqp]
        · rw [hpp, htree, Option.some.injEq, Item.file.injEq] at hp
          exact absurd hp.symm (hnew hqp hq)
      · by_cases hqp : q = place
        · rw [hqp, htree, Option.some.injEq, Item.file.injEq] at hq
          exact absurd hq.symm (hnew hpp hp)
        · exact hd.single p q id (hold hpp hp) (hold hqp hq)
    · intro p id hp
      rw [hfresh]
      by_cases hpp : p = place
      · rw [hpp, htree, Option.some.injEq, Item.file.injEq] at hp
        rw [← hp]
        exact Nat.lt_succ_self _
      · exact Nat.lt_succ_of_lt (hd.known p id (hold hpp hp))
  | arranged hfiles hfresh htree =>
    refine ⟨fun p q id hp hq => hd.single p q id (htree p id hp) (htree q id hq), ?_⟩
    intro p id hp
    rw [hfresh]
    exact hd.known p id (htree p id hp)

/-- A file that left the tree stays away, and stays as it was. -/
theorem lost (h : Change d d') {id : FileId} (hid : d.Lost id) :
    d'.Lost id ∧ d'.files id = d.files id := by
  cases h with
  | written place other data hplace h =>
    subst h
    have hne : id ≠ other := fun he => hid.gone place (he ▸ hplace)
    exact ⟨⟨hid.known, hid.gone⟩, if_neg hne⟩
  | made place data hnone htree hothers hfiles hfresh =>
    have hne : id ≠ d.fresh := Nat.ne_of_lt hid.known
    refine ⟨⟨?_, fun q hq => ?_⟩, hfiles id hne⟩
    · rw [hfresh]
      exact Nat.lt_succ_of_lt hid.known
    · by_cases hqp : q = place
      · rw [hqp, htree, Option.some.injEq, Item.file.injEq] at hq
        exact hne hq.symm
      · exact hid.gone q ((hothers q hqp id).mp hq)
  | arranged hfiles hfresh htree =>
    exact ⟨⟨hfresh ▸ hid.known, fun q hq => hid.gone q (htree q id hq)⟩, by rw [hfiles]⟩

/-- A file that leaves the tree is left as it was. -/
theorem kept_or_lost (h : Change d d') (hd : d.Proper) {place : Place} {id : FileId}
    (hplace : d.tree place = some (.file id)) :
    d'.tree place = some (.file id) ∨ (d'.Lost id ∧ d'.files id = d.files id) := by
  cases h with
  | written other id' data hother h =>
    subst h
    exact .inl hplace
  | made other data hnone htree hothers hfiles hfresh =>
    have hne : place ≠ other := by
      intro he
      rw [he, hnone] at hplace
      cases hplace
    exact .inl ((hothers place hne id).mpr hplace)
  | arranged hfiles hfresh htree =>
    by_cases hstill : d'.tree place = some (.file id)
    · exact .inl hstill
    · refine .inr ⟨⟨hfresh ▸ hd.known place id hplace, fun q hq => ?_⟩, by rw [hfiles]⟩
      have hqp : q = place := hd.single q place id (htree q id hq) hplace
      exact hstill (hqp ▸ hq)

end Change
end Disk
end FileCache
