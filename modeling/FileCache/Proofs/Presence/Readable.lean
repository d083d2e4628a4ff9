import FileCache.Proofs.Path.Names
import FileCache.Proofs.Provenance.Reading
import FileCache.Proofs.Transparency.Agreement

/-!
Files that can be read, under whatever spelling of their path.

Paths of the same components differ in repeated slashes, dots and a slash at the end.  Of
these only what stands at the end matters, and it makes an error of a file that is there,
never a file that is missing.
-/

namespace FileCache

/-! ## Paths of the same components -/

namespace Path

/-- The piece of a path that a component stands for, unless it is what leads the path. -/
def Component.part? : Component → Option String
  | .parent => some ".."
  | .name s => some s
  | .root => none
  | .here => none

theorem part?_lead (pieces : List String) : (lead pieces).filterMap Component.part? = [] := by
  unfold lead
  split <;> rfl

theorem part?_ofPart (part : String) : (Component.ofPart part).part? = some part := by
  by_cases hparent : part = ".."
  · rw [Component.ofPart, if_pos hparent, hparent]
    rfl
  · rw [Component.ofPart, if_neg hparent]
    rfl

theorem parts_eq (p : Path) : p.parts = p.components.filterMap Component.part? := by
  have hparts : Component.part? ∘ Component.ofPart = some := funext part?_ofPart
  rw [components, componentsOf_eq, List.filterMap_append, part?_lead, List.nil_append,
    List.filterMap_map, hparts, List.filterMap_some]
  rfl

theorem parts_of_same {p q : Path} (h : p.same q = true) : p.parts = q.parts := by
  rw [parts_eq p, parts_eq q, same_iff.mp h]

end Path

namespace Disk

variable {d : Disk} {place : Place} {pieces : List String} {id : FileId}

theorem walk_blank {piece : String} {rest : List String} (h : piece = "" ∨ piece = ".") :
    d.walk place .directory (piece :: rest) = d.walk place .directory rest := by
  rw [walk, if_pos h]

/-- A piece that leads somewhere leads there whatever comes behind it, or it is an error. -/
theorem walk_piece (d : Disk) (place : Place) {piece : String}
    (h : ¬(piece = "" ∨ piece = ".")) :
    (∃ next item, ∀ rest, d.walk place .directory (piece :: rest) = d.walk next item rest) ∨
      ∃ error, ∀ rest, d.walk place .directory (piece :: rest) = .error error := by
  by_cases hparent : piece = ".."
  · exact .inl ⟨place.dropLast, .directory, fun rest => by rw [walk, if_neg h, if_pos hparent]⟩
  · by_cases hlong : longestName < piece.utf8ByteSize
    · exact .inr ⟨.nameTooLong, fun rest => by
        rw [walk, if_neg h, if_neg hparent, if_pos hlong]⟩
    · cases hnext : d.tree (place ++ [piece]) with
      | none =>
        exact .inr ⟨.noEntry, fun rest => by
          rw [walk, if_neg h, if_neg hparent, if_neg hlong, hnext]⟩
      | some next =>
        exact .inl ⟨place ++ [piece], next, fun rest => by
          rw [walk, if_neg h, if_neg hparent, if_neg hlong, hnext]⟩

/-- The pieces that lead somewhere lead to the same file by themselves. -/
theorem walk_parts {item : Item} (h : d.walk place item pieces = .ok (.file id)) :
    d.walk place item (pieces.filter fun piece => piece ≠ "" ∧ piece ≠ ".") =
      .ok (.file id) := by
  induction pieces generalizing place item with
  | nil => exact h
  | cons piece rest ih =>
    cases item with
    | file other => cases h
    | directory =>
      by_cases hblank : piece = "" ∨ piece = "."
      · rw [List.filter_cons_of_neg (by simpa [Decidable.imp_iff_not_or] using hblank)]
        exact ih (walk_blank hblank ▸ h)
      · rw [List.filter_cons_of_pos (by simpa using hblank)]
        rcases walk_piece d place hblank with ⟨next, item, hnext⟩ | ⟨error, hno⟩
        · rw [hnext] at h ⊢
          exact ih h
        · rw [hno] at h
          cases h

/-- The other pieces do not make a file missing. -/
theorem walk_of_parts {item : Item}
    (h : d.walk place item (pieces.filter fun piece => piece ≠ "" ∧ piece ≠ ".") =
      .ok (.file id)) :
    d.walk place item pieces = .ok (.file id) ∨
      d.walk place item pieces = .error .notDirectory := by
  induction pieces generalizing place item with
  | nil => exact .inl h
  | cons piece rest ih =>
    cases item with
    | file other => exact .inr rfl
    | directory =>
      by_cases hblank : piece = "" ∨ piece = "."
      · rw [List.filter_cons_of_neg (by simpa [Decidable.imp_iff_not_or] using hblank)] at h
        rw [walk_blank hblank]
        exact ih h
      · rw [List.filter_cons_of_pos (by simpa using hblank)] at h
        rcases walk_piece d place hblank with ⟨next, item, hnext⟩ | ⟨error, hno⟩
        · rw [hnext] at h ⊢
          exact ih h
        · rw [hno] at h
          cases h

/-! ## Readable files -/

/-- There is a regular file at the path, and no operation on it is kept from it. -/
structure Readable (d : Disk) (path : Path) : Prop where
  file : ∃ id, d.locate path = .ok (.file id)
  free : ∀ op, d.obstacle? path op = none

/-- Whether the path leads to a regular file. -/
def leadsToFile (d : Disk) (path : Path) : Bool :=
  match d.locate path with
  | .ok (.file _) => true
  | _ => false

theorem readable_iff {path : Path} :
    d.Readable path ↔ d.leadsToFile path = true ∧
      ∀ op ∈ [FileOp.statPath, .openPath, .statHandle, .readHandle],
        d.obstacle? path op = none := by
  constructor
  · rintro ⟨⟨id, hfile⟩, hfree⟩
    exact ⟨by rw [leadsToFile, hfile], fun op _ => hfree op⟩
  · rintro ⟨hleads, hfree⟩
    refine ⟨?_, fun op => hfree op (by cases op <;> decide)⟩
    unfold leadsToFile at hleads
    split at hleads
    · rename_i id hfile
      exact ⟨id, hfile⟩
    · cases hleads

instance (d : Disk) (path : Path) : Decidable (d.Readable path) :=
  decidable_of_iff _ readable_iff.symm

namespace Readable

variable {path other : Path}

/-- Under another spelling the file is found too, or the path is an error. -/
theorem locate_same (h : d.Readable path) (hsame : other.same path = true) :
    (∃ id, d.locate other = .ok (.file id)) ∨ d.locate other = .error .notDirectory := by
  obtain ⟨id, hfile⟩ := h.file
  have hparts : d.walk [] .directory other.parts = .ok (.file id) := by
    rw [Path.parts_of_same hsame]
    exact walk_parts hfile
  rcases walk_of_parts hparts with hfound | herror
  · exact .inl ⟨id, hfound⟩
  · exact .inr herror

/-- Another spelling meets no other obstacle than being no path at all. -/
theorem obstacle_same (h : d.Readable path) (hsame : other.same path = true) {op : FileOp}
    {error : Errno} (hother : d.obstacle? other op = some error) : error = .invalidPath := by
  have hfree := h.free op
  unfold obstacle? at hfree hother
  split at hfree
  · cases hfree
  · split at hother
    · exact (Option.some.inj hother).symm
    · rw [Path.parts_of_same hsame, hfree] at hother
      cases hother

theorem openPath_same (h : d.Readable path) (hsame : other.same path = true) :
    (∃ id, d.openPath other = .ok (.file id)) ∨
      ∃ error, d.openPath other = .error error ∧ error ≠ .noEntry := by
  unfold openPath
  split
  · rename_i error hother
    exact .inr ⟨error, rfl, by rw [h.obstacle_same hsame hother]; nofun⟩
  · rcases h.locate_same hsame with hfound | herror
    · exact .inl hfound
    · exact .inr ⟨_, herror, nofun⟩

/-- The status of a readable file does not deny it, under no spelling of its path. -/
theorem not_denied (h : d.Readable path) (hsame : other.same path = true) :
    ¬ d.Denies other := by
  have hstat : (∃ id, d.statPath other = .ok (d.statusOf (.file id))) ∨
      ∃ error, d.statPath other = .error error ∧ error ≠ .noEntry := by
    unfold statPath
    split
    · rename_i error hother
      exact .inr ⟨error, rfl, by rw [h.obstacle_same hsame hother]; nofun⟩
    · rcases h.locate_same hsame with ⟨id, hfound⟩ | herror
      · exact .inl ⟨id, by rw [hfound]; rfl⟩
      · exact .inr ⟨.notDirectory, by rw [herror]; rfl, nofun⟩
  rintro (hnone | ⟨status, hstatus, hregular⟩)
  · rcases hstat with ⟨id, hok⟩ | ⟨error, herror, hne⟩
    · rw [hok] at hnone
      cases hnone
    · rw [herror] at hnone
      exact hne (Except.error.inj hnone)
  · rcases hstat with ⟨id, hok⟩ | ⟨error, herror, hne⟩
    · rw [hok] at hstatus
      cases hstatus
      cases hregular
    · rw [herror] at hstatus
      cases hstatus

theorem openPath (h : d.Readable path) : ∃ id, d.openPath path = .ok (.file id) := by
  obtain ⟨id, hfile⟩ := h.file
  exact ⟨id, by rw [Disk.openPath, h.free]; exact hfile⟩

theorem statHandle (h : d.Readable path) (handle : Item) :
    d.statHandle path handle = .ok (d.statusOf handle) := by
  rw [Disk.statHandle, h.free]

theorem readHandle (h : d.Readable path) (handle : Item) :
    d.readHandle path handle = .ok (d.contentsOf handle) := by
  rw [Disk.readHandle, h.free]

end Readable
end Disk
end FileCache
