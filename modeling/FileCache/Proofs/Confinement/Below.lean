import FileCache.Proofs.Path.Served
import FileCache.Proofs.Presence.Readable

/-!
The part of a disk that lies below the root of a server.

The text of a path that the server makes is the text of its root with names behind it.  On a disk
that has the root as a directory, the walk along such a path comes through the root and goes down
from there, so it sees nothing but what lies below (`Disk.locate_below`).
-/

namespace FileCache
namespace Path

/-- A path of the root's components with names behind them, at least one, and without a step to a
parent. -/
def Inside (root : String) (p : Path) : Prop :=
  ∃ names, names ≠ [] ∧ p.components = componentsOf root ++ names.map .name ∧
    Component.parent ∉ p.components

variable {root : String} {p : Path}

theorem Served.inside (h : Served root p) (hroot : Component.parent ∉ componentsOf root) :
    Inside root p := by
  obtain ⟨names, hnames, hplain, rfl⟩ := h.names
  have hcomponents := components_below root hnames hplain
  refine ⟨names, hnames, hcomponents, ?_⟩
  rw [hcomponents, List.mem_append, not_or]
  refine ⟨hroot, fun hmem => ?_⟩
  obtain ⟨s, -, hname⟩ := List.mem_map.mp hmem
  cases hname

theorem parts_below (root : String) {names : List String} (hnames : names ≠ [])
    (hplain : ∀ s ∈ names, Plain s) :
    (below root (joined names)).parts = partsOf root ++ names := by
  have hroot : partsOf root = (componentsOf root).filterMap Component.part? := parts_eq ⟨root⟩
  rw [parts_eq, components_below root hnames hplain, List.filterMap_append, hroot,
    List.filterMap_map]
  exact congrArg _ List.filterMap_some

/-- A root without steps to a parent has none among its pieces. -/
theorem not_mem_pieces (hroot : Component.parent ∉ componentsOf root) :
    ".." ∉ Text.pieces separator root := by
  intro hmem
  exact hroot (List.mem_append_right _ (List.mem_filterMap.mpr ⟨"..", hmem, rfl⟩))

end Path

namespace Disk

open FileCache.Path

variable {d d' : Disk} {place : Place} {root : String}

/-! ## The walk to the root -/

/-- Pieces that lead down to a directory lead on from there, whatever comes behind them.  So they
do on any disk that has the same directories on the way. -/
theorem walk_front {front tail : List String} (hparent : ".." ∉ front)
    (h : d.walk place .directory (front ++ tail) = .ok .directory)
    (hway : ∀ p, p <+: place ++ front.filter (fun piece => piece ≠ "" ∧ piece ≠ ".") →
      d.tree p = some .directory → d'.tree p = some .directory) (rest : List String) :
    d'.walk place .directory (front ++ rest) =
      d'.walk (place ++ front.filter fun piece => piece ≠ "" ∧ piece ≠ ".") .directory rest := by
  induction front generalizing place with
  | nil => rw [List.filter_nil, List.append_nil, List.nil_append]
  | cons piece more ih =>
    obtain ⟨hpiece, hmore⟩ := not_or.mp (List.mem_cons.not.mp hparent)
    rw [List.cons_append] at h
    rw [List.cons_append]
    by_cases hblank : piece = "" ∨ piece = "."
    · rw [List.filter_cons_of_neg (by simpa [Decidable.imp_iff_not_or] using hblank)] at hway ⊢
      rw [walk_blank hblank]
      exact ih hmore (walk_blank hblank ▸ h) hway
    · rw [List.filter_cons_of_pos (by simpa using hblank), List.append_cons] at hway ⊢
      rw [walk, if_neg hblank, if_neg (Ne.symm hpiece)] at h ⊢
      split at h
      · cases h
      · rename_i hshort
        split at h
        · cases h
        · rename_i next hnext
          cases next with
          | directory =>
            rw [if_neg hshort, hway _ (List.prefix_append _ _) hnext]
            exact ih hmore h hway
          | file id =>
            -- A file is no directory, and nothing is found below it.
            cases hlast : more ++ tail with
            | nil =>
              rw [hlast] at h
              cases h
            | cons first others =>
              rw [hlast] at h
              cases h

/-- Where the root is a directory, a path below it is walked from there. -/
theorem locate_below (hroot : Component.parent ∉ componentsOf root)
    (hdirectory : d.locate ⟨root⟩ = .ok .directory) {names : List String} (hnames : names ≠ [])
    (hplain : ∀ s ∈ names, Plain s) :
    d.locate (below root (joined names)) = d.walk (partsOf root) .directory names := by
  obtain ⟨tail, hblank, hpieces⟩ : ∃ tail, (∀ piece ∈ tail, piece = "") ∧
      Text.pieces separator root = frontOf root ++ tail := by
    rcases pieces_root root with h | h
    · exact ⟨[], nofun, h.trans (List.append_nil _).symm⟩
    · exact ⟨[""], fun _ h => List.mem_singleton.mp h, h⟩
  have hparent := not_mem_pieces hroot
  rw [hpieces, List.mem_append, not_or] at hparent
  have htail : tail.filter (fun piece => piece ≠ "" ∧ piece ≠ ".") = [] :=
    List.filter_eq_nil_iff.mpr fun piece hpiece => by simp [hblank piece hpiece]
  have hparts : partsOf root =
      (frontOf root).filter fun piece => piece ≠ "" ∧ piece ≠ "." := by
    rw [partsOf, hpieces, List.filter_append, htail, List.append_nil]
  rw [locate, hpieces] at hdirectory
  rw [locate, pieces_below root hnames hplain,
    walk_front hparent.1 hdirectory (fun _ _ h => h), List.nil_append, hparts]

/-! ## Disks of the same subtree -/

/-- What is found at a place: nothing, a directory, or a file with its data. -/
def viewAt (d : Disk) (place : Place) : Option (Option FileData) :=
  (d.tree place).map fun
    | .directory => none
    | .file id => some (d.files id)

/-- Both disks have the root as a directory and the same below it; elsewhere they have what they
like.  The identities of the files need not be the same. -/
structure SameBelow (root : String) (d d' : Disk) : Prop where
  left : d.locate ⟨root⟩ = .ok .directory
  right : d'.locate ⟨root⟩ = .ok .directory
  tree : ∀ names, names ≠ [] →
    d.viewAt (partsOf root ++ names) = d'.viewAt (partsOf root ++ names)
  faults : ∀ names, names ≠ [] →
    d.faults (partsOf root ++ names) = d'.faults (partsOf root ++ names)

end Disk
end FileCache
