import FileCache.Proofs.Confinement.Below
import FileCache.Proofs.Confinement.Rename
import Mathlib.Logic.Encodable.Basic
import Mathlib.Logic.Equiv.List

/-!
What can be seen of a disk from the root of a server.

The veil of a disk has the root, what leads to it and what lies below, and nothing else; a file is
known by its data alone.  At the paths of the server it shows what the disk does
(`Disk.shows_veil`), and disks of the same subtree have the same veil
(`Disk.SameBelow.veil_eq`).
-/

namespace FileCache

open FileCache.Path

/-! ## Files by their data -/

namespace FileData

/-- The data of a file, taken apart. -/
def fields (data : FileData) : List Nat × Int × Nat × Option Nat :=
  (data.bytes.map UInt8.toNat, data.modified.seconds, data.modified.nanos, data.reported)

def ofFields : List Nat × Int × Nat × Option Nat → FileData
  | (bytes, seconds, nanos, reported) =>
    { bytes := bytes.map UInt8.ofNat, modified := ⟨seconds, nanos⟩, reported }

theorem ofFields_fields (data : FileData) : ofFields data.fields = data := by
  obtain ⟨bytes, modified, reported⟩ := data
  have hbytes : (bytes.map UInt8.toNat).map UInt8.ofNat = bytes := by
    rw [List.map_map]
    exact (List.map_congr_left fun b _ => UInt8.ofNat_toNat).trans (List.map_id bytes)
  simp only [fields, ofFields, hbytes]

/-- The identity that stands for the data: identities are numbers, so it is a code of the data. -/
def mark (data : FileData) : FileId := Encodable.encode data.fields

def ofMark (id : FileId) : FileData :=
  ((Encodable.decode id).map ofFields).getD (Disk.empty.files id)

theorem ofMark_mark (data : FileData) : ofMark data.mark = data := by
  rw [ofMark, mark, Encodable.encodek, Option.map_some, Option.getD_some, ofFields_fields]

end FileData

def Item.veil (d : Disk) : Item → Item
  | .directory => .directory
  | .file id => .file (d.files id).mark

namespace Disk

variable {d d' : Disk} {root : String} {path : Path} {place : Place}

/-- What can be seen of a disk from the root. -/
def veil (root : String) (d : Disk) : Disk where
  tree place :=
    if place <+: partsOf root then some .directory
    else if partsOf root <+: place then (d.tree place).map (Item.veil d)
    else none
  files := FileData.ofMark
  fresh := 0
  faults parts op :=
    if partsOf root <+: parts ∧ parts ≠ partsOf root then d.faults parts op else none

/-! ## The veil shows what the disk shows -/

theorem not_prefix_below {names : List String} (hnames : names ≠ []) :
    ¬ partsOf root ++ names <+: partsOf root := by
  intro h
  have hlength := h.length_le
  rw [List.length_append] at hlength
  have hpos := List.length_pos_of_ne_nil hnames
  omega

theorem veil_tree_below (root : String) (d : Disk) {names : List String} (hnames : names ≠ []) :
    (d.veil root).tree (partsOf root ++ names) =
      (d.tree (partsOf root ++ names)).map (Item.veil d) := by
  simp only [veil, if_neg (not_prefix_below hnames), if_pos (List.prefix_append _ _)]

theorem veil_faults_below (root : String) (d : Disk) {names : List String} (hnames : names ≠ [])
    (op : FileOp) :
    (d.veil root).faults (partsOf root ++ names) op = d.faults (partsOf root ++ names) op := by
  have hne : partsOf root ++ names ≠ partsOf root :=
    fun h => hnames (List.append_right_eq_self.mp h)
  simp only [veil, if_pos (And.intro (List.prefix_append _ _) hne)]

theorem statusOf_veil (item : Item) : (d.veil root).statusOf (item.veil d) = d.statusOf item := by
  cases item with
  | directory => rfl
  | file id => simp only [Item.veil, statusOf, veil, FileData.ofMark_mark]

theorem contentsOf_veil (item : Item) :
    (d.veil root).contentsOf (item.veil d) = d.contentsOf item := by
  cases item with
  | directory => rfl
  | file id => simp only [Item.veil, contentsOf, veil, FileData.ofMark_mark]

/-- What leads to the root is there behind the veil too. -/
theorem locate_veil_root (hroot : Component.parent ∉ componentsOf root)
    (hdirectory : d.locate ⟨root⟩ = .ok .directory) :
    (d.veil root).locate ⟨root⟩ = .ok .directory := by
  have hpieces : d.walk [] .directory (Text.pieces separator root ++ []) = .ok .directory := by
    rw [List.append_nil]
    exact hdirectory
  have hway (p : Place) (hp : p <+: partsOf root) : (d.veil root).tree p = some .directory :=
    if_pos hp
  have hwalk := walk_front (not_mem_pieces hroot) hpieces (fun p hp _ => hway p hp) []
  rw [List.append_nil] at hwalk
  exact hwalk

/-- Below the root the walk is the same. -/
theorem walk_veil (root : String) (d : Disk) (above : List String) {names : List String}
    (hplain : ∀ s ∈ names, Plain s) (item : Item) :
    (d.veil root).walk (partsOf root ++ above) (item.veil d) names =
      (d.walk (partsOf root ++ above) item names).map (Item.veil d) := by
  induction names generalizing above item with
  | nil => rfl
  | cons name rest ih =>
    have hname := hplain name List.mem_cons_self
    have hrest (s : String) (hs : s ∈ rest) : Plain s := hplain s (List.mem_cons_of_mem _ hs)
    cases item with
    | file id => rfl
    | directory =>
      have hblank : ¬(name = "" ∨ name = ".") := not_or.mpr ⟨hname.nonempty, hname.notHere⟩
      have hne : above ++ [name] ≠ [] := List.append_ne_nil_of_right_ne_nil _ (by simp)
      have htree := veil_tree_below root d hne
      rw [← List.append_assoc] at htree
      simp only [Item.veil]
      rw [walk, walk, if_neg hblank, if_neg hname.notParent, htree, if_neg hblank,
        if_neg hname.notParent]
      split
      · rfl
      · cases d.tree (partsOf root ++ above ++ [name]) with
        | none => rfl
        | some next =>
          simp only [Option.map_some]
          rw [List.append_assoc]
          exact ih (above ++ [name]) hrest next

theorem locate_veil (hroot : Component.parent ∉ componentsOf root)
    (hdirectory : d.locate ⟨root⟩ = .ok .directory) (hserved : Served root path) :
    (d.veil root).locate path = (d.locate path).map (Item.veil d) := by
  obtain ⟨names, hnames, hplain, rfl⟩ := hserved.names
  have hwalk := walk_veil root d [] hplain .directory
  rw [List.append_nil] at hwalk
  rw [locate_below hroot (locate_veil_root hroot hdirectory) hnames hplain,
    locate_below hroot hdirectory hnames hplain]
  exact hwalk

theorem obstacle_veil (hserved : Served root path) (op : FileOp) :
    (d.veil root).obstacle? path op = d.obstacle? path op := by
  obtain ⟨names, hnames, hplain, rfl⟩ := hserved.names
  rw [obstacle?, obstacle?, parts_below root hnames hplain, veil_faults_below root d hnames]

/-- At the paths of a server, the veil shows what the disk does. -/
theorem shows_veil (hroot : Component.parent ∉ componentsOf root)
    (hdirectory : d.locate ⟨root⟩ = .ok .directory) (hserved : Served root path) :
    Shows (Item.veil d) d (d.veil root) path where
  statPath := by
    rw [statPath, statPath, obstacle_veil hserved, locate_veil hroot hdirectory hserved]
    split
    · rfl
    · cases d.locate path with
      | error error => rfl
      | ok item => exact congrArg Except.ok (statusOf_veil item)
  openPath := by
    rw [openPath, openPath, obstacle_veil hserved, locate_veil hroot hdirectory hserved]
    split <;> rfl
  statHandle handle := by
    rw [statHandle, statHandle, obstacle_veil hserved, statusOf_veil]
  readHandle handle := by
    rw [readHandle, readHandle, obstacle_veil hserved, contentsOf_veil]

/-! ## Disks of the same subtree -/

/-- The veil has of a place what is found there. -/
theorem map_veil (d : Disk) (place : Place) :
    (d.tree place).map (Item.veil d) = (d.viewAt place).map fun
      | none => .directory
      | some data => .file data.mark := by
  rw [viewAt, Option.map_map]
  refine congrArg (fun g => Option.map g (d.tree place)) (funext fun item => ?_)
  cases item <;> rfl

theorem SameBelow.veil_eq (h : SameBelow root d d') : d.veil root = d'.veil root := by
  have htree : (d.veil root).tree = (d'.veil root).tree := by
    funext place
    simp only [veil]
    split
    · rfl
    · rename_i hnot
      split
      · rename_i hbelow
        obtain ⟨names, rfl⟩ := hbelow
        have hnames : names ≠ [] := by
          rintro rfl
          exact hnot (List.append_nil _ ▸ List.prefix_refl _)
        rw [map_veil, map_veil, h.tree names hnames]
      · rfl
  have hfaults : (d.veil root).faults = (d'.veil root).faults := by
    funext parts op
    simp only [veil]
    split
    · rename_i hbelow
      obtain ⟨⟨names, rfl⟩, hne⟩ := hbelow
      have hnames : names ≠ [] := by
        rintro rfl
        exact hne (List.append_nil _)
      rw [h.faults names hnames]
    · rfl
  calc d.veil root
      = { tree := (d.veil root).tree, files := FileData.ofMark, fresh := 0,
          faults := (d.veil root).faults } := rfl
    _ = d'.veil root := by rw [htree, hfaults]; rfl

end Disk
end FileCache
