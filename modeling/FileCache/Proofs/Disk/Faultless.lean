import FileCache.Proofs.Provenance.Reading
import FileCache.Proofs.Transparency.Agreement

/-!
Disks without faults, and disks that report true lengths.

Status and contents of a file are had by different operations.  If none of them fails they
tell of the same item; if the length is true, a file is read under the stamp that its status
shows.
-/

namespace FileCache

theorem Stamp.differs_eq_false_iff {a b : Stamp} : a.differs b = false ↔ a = b := by
  obtain ⟨modified, size⟩ := a
  obtain ⟨modified', size'⟩ := b
  simp [differs]

/-! ## No faults -/

namespace Disk

variable {d : Disk} {path : Path} {status : Status} {copy : Copy}

/-- Nothing stands in the way of the operations on the path. -/
def Free (d : Disk) (path : Path) : Prop := ∀ op, d.obstacle? path op = none

/-- A path that a disk without faults can hold is free. -/
theorem Faultless.free (h : d.Faultless) (hstat : d.statPath path ≠ .error .invalidPath) :
    d.Free path := by
  have hnul : ¬ hasNul path = true := by
    intro hnul
    refine hstat ?_
    rw [statPath, obstacle?, if_pos hnul]
  intro op
  rw [obstacle?, if_neg hnul, h]

theorem Free.statPath_eq (h : d.Free path) :
    d.statPath path = (d.locate path).map d.statusOf := by
  rw [statPath, h .statPath]

theorem Free.read_file (h : d.Free path) {id : FileId} (hlocate : d.locate path = .ok (.file id)) :
    d.read path = .copy (Copy.ofBytes (d.files id).bytes (d.files id).modified) := by
  have hopen : Reading.opening.advance d path = .measuring (.file id) := by
    simp [Reading.advance, openPath, h .openPath, hlocate]
  have hmeasure : (Reading.measuring (.file id)).advance d path =
      .fetching (.file id) (d.files id).modified := by
    simp [Reading.advance, statHandle, h .statHandle, statusOf]
  have hfetch : (Reading.fetching (.file id) (d.files id).modified).advance d path =
      .finished (.copy (Copy.ofBytes (d.files id).bytes (d.files id).modified)) := by
    simp [Reading.advance, readHandle, h .readHandle, contentsOf]
  rw [read, hopen, hmeasure, hfetch]

theorem Free.read_directory (h : d.Free path) (hlocate : d.locate path = .ok .directory) :
    d.read path = .absent := by
  have hopen : Reading.opening.advance d path = .measuring .directory := by
    simp [Reading.advance, openPath, h .openPath, hlocate]
  have hmeasure : (Reading.measuring .directory).advance d path = .finished .absent := by
    simp [Reading.advance, statHandle, h .statHandle, statusOf]
  rw [read, hopen, hmeasure]
  rfl

theorem Free.read_noEntry (h : d.Free path) (hlocate : d.locate path = .error .noEntry) :
    d.read path = .absent := by
  have hopen : Reading.opening.advance d path = .finished .absent := by
    simp [Reading.advance, openPath, h .openPath, hlocate]
  rw [read, hopen]
  rfl

/-- Without faults, status and contents tell the same of whether there is a file. -/
theorem Faultless.candid (h : d.Faultless) : d.Candid := by
  rintro path hdenies
  have hfree : d.Free path := h.free fun hinvalid => by
    rcases hdenies with hnone | ⟨status, hstat, -⟩
    · rw [hinvalid] at hnone; cases hnone
    · rw [hinvalid] at hstat; cases hstat
  have hread : d.read path = .absent := by
    rw [Denies, hfree.statPath_eq] at hdenies
    cases hlocate : d.locate path with
    | error e =>
      rw [hlocate] at hdenies
      rcases hdenies with hnone | ⟨status, hstat, -⟩
      · cases hnone
        exact hfree.read_noEntry hlocate
      · cases hstat
    | ok item =>
      rw [hlocate] at hdenies
      rcases hdenies with hnone | ⟨status, hstat, hregular⟩
      · cases hnone
      · cases hstat
        cases item with
        | directory => exact hfree.read_directory hlocate
        | file id => cases hregular
  rw [answer, hread, ReadResult.answer]

/-! ## True lengths -/

/-- A copy is read from the file at the path, under the time that the file has. -/
theorem file_of_read (h : d.read path = .copy copy) :
    ∃ id, d.locate path = .ok (.file id) ∧
      copy = Copy.ofBytes (d.files id).bytes (d.files id).modified := by
  unfold read at h
  cases hopen : d.openPath path with
  | error e => cases e <;> simp [Reading.advance, hopen] at h
  | ok handle =>
    cases hstat : d.statHandle path handle with
    | error e => simp [Reading.advance, hopen, hstat] at h
    | ok status =>
      cases hregular : status.regular with
      | false => simp [Reading.advance, hopen, hstat, hregular] at h
      | true =>
        cases hbytes : d.readHandle path handle with
        | error e => simp [Reading.advance, hopen, hstat, hregular, hbytes] at h
        | ok bytes =>
          simp only [Reading.advance, hopen, hstat, hregular, hbytes, if_true,
            ReadResult.copy.injEq] at h
          subst h
          obtain rfl := statusOf_of_statHandle hstat
          obtain rfl := contentsOf_of_readHandle hbytes
          obtain ⟨id, rfl⟩ := file_of_regular hregular
          exact ⟨id, locate_of_openPath hopen, rfl⟩

/-- The copy is the file at the path, under the stamp that the file shows. -/
def Holds (d : Disk) (path : Path) (copy : Copy) : Prop :=
  ∃ id, d.locate path = .ok (.file id) ∧ copy.bytes = (d.files id).bytes ∧
    copy.stamp = (d.statusOf (.file id)).stamp

theorem Truthful.holds_of_read (h : d.Truthful) (hread : d.read path = .copy copy) :
    d.Holds path copy := by
  obtain ⟨id, hlocate, rfl⟩ := file_of_read hread
  refine ⟨id, hlocate, rfl, ?_⟩
  have hstamp : (d.statusOf (.file id)).stamp =
      ⟨(d.files id).modified, (d.statusOf (.file id)).stamp.size⟩ := rfl
  rw [hstamp, h id]
  rfl

/-- With true lengths, a file is read under the stamp that its status shows. -/
theorem Truthful.stamp_of_read (h : d.Truthful) (hstat : d.statPath path = .ok status)
    (hread : d.read path = .copy copy) : copy.stamp = status.stamp := by
  obtain ⟨id, hlocate, -, hstamp⟩ := h.holds_of_read hread
  obtain ⟨item, hitem, rfl⟩ := locate_of_statPath hstat
  rw [hlocate] at hitem
  cases hitem
  exact hstamp

theorem Truthful.size_of_read (h : d.Truthful) (hstat : d.statPath path = .ok status)
    (hread : d.read path = .copy copy) : copy.size = status.stamp.size := by
  have hstamp := h.stamp_of_read hstat hread
  obtain ⟨id, -, rfl⟩ := file_of_read hread
  rw [← hstamp]
  rfl

/-- Without faults, a file that has a status is read. -/
theorem Faultless.read_of_statPath (h : d.Faultless) (hstat : d.statPath path = .ok status)
    (hregular : status.regular = true) : ∃ copy, d.read path = .copy copy := by
  have hfree : d.Free path := h.free fun hinvalid => by rw [hinvalid] at hstat; cases hstat
  obtain ⟨item, hlocate, rfl⟩ := locate_of_statPath hstat
  obtain ⟨id, rfl⟩ := file_of_regular hregular
  exact ⟨_, hfree.read_file hlocate⟩

end Disk
end FileCache
