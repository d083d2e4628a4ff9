import FileCache.Copy

/-!
What one file operation does to the reading of a file.
-/

namespace FileCache

namespace Disk

variable {d : Disk} {path : Path} {item : Item}

theorem locate_of_openPath (h : d.openPath path = .ok item) : d.locate path = .ok item := by
  unfold openPath at h
  split at h
  · cases h
  · exact h

theorem statusOf_of_statHandle {status : Status} (h : d.statHandle path item = .ok status) :
    d.statusOf item = status := by
  unfold statHandle at h
  split at h
  · cases h
  · exact Except.ok.inj h

theorem contentsOf_of_readHandle {bytes : Bytes} (h : d.readHandle path item = .ok bytes) :
    d.contentsOf item = bytes := by
  unfold readHandle at h
  split at h
  · cases h
  · exact Except.ok.inj h

theorem locate_of_statPath {status : Status} (h : d.statPath path = .ok status) :
    ∃ item, d.locate path = .ok item ∧ d.statusOf item = status := by
  unfold statPath at h
  split at h
  · cases h
  · cases hlocate : d.locate path with
    | error e => rw [hlocate] at h; cases h
    | ok item => rw [hlocate] at h; exact ⟨item, rfl, Except.ok.inj h⟩

/-- Only a regular file has the status of one. -/
theorem file_of_regular (h : (d.statusOf item).regular = true) : ∃ id, item = .file id := by
  cases item with
  | directory => cases h
  | file id => exact ⟨id, rfl⟩

end Disk

namespace Reading

/-- The operations of a reading, each with its outcome. -/
inductive Course (d : Disk) (path : Path) : Reading → Reading → Prop
  | opened {handle : Item} (h : d.openPath path = .ok handle) :
      Course d path .opening (.measuring handle)
  | nowhere (h : d.openPath path = .error .noEntry) :
      Course d path .opening (.finished .absent)
  | unopened {error : Errno} (h : d.openPath path = .error error) (hne : error ≠ .noEntry) :
      Course d path .opening (.finished (.failed error))
  | measured {handle : Item} {status : Status} (h : d.statHandle path handle = .ok status)
      (hregular : status.regular = true) :
      Course d path (.measuring handle) (.fetching handle status.stamp.modified)
  | irregular {handle : Item} {status : Status} (h : d.statHandle path handle = .ok status)
      (hregular : status.regular = false) :
      Course d path (.measuring handle) (.finished .absent)
  | unmeasured {handle : Item} {error : Errno} (h : d.statHandle path handle = .error error) :
      Course d path (.measuring handle) (.finished (.failed error))
  | fetched {handle : Item} {modified : Time.Timestamp} {bytes : Bytes}
      (h : d.readHandle path handle = .ok bytes) :
      Course d path (.fetching handle modified) (.finished (.copy (Copy.ofBytes bytes modified)))
  | unfetched {handle : Item} {modified : Time.Timestamp} {error : Errno}
      (h : d.readHandle path handle = .error error) :
      Course d path (.fetching handle modified) (.finished (.failed error))
  | complete {result : ReadResult} : Course d path (.finished result) (.finished result)

/-- A reading goes by no other operations than those of its course. -/
theorem advance_course (d : Disk) (path : Path) (r : Reading) :
    Course d path r (r.advance d path) := by
  cases r with
  | opening =>
    simp only [advance]
    split
    · rename_i handle hopen
      exact .opened hopen
    · rename_i hopen
      exact .nowhere hopen
    · rename_i error hne hopen
      exact .unopened hopen fun h => hne (h ▸ rfl)
  | measuring handle =>
    simp only [advance]
    split
    · rename_i status hstat
      split
      · rename_i hregular
        exact .measured hstat hregular
      · rename_i hregular
        exact .irregular hstat (Bool.eq_false_iff.mpr hregular)
    · rename_i error hstat
      exact .unmeasured hstat
  | fetching handle modified =>
    simp only [advance]
    split
    · rename_i bytes hread
      exact .fetched hread
    · rename_i error hread
      exact .unfetched hread
  | finished result => exact .complete

end Reading
end FileCache
