import FileCache.Disk.Basic

/-!
Copies of files in memory, and the three operations that make one.
-/

namespace FileCache

open Time

/-- The bytes of a file and the stamp they were read under. -/
structure Copy where
  bytes : Bytes
  stamp : Stamp
deriving DecidableEq, Repr

namespace Copy

def size (c : Copy) : Nat := c.bytes.length

/-- The size in the stamp is that of the bytes, whatever was reported. -/
def ofBytes (bytes : Bytes) (modified : Timestamp) : Copy :=
  { bytes, stamp := { modified, size := bytes.length } }

end Copy

inductive ReadResult
  | copy (c : Copy)
  /-- There is no regular file at the path. -/
  | absent
  | failed (e : Errno)
deriving DecidableEq, Repr

/-- How far the reading of a file has come. -/
inductive Reading
  | opening
  | measuring (handle : Item)
  | fetching (handle : Item) (modified : Timestamp)
  | finished (result : ReadResult)
deriving DecidableEq, Repr

namespace Reading

/-- The file operation that comes next. -/
def op? : Reading → Option FileOp
  | .opening => some .openPath
  | .measuring _ => some .statHandle
  | .fetching _ _ => some .readHandle
  | .finished _ => none

/-- Performs the next operation.  A file that is absent when it is opened is no
error; every later error is one. -/
def advance (d : Disk) (path : Path) : Reading → Reading
  | .opening =>
    match d.openPath path with
    | .ok handle => .measuring handle
    | .error .noEntry => .finished .absent
    | .error e => .finished (.failed e)
  | .measuring handle =>
    match d.statHandle path handle with
    | .ok status =>
      if status.regular then .fetching handle status.stamp.modified else .finished .absent
    | .error e => .finished (.failed e)
  | .fetching handle modified =>
    match d.readHandle path handle with
    | .ok bytes => .finished (.copy (Copy.ofBytes bytes modified))
    | .error e => .finished (.failed e)
  | .finished result => .finished result

end Reading

/-- The outcome of reading a file while nothing else happens. -/
def Disk.read (d : Disk) (path : Path) : ReadResult :=
  match ((Reading.opening.advance d path).advance d path).advance d path with
  | .finished result => result
  | _ => .absent

end FileCache
