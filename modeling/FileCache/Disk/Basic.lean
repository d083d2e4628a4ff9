import FileCache.Bytes
import FileCache.Path
import FileCache.Time.Timestamp

/-!
A tree of directories and regular files, the four operations that read it, and
the faults that can make them fail.
-/

namespace FileCache

open Time

/-- The names that lead from the root of the tree to an item. -/
abbrev Place := List String

abbrev FileId := Nat

inductive Item
  | directory
  | file (id : FileId)
deriving DecidableEq, Repr

/-- A regular file.  It keeps its identity while it is written to, and outlives
its removal for those who have it open. -/
structure FileData where
  bytes : Bytes
  modified : Timestamp
  /-- The length reported in place of the true one. -/
  reported : Option Nat
deriving DecidableEq, Repr

inductive FileOp
  | statPath
  | openPath
  | statHandle
  | readHandle
deriving DecidableEq, Repr

inductive Errno
  | noEntry
  | accessDenied
  | notPermitted
  | inputOutput
  | notDirectory
  | symbolicLoop
  | tooManyOpen
  | staleHandle
  | isDirectory
  | nameTooLong
  | invalidPath
deriving DecidableEq, Repr

/-- Modification time and size of a file. -/
structure Stamp where
  modified : Timestamp
  size : Nat
deriving DecidableEq, Repr

namespace Stamp

/-- Whether the other stamp is that of another version of the file. -/
def differs (a b : Stamp) : Bool := a.modified ≠ b.modified ∨ a.size ≠ b.size

end Stamp

structure Status where
  regular : Bool
  stamp : Stamp
deriving DecidableEq, Repr

structure Disk where
  tree : Place → Option Item
  files : FileId → FileData
  /-- The identity of the next file to be made. -/
  fresh : FileId
  faults : List String → FileOp → Option Errno

namespace Disk

def empty : Disk where
  tree _ := none
  files _ := { bytes := [], modified := Timestamp.epoch, reported := none }
  fresh := 0
  faults _ _ := none

def longestName : Nat := 255

/-- Follows the pieces of a path from an item.  Below a file there is nothing, not
even an empty piece; the parent of the root is the root. -/
def walk (d : Disk) (place : Place) (item : Item) : List String → Except Errno Item
  | [] => .ok item
  | piece :: rest =>
    match item with
    | .file _ => .error .notDirectory
    | .directory =>
      if piece = "" ∨ piece = "." then d.walk place .directory rest
      else if piece = ".." then d.walk place.dropLast .directory rest
      else if longestName < piece.utf8ByteSize then .error .nameTooLong
      else
        match d.tree (place ++ [piece]) with
        | none => .error .noEntry
        | some next => d.walk (place ++ [piece]) next rest

def locate (d : Disk) (path : Path) : Except Errno Item :=
  d.walk [] .directory (Text.pieces Path.separator path.text)

def hasNul (path : Path) : Bool := path.text.toList.contains '\x00'

/-- The error that an operation meets before it looks at the tree. -/
def obstacle? (d : Disk) (path : Path) (op : FileOp) : Option Errno :=
  if hasNul path then some .invalidPath else d.faults path.parts op

def statusOf (d : Disk) : Item → Status
  | .directory => { regular := false, stamp := { modified := Timestamp.epoch, size := 0 } }
  | .file id =>
    let data := d.files id
    { regular := true,
      stamp := { modified := data.modified, size := data.reported.getD data.bytes.length } }

def contentsOf (d : Disk) : Item → Bytes
  | .directory => []
  | .file id => (d.files id).bytes

def statPath (d : Disk) (path : Path) : Except Errno Status :=
  match d.obstacle? path .statPath with
  | some e => .error e
  | none => (d.locate path).map d.statusOf

/-- The item that a path leads to now; a handle stays with that item. -/
def openPath (d : Disk) (path : Path) : Except Errno Item :=
  match d.obstacle? path .openPath with
  | some e => .error e
  | none => d.locate path

def statHandle (d : Disk) (path : Path) (handle : Item) : Except Errno Status :=
  match d.obstacle? path .statHandle with
  | some e => .error e
  | none => .ok (d.statusOf handle)

def readHandle (d : Disk) (path : Path) (handle : Item) : Except Errno Bytes :=
  match d.obstacle? path .readHandle with
  | some e => .error e
  | none => .ok (d.contentsOf handle)

end Disk
end FileCache
