import FileCache.Disk.Basic

/-!
Changes to a disk from outside.
-/

namespace FileCache

open Time

inductive Edit
  | write (path : String) (bytes : Bytes) (modified : Timestamp)
  | makeDirectory (path : String)
  | remove (path : String)
  | setModified (path : String) (modified : Timestamp)
  /-- Reports a length other than the true one, up to the next write. -/
  | setReported (path : String) (size : Option Nat)
  | setFault (path : String) (op : FileOp) (errno : Option Errno)
deriving Repr

namespace Disk

def itemAt (d : Disk) (place : Place) : Option Item :=
  if place = [] then some .directory else d.tree place

def put (d : Disk) (place : Place) (item : Item) : Disk :=
  { d with tree := fun q => if q = place then some item else d.tree q }

def putFile (d : Disk) (id : FileId) (data : FileData) : Disk :=
  { d with files := fun i => if i = id then data else d.files i }

/-- Makes the directories along a path that are missing.  None if a file is in
the way. -/
def makeDirectories (d : Disk) (place : Place) : List String → Option Disk
  | [] => some d
  | name :: rest =>
    match d.tree (place ++ [name]) with
    | some (.file _) => none
    | some .directory => d.makeDirectories (place ++ [name]) rest
    | none => (d.put (place ++ [name]) .directory).makeDirectories (place ++ [name]) rest

def createFile (d : Disk) (place : Place) (data : FileData) : Disk :=
  { (d.putFile d.fresh data).put place (.file d.fresh) with fresh := d.fresh + 1 }

def writeFile? (d : Disk) (place : Place) (data : FileData) : Option Disk :=
  match d.itemAt place with
  | some .directory => none
  | some (.file id) => some (d.putFile id data)
  | none => (d.makeDirectories [] place.dropLast).map (·.createFile place data)

def removeItem? (d : Disk) (place : Place) : Option Disk :=
  if place ≠ [] ∧ (d.tree place).isSome then
    some { d with tree := fun q => if place.isPrefixOf q then none else d.tree q }
  else none

def changeFile? (d : Disk) (place : Place) (change : FileData → FileData) : Option Disk :=
  match d.itemAt place with
  | some (.file id) => some (d.putFile id (change (d.files id)))
  | _ => none

/-- The disk after a change, or none if the change is refused. -/
def edit? (d : Disk) : Edit → Option Disk
  | .write path bytes modified =>
    d.writeFile? (Path.partsOf path) { bytes, modified, reported := none }
  | .makeDirectory path => d.makeDirectories [] (Path.partsOf path)
  | .remove path => d.removeItem? (Path.partsOf path)
  | .setModified path modified =>
    d.changeFile? (Path.partsOf path) fun data => { data with modified }
  | .setReported path reported =>
    d.changeFile? (Path.partsOf path) fun data => { data with reported }
  | .setFault path op errno =>
    some { d with
      faults := fun parts o =>
        if parts = Path.partsOf path ∧ o = op then errno else d.faults parts o }

end Disk
end FileCache
