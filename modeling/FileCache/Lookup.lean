import FileCache.Store

/-!
The lookup of one file, as the steps between which other tasks may run.
-/

namespace FileCache

/-- Where a lookup stands.  Once it has come to the gate of its path, it keeps
the gate until it leaves. -/
inductive Lookup
  | starting
  /-- The store was on; the map is next. -/
  | probing
  /-- An entry was found; its content is next. -/
  | found (gate : Option GateId) (entry : EntryId)
  /-- There was no entry; the gate is next. -/
  | arriving
  | waiting (gate : GateId)
  /-- The gate is passed; the map is looked at again. -/
  | rechecking (gate : GateId)
  | loading (gate : GateId) (reading : Reading)
  | storing (gate : GateId) (copy : Copy)
  /-- The file is read for this answer alone. -/
  | bypassing (gate : Option GateId) (reading : Reading)
  | leaving (gate : GateId) (answer : Option Copy)
  | done (answer : Option Copy)
deriving DecidableEq, Repr

namespace Lookup

def op? : Lookup → Option FileOp
  | .loading _ reading => reading.op?
  | .bypassing _ reading => reading.op?
  | _ => none

def answer? : Lookup → Option (Option Copy)
  | .done answer => some answer
  | _ => none

/-- Ends a lookup with an answer; one that passed a gate lets the next in and has
the gate still to leave. -/
def reply (gate : Option GateId) (answer : Option Copy) (store : Store)
    (notices : List Notice := []) : Step Lookup :=
  match gate with
  | none => { next := .done answer, store, notices }
  | some g => { next := .leaving g answer, store := store.unlock g, notices }

/-- Answers from the content of an entry.  An entry that is being reloaded has
nothing to give. -/
def answerFrom (gate : Option GateId) (content : Content) (store : Store) : Step Lookup :=
  match content with
  | .present copy => reply gate (some copy) (store.count .hit)
  | .missing => reply gate none (store.count .negativeHit)
  | .reloading => { next := .bypassing gate .opening, store := store.count .bypass }

/-- What follows the reading of a file on the way into the store. -/
def loaded (path : Path) (gate : GateId) (store : Store) : ReadResult → Step Lookup
  | .copy copy =>
    let store := store.count .diskLoad
    if store.limits.maxFile < copy.size then
      reply (some gate) (some copy) (store.count .bypass)
    else { next := .storing gate copy, store }
  | .absent => reply (some gate) none store
  | .failed _ => reply (some gate) none store [.readFailed path]

/-- What follows the reading of a file past the store. -/
def bypassed (path : Path) (gate : Option GateId) (store : Store) : ReadResult → Step Lookup
  | .copy copy => reply gate (some copy) store
  | .absent => reply gate none store
  | .failed _ => reply gate none store [.readFailed path]

/-- The next step of a lookup, or none while its gate is locked and after its
end. -/
def step (now : Nat) (disk : Disk) (path : Path) (store : Store) : Lookup → Option (Step Lookup)
  | .starting =>
    if store.enabled then some { next := .probing, store }
    else some { next := .bypassing none .opening, store := store.count .bypass }
  | .probing =>
    match store.find? path with
    | some id => some { next := .found none id, store }
    | none => some { next := .arriving, store }
  | .found gate id =>
    (store.entry? id).map fun e => answerFrom gate e.content (store.markUsed now id)
  | .arriving =>
    let (gate, store) := store.arrive path
    some { next := .waiting gate, store }
  | .waiting gate =>
    if store.isLocked gate then none
    else some { next := .rechecking gate, store := store.lock gate }
  | .rechecking gate =>
    match store.find? path with
    | some id => some { next := .found (some gate) id, store }
    | none => some { next := .loading gate .opening, store := store.count .miss }
  | .loading gate reading =>
    match reading.advance disk path with
    | .finished result => some (loaded path gate store result)
    | reading => some { next := .loading gate reading, store }
  | .storing gate copy =>
    if store.accepts path copy then
      some (reply (some gate) (some copy) (store.insert now path copy))
    else some (reply (some gate) (some copy) (store.count .bypass))
  | .bypassing gate reading =>
    match reading.advance disk path with
    | .finished result => some (bypassed path gate store result)
    | reading => some { next := .bypassing gate reading, store }
  | .leaving gate answer => some { next := .done answer, store := store.leave gate path }
  | .done _ => none

end Lookup
end FileCache
