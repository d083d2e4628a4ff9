import FileCache.Entry
import FileCache.Notice
import FileCache.Tally

/-!
The cached files under their limits, the count of bytes in use, and the gates at
which lookups of one path wait for each other.

Every function here is one step that nothing else can interrupt.
-/

namespace FileCache

/-- Position of an entry among all entries ever made. -/
abbrev EntryId := Nat

/-- Position of a gate among all gates ever made. -/
abbrev GateId := Nat

structure Limits where
  /-- Size of the largest file that may be cached. -/
  maxFile : Nat
  /-- Bytes that may be cached in all. -/
  capacity : Nat
  /-- Whole milliseconds between two scans, and how long an unused entry is kept. -/
  interval : Nat
deriving DecidableEq, Repr

/-- Lookups of one path that miss pass its gate one at a time. -/
structure Gate where
  path : Path
  /-- The lookups that know the gate. -/
  users : Nat
  locked : Bool
deriving DecidableEq, Repr

structure Store where
  limits : Limits
  enabled : Bool
  /-- All entries ever made.  One that has left the map can still be read by a
  lookup or a sweep that found it before. -/
  entries : List Entry
  /-- The entries in the map, in the order in which a sweep visits them. -/
  mapped : List EntryId
  used : Nat
  tally : Tally
  /-- All gates ever made. -/
  gates : List Gate
  /-- The gates that newly arriving lookups find. -/
  listed : List GateId
deriving DecidableEq, Repr

namespace Store

/-- A new store is empty and switched off. -/
def fresh (limits : Limits) : Store where
  limits
  enabled := false
  entries := []
  mapped := []
  used := 0
  tally := {}
  gates := []
  listed := []

def count (c : Count) (s : Store) : Store := { s with tally := s.tally.add c }

/-! ## Entries -/

def entry? (s : Store) (id : EntryId) : Option Entry := s.entries[id]?

def sizeOf (s : Store) (id : EntryId) : Nat :=
  match s.entry? id with
  | some e => e.size
  | none => 0

def find? (s : Store) (path : Path) : Option EntryId :=
  s.mapped.find? fun id => (s.entry? id).any fun e => e.path.same path

def isMapped (s : Store) (id : EntryId) : Bool := s.mapped.contains id

def modify (id : EntryId) (change : Entry → Entry) (s : Store) : Store :=
  { s with entries := s.entries.modify id change }

def markUsed (now : Nat) (id : EntryId) (s : Store) : Store := s.modify id (Entry.markUsed now)

/-- A copy is accepted only while the store is switched on, has no entry for the
path and has room. -/
def accepts (s : Store) (path : Path) (copy : Copy) : Bool :=
  s.enabled ∧ (s.find? path).isNone ∧ s.used + copy.size ≤ s.limits.capacity

def insert (now : Nat) (path : Path) (copy : Copy) (s : Store) : Store :=
  { s with
    entries := s.entries ++ [Entry.ofCopy now path copy]
    mapped := s.mapped ++ [s.entries.length]
    used := s.used + copy.size }

/-- Drops every entry. -/
def dropAll (s : Store) : Store := { s with mapped := [], used := 0 }

/-- Takes an entry out of the map. -/
def unmap (id : EntryId) (s : Store) : Store :=
  { s with mapped := s.mapped.erase id, used := s.used - s.sizeOf id }.count .eviction

def discard (id : EntryId) (s : Store) : Store := if s.isMapped id then s.unmap id else s

/-- Turns an entry into a placeholder for a missing file. -/
def forget (id : EntryId) (s : Store) : Store :=
  if s.isMapped id then
    let wasMissing := (s.entry? id).any fun e => e.content = .missing
    let s := { s.modify id Entry.forget with used := s.used - s.sizeOf id }
    if wasMissing then s else s.count .invalidation
  else s

/-- Whether `new` bytes in place of `old` cached ones keep both limits. -/
def hasRoom (s : Store) (old new : Nat) : Bool :=
  new ≤ s.limits.maxFile ∧ s.used - old + new ≤ s.limits.capacity

/-- Puts a copy that was read beside the old content in its place. -/
def exchange (now : Nat) (id : EntryId) (copy : Copy) (s : Store) : Store × Verdict :=
  if s.isMapped id then
    let old := s.sizeOf id
    if s.hasRoom old copy.size then
      (({ s with used := s.used - old + copy.size }.modify id (Entry.replace now copy)).count
        .refresh, .preloaded)
    else (s.unmap id, .failed)
  else (s, .noChange)

/-- Gives up the content of an entry ahead of reading it anew. -/
def vacate? (id : EntryId) (s : Store) : Option Store :=
  if s.isMapped id then some ({ s with used := s.used - s.sizeOf id }.modify id Entry.vacate)
  else none

/-- Puts a copy into an entry whose content was given up. -/
def refill (now : Nat) (id : EntryId) (copy : Copy) (s : Store) : Store × Verdict :=
  if s.isMapped id then
    if s.hasRoom 0 copy.size then
      (({ s with used := s.used + copy.size }.modify id (Entry.replace now copy)).count
        .refresh, .swapped)
    else (s.unmap id, .failed)
  else (s, .noChange)

/-! ## Gates -/

def gate? (s : Store) (id : GateId) : Option Gate := s.gates[id]?

def findGate? (s : Store) (path : Path) : Option GateId :=
  s.listed.find? fun id => (s.gate? id).any fun g => g.path.same path

def modifyGate (id : GateId) (change : Gate → Gate) (s : Store) : Store :=
  { s with gates := s.gates.modify id change }

/-- A lookup arrives at the gate of its path, which is made if there is none. -/
def arrive (path : Path) (s : Store) : GateId × Store :=
  match s.findGate? path with
  | some id => (id, s.modifyGate id fun g => { g with users := g.users + 1 })
  | none =>
    (s.gates.length,
      { s with
        gates := s.gates ++ [{ path, users := 1, locked := false }]
        listed := s.listed ++ [s.gates.length] })

def isLocked (s : Store) (id : GateId) : Bool := (s.gate? id).any (·.locked)

def lock (id : GateId) (s : Store) : Store := s.modifyGate id ({ · with locked := true })

def unlock (id : GateId) (s : Store) : Store := s.modifyGate id ({ · with locked := false })

/-- The references to a gate: one for each lookup that knows it, and one while it
can be found. -/
def references (s : Store) (id : GateId) : Nat :=
  ((s.gate? id).elim 0 (·.users)) + if s.listed.contains id then 1 else 0

/-- A lookup leaves its gate.  If nobody else knows the gate, it can no longer be
found. -/
def leave (id : GateId) (path : Path) (s : Store) : Store :=
  let t := s.modifyGate id fun g => { g with users := g.users - 1 }
  if s.references id = 2 then
    { t with listed := t.listed.filter fun o => !(t.gate? o).any fun g => g.path.same path }
  else t

/-! ## Views -/

def statistics (s : Store) : Statistics where
  tally := s.tally
  totalEntries := s.mapped.length
  usedBytes := s.used
  maxCapacity := s.limits.capacity
  maxFileSize := s.limits.maxFile
  enabled := s.enabled

end Store

/-- One step of a task on the store: what the task does next, the store it leaves
behind, and what it reports. -/
structure Step (α : Type) where
  next : α
  store : Store
  notices : List Notice := []

end FileCache
