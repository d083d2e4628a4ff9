import FileCache.Disk.Edit
import FileCache.Lookup
import FileCache.Scanner

/-!
The store, its scanners and everyone who calls on it, on one disk and under one
clock.
-/

namespace FileCache

/-- The place of the store's own scanner, and the lock under which that place and
the on/off state change. -/
structure Switch where
  slot : Option ScannerId
  held : Bool
deriving DecidableEq, Repr

/-- Turning the store on or off. -/
inductive Toggle
  | waiting
  /-- The lock is held until the scanner of the period before has ended. -/
  | joining (previous : ScannerId)
  | done
deriving DecidableEq, Repr

/-- Turning the store off and waiting for its scanner to end. -/
inductive Shutdown
  | waiting
  | taking
  | joining (scanner : ScannerId)
  | done
deriving DecidableEq, Repr

/-- Asking the store's own scanner for a sweep. -/
inductive ScanRequest
  | waiting
  | done (queued : Bool)
deriving DecidableEq, Repr

/-- Somebody's use of the store or the disk, from its beginning on. -/
inductive Call
  | lookup (path : Path) (phase : Lookup)
  | sweep (phase : Sweep)
  | toggle (on : Bool) (phase : Toggle)
  | shutdown (phase : Shutdown)
  | scan (phase : ScanRequest)
  | read (path : Path) (phase : Reading)
  | stat (path : Path) (result : Option (Except Errno Status))

/-- What somebody wants from the store or the disk. -/
inductive Ask
  | lookup (path : Path)
  | sweep
  | toggle (on : Bool)
  | shutdown
  | scan
  | read (path : Path)
  | stat (path : Path)
deriving DecidableEq, Repr

def Ask.call : Ask → Call
  | .lookup path => .lookup path .starting
  | .sweep => .sweep Sweep.fresh
  | .toggle on => .toggle on .waiting
  | .shutdown => .shutdown .waiting
  | .scan => .scan .waiting
  | .read path => .read path .opening
  | .stat path => .stat path none

abbrev CallId := Nat

/-- Whose turn it is. -/
inductive Agent
  | call (id : CallId)
  | scanner (id : ScannerId)
deriving DecidableEq, Repr

structure World where
  /-- The monotonic clock, in milliseconds. -/
  now : Nat
  wall : Time.Timestamp
  disk : Disk
  store : Store
  switch : Switch
  scanners : List Scanner
  calls : List Call

namespace World

def fresh (limits : Limits) (wall : Time.Timestamp) : World where
  now := 0
  wall
  disk := Disk.empty
  store := Store.fresh limits
  switch := { slot := none, held := false }
  scanners := []
  calls := []

def hasEnded (w : World) (id : ScannerId) : Bool := (w.scanners[id]?).any Scanner.hasEnded

def addScanner (own : Bool) (w : World) : World :=
  { w with scanners := w.scanners ++ [Scanner.fresh own] }

def stopScanner (id : ScannerId) (w : World) : World :=
  { w with scanners := w.scanners.modify id Scanner.stop }

/-- Asks a scanner for a sweep; the answer says whether the request was taken. -/
def requestScan (id : ScannerId) (w : World) : Bool × World :=
  match w.scanners[id]? with
  | none => (false, w)
  | some sc => (sc.request.1, { w with scanners := w.scanners.set id sc.request.2 })

end World
end FileCache
