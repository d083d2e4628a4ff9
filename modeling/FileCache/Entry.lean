import FileCache.Copy

/-!
One cached file: what is known about it, and when it was last used.
-/

namespace FileCache

inductive Content
  | present (copy : Copy)
  /-- The file was absent at the last check. -/
  | missing
  /-- The old bytes were given up and the new ones are being read. -/
  | reloading
deriving DecidableEq, Repr

namespace Content

def size : Content → Nat
  | .present copy => copy.size
  | .missing => 0
  | .reloading => 0

end Content

/-- Times are whole milliseconds of the monotonic clock. -/
structure Entry where
  path : Path
  content : Content
  touched : Nat
deriving DecidableEq, Repr

namespace Entry

def ofCopy (now : Nat) (path : Path) (copy : Copy) : Entry :=
  { path, content := .present copy, touched := now }

def size (e : Entry) : Nat := e.content.size

/-- Whoever takes the content of an entry marks it as used. -/
def markUsed (now : Nat) (e : Entry) : Entry := { e with touched := now }

def replace (now : Nat) (copy : Copy) (e : Entry) : Entry :=
  { e with content := .present copy, touched := now }

def forget (e : Entry) : Entry := { e with content := .missing }

def vacate (e : Entry) : Entry := { e with content := .reloading }

def idle (now : Nat) (e : Entry) : Nat := now - e.touched

/-- Whether the entry has lain unused for longer than `ttl` microseconds. -/
def isExpired (now ttl : Nat) (e : Entry) : Bool := ttl < e.idle now * 1000

theorem isExpired_millis (now ms : Nat) (e : Entry) :
    e.isExpired now (ms * 1000) = decide (ms < e.idle now) := by
  simp [isExpired]

end Entry
end FileCache
