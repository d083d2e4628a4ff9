import FileCache.Store
import FileCache.Text.Blank

/-!
The settings of a server, as they stand in its environment.
-/

namespace FileCache

structure Settings where
  /-- The directory whose files are served. -/
  root : String := "./static"
  serverPort : Nat := 3000
  maxFile : Nat := 4 * 1024 * 1024
  capacity : Nat := 64 * 1024 * 1024
  /-- Seconds between two scans. -/
  scanSeconds : Nat := 60
  /-- Serves every file from disk. -/
  debug : Bool := false
deriving DecidableEq, Repr

namespace Settings

/-- Values of variables, as bytes; none for a variable that is not set. -/
abbrev Environment := String → Option Bytes

/-- The value of a variable, if it is text. -/
def text? (env : Environment) (name : String) : Option String := (env name).bind Bytes.text?

def maxPort : Nat := Nat.pow 2 16 - 1

def maxWord : Nat := Nat.pow 2 64 - 1

def digits? : List Char → Option Nat
  | [] => none
  | cs =>
    if cs.all Char.isDigit then some (cs.foldl (fun n c => n * 10 + (c.toNat - '0'.toNat)) 0)
    else none

/-- A number up to `limit`, with blanks around it and perhaps a plus sign in
front. -/
def number? (limit : Nat) (s : String) : Option Nat :=
  let n :=
    match (Text.trim s).toList with
    | '+' :: rest => digits? rest
    | cs => digits? cs
  n.filter (· ≤ limit)

def isAffirmative (s : String) : Bool :=
  ["1", "true", "yes", "on"].contains (Text.trim s).toLower

/-- A variable that is not set or makes no sense leaves its setting as it is. -/
def ofEnvironment (env : Environment) : Settings :=
  let defaults : Settings := {}
  let number (name : String) (limit : Nat) : Option Nat := (text? env name).bind (number? limit)
  { root := ((text? env "STATIC_ROOT").filter (· ≠ "")).getD defaults.root
    serverPort := (number "SERVER_PORT" maxPort).getD defaults.serverPort
    maxFile := (number "MAX_FILE_SIZE" maxWord).getD defaults.maxFile
    capacity := (number "MAX_CACHE_CAPACITY" maxWord).getD defaults.capacity
    scanSeconds :=
      ((number "SCAN_INTERVAL" maxWord).filter (0 < ·)).getD defaults.scanSeconds
    debug := ((text? env "DEBUG").map isAffirmative).getD defaults.debug }

def cacheEnabled (s : Settings) : Bool := !s.debug

def limits (s : Settings) : Limits :=
  { maxFile := s.maxFile, capacity := s.capacity, interval := s.scanSeconds * 1000 }

end Settings
end FileCache
