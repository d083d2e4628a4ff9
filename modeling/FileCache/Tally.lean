import FileCache.Json.Written

/-!
Counters of what the cache did, and the record that is shown of them.
-/

namespace FileCache

open Decimal

inductive Count
  | hit
  | negativeHit
  | miss
  | bypass
  | diskLoad
  | eviction
  | refresh
  | invalidation
  | scanCycle
deriving DecidableEq, Repr

structure Tally where
  hits : Nat := 0
  negativeHits : Nat := 0
  misses : Nat := 0
  bypasses : Nat := 0
  diskLoads : Nat := 0
  evictions : Nat := 0
  refreshes : Nat := 0
  invalidations : Nat := 0
  scanCycles : Nat := 0
deriving DecidableEq, Repr

namespace Tally

def add (count : Count) (t : Tally) : Tally :=
  match count with
  | .hit => { t with hits := t.hits + 1 }
  | .negativeHit => { t with negativeHits := t.negativeHits + 1 }
  | .miss => { t with misses := t.misses + 1 }
  | .bypass => { t with bypasses := t.bypasses + 1 }
  | .diskLoad => { t with diskLoads := t.diskLoads + 1 }
  | .eviction => { t with evictions := t.evictions + 1 }
  | .refresh => { t with refreshes := t.refreshes + 1 }
  | .invalidation => { t with invalidations := t.invalidations + 1 }
  | .scanCycle => { t with scanCycles := t.scanCycles + 1 }

/-- The share of hits among hits and misses, 0 if there were none. -/
def hitRate (t : Tally) : Binary64 :=
  let total := t.hits + t.misses
  if total = 0 then Binary64.zero else (Binary64.ofNat t.hits).div (Binary64.ofNat total)

end Tally

/-- The counters together with what the cache holds at one moment. -/
structure Statistics where
  tally : Tally := {}
  totalEntries : Nat := 0
  usedBytes : Nat := 0
  maxCapacity : Nat := 0
  maxFileSize : Nat := 0
  enabled : Bool := false
deriving DecidableEq, Repr

namespace Statistics

def record (s : Statistics) : Json.Record :=
  [("hits", .count s.tally.hits),
   ("negative_hits", .count s.tally.negativeHits),
   ("misses", .count s.tally.misses),
   ("bypasses", .count s.tally.bypasses),
   ("disk_loads", .count s.tally.diskLoads),
   ("evictions", .count s.tally.evictions),
   ("refreshes", .count s.tally.refreshes),
   ("invalidations", .count s.tally.invalidations),
   ("scan_cycles", .count s.tally.scanCycles),
   ("total_entries", .count s.totalEntries),
   ("used_bytes", .count s.usedBytes),
   ("max_capacity", .count s.maxCapacity),
   ("max_file_size", .count s.maxFileSize),
   ("enabled", .flag s.enabled)]

/-- The record with the hit rate as its last field. -/
def recordWithRate (s : Statistics) : Json.Record :=
  s.record ++ [("hit_rate", .rate s.tally.hitRate)]

end Statistics
end FileCache
