/-
What one sweep did, entry by entry and in total.
-/
namespace FileCache

/-- What became of one entry. -/
inductive Verdict
  | stale
  | unknown
  | notExist
  | noChange
  | failed
  | preloaded
  | swapped
deriving DecidableEq, Repr

structure Report where
  stale : Nat := 0
  unknown : Nat := 0
  notExist : Nat := 0
  noChange : Nat := 0
  failed : Nat := 0
  preloaded : Nat := 0
  swapped : Nat := 0
  /-- Entries that turned into placeholders for a missing file. -/
  invalidated : Nat := 0
deriving DecidableEq, Repr

namespace Report

def add (verdict : Verdict) (r : Report) : Report :=
  match verdict with
  | .stale => { r with stale := r.stale + 1 }
  | .unknown => { r with unknown := r.unknown + 1 }
  | .notExist => { r with notExist := r.notExist + 1 }
  | .noChange => { r with noChange := r.noChange + 1 }
  | .failed => { r with failed := r.failed + 1 }
  | .preloaded => { r with preloaded := r.preloaded + 1 }
  | .swapped => { r with swapped := r.swapped + 1 }

def addInvalidated (n : Nat) (r : Report) : Report :=
  { r with invalidated := r.invalidated + n }

/-- Adds a verdict, and an invalidation if the entry was no placeholder before. -/
def conclude (verdict : Verdict) (wasMissing : Bool) (r : Report) : Report :=
  let r := r.add verdict
  if verdict = .notExist ∧ wasMissing = false then r.addInvalidated 1 else r

def visited (r : Report) : Nat :=
  r.stale + r.unknown + r.notExist + r.noChange + r.failed + r.preloaded + r.swapped

def evicted (r : Report) : Nat := r.stale + r.failed

def refreshed (r : Report) : Nat := r.preloaded + r.swapped

def hasChanges (r : Report) : Bool := 0 < r.evicted ∨ 0 < r.refreshed ∨ 0 < r.invalidated

end Report
end FileCache
