import FileCache.Store

/-!
A sweep brings the entries in line with the disk, one after the other.  Between
two steps of a sweep other tasks may run.
-/

namespace FileCache

namespace Sweep

/-- What the sweep does next to the entry it visits. -/
inductive Phase
  /-- The list of entries is to be taken. -/
  | listing
  | visiting
  | discarding (verdict : Verdict)
  | checking
  | comparing (seen : Stamp)
  /-- Whether `seen` fits is to be judged, in place of `old` bytes. -/
  | weighing (seen : Stamp) (old : Nat)
  /-- The new content is read beside the old. -/
  | preloading (reading : Reading)
  | exchanging (copy : Copy)
  | vacating
  /-- The new content is read after the old was given up. -/
  | reloading (reading : Reading)
  | refilling (copy : Copy)
  | forgetting
  | finished
deriving DecidableEq, Repr

end Sweep

structure Sweep where
  phase : Sweep.Phase
  /-- The entries still to be visited, the one at hand first. -/
  todo : List EntryId
  /-- Whether the entry at hand was a placeholder when the visit began. -/
  wasMissing : Bool
  report : Report
deriving DecidableEq, Repr

namespace Sweep

def fresh : Sweep := { phase := .listing, todo := [], wasMissing := false, report := {} }

def Phase.op? : Phase → Option FileOp
  | .checking => some .statPath
  | .preloading reading => reading.op?
  | .reloading reading => reading.op?
  | _ => none

def report? (sw : Sweep) : Option Report :=
  match sw.phase with
  | .finished => some sw.report
  | _ => none

def goto (sw : Sweep) (phase : Phase) (store : Store) (notices : List Notice := []) :
    Step Sweep :=
  { next := { sw with phase }, store, notices }

/-- Goes on to the next entry.  After the last one the sweep is counted. -/
def proceed (sw : Sweep) (todo : List EntryId) (store : Store) (notices : List Notice) :
    Step Sweep :=
  match todo with
  | [] =>
    { next := { sw with phase := .finished, todo := [] },
      store := store.count .scanCycle, notices }
  | _ :: _ => { next := { sw with phase := .visiting, todo }, store, notices }

/-- Ends the visit of the entry at hand. -/
def conclude (sw : Sweep) (path : Path) (rest : List EntryId) (verdict : Verdict) (store : Store)
    (notices : List Notice := []) : Step Sweep :=
  { sw with report := sw.report.conclude verdict sw.wasMissing }.proceed rest store
    (notices ++ [Notice.reconciled path verdict])

/-- The next step of a visit to the entry `e`, known as `id`. -/
def visit (now : Nat) (disk : Disk) (store : Store) (sw : Sweep) (id : EntryId) (e : Entry)
    (rest : List EntryId) : Option (Step Sweep) :=
  match sw.phase with
  | .visiting =>
    let sw := { sw with wasMissing := e.content = Content.missing }
    if e.isExpired now (store.limits.interval * 1000) then
      some (sw.goto (.discarding .stale) store)
    else some (sw.goto .checking store)
  | .discarding verdict => some (sw.conclude e.path rest verdict (store.discard id))
  | .checking =>
    match disk.statPath e.path with
    | .ok status =>
      if status.regular then some (sw.goto (.comparing status.stamp) store)
      else some (sw.goto .forgetting store)
    | .error .noEntry => some (sw.goto .forgetting store)
    | .error _ => some (sw.conclude e.path rest .unknown store [.statFailed e.path])
  | .comparing seen =>
    match e.content with
    | .present copy =>
      if seen.differs copy.stamp then some (sw.goto (.weighing seen copy.size) store)
      else some (sw.conclude e.path rest .noChange store)
    | _ => some (sw.goto (.weighing seen 0) store)
  | .weighing seen old =>
    if store.limits.maxFile < seen.size ∨
        store.limits.capacity < store.used - old + seen.size then
      some (sw.goto (.discarding .failed) store)
    else if store.used + seen.size ≤ store.limits.capacity then
      some (sw.goto (.preloading .opening) store)
    else some (sw.goto .vacating store)
  | .preloading reading =>
    match reading.advance disk e.path with
    | .finished (.copy copy) => some (sw.goto (.exchanging copy) store)
    | .finished .absent => some (sw.goto .forgetting store)
    | .finished (.failed _) =>
      some (sw.conclude e.path rest .unknown store [.reloadFailed e.path])
    | reading => some (sw.goto (.preloading reading) store)
  | .exchanging copy =>
    let (store, verdict) := store.exchange now id copy
    some (sw.conclude e.path rest verdict store)
  | .vacating =>
    match store.vacate? id with
    | none => some (sw.conclude e.path rest .noChange store)
    | some store => some (sw.goto (.reloading .opening) store)
  | .reloading reading =>
    match reading.advance disk e.path with
    | .finished (.copy copy) => some (sw.goto (.refilling copy) store)
    | .finished .absent => some (sw.goto .forgetting store)
    | .finished (.failed _) =>
      some (sw.goto (.discarding .failed) store [.reloadFailed e.path])
    | reading => some (sw.goto (.reloading reading) store)
  | .refilling copy =>
    let (store, verdict) := store.refill now id copy
    some (sw.conclude e.path rest verdict store)
  | .forgetting => some (sw.conclude e.path rest .notExist (store.forget id))
  | .listing => none
  | .finished => none

/-- The next step of a sweep, or none after its end. -/
def step (now : Nat) (disk : Disk) (store : Store) (sw : Sweep) : Option (Step Sweep) :=
  match sw.phase, sw.todo with
  | .listing, _ => some (sw.proceed store.mapped store [])
  | _, [] => none
  | _, id :: rest => (store.entry? id).bind fun e => sw.visit now disk store id e rest

end Sweep
end FileCache
