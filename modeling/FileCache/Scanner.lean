import FileCache.Sweep

/-!
A scanner sweeps the store whenever its timer is due or somebody asks it to, until
it is stopped or wakes to find the store switched off.  Its last act is to clear
the store, unless it breaks off: if the clock cannot hold the time at which its timer would be
due, it ends where it sets the timer.
-/

namespace FileCache

abbrev ScannerId := Nat

namespace Scanner

inductive Phase
  | starting
  | idle
  | sweeping (wake : Wake) (sweep : Sweep)
  | clearing
  | ended
deriving DecidableEq, Repr

end Scanner

structure Scanner where
  phase : Scanner.Phase
  /-- Whether the store itself started the scanner. -/
  own : Bool
  stopped : Bool
  /-- Whether a sweep was asked for; there is room for one request. -/
  pending : Bool
  /-- When the timer is due. -/
  deadline : Nat
deriving DecidableEq, Repr

namespace Scanner

def fresh (own : Bool) : Scanner :=
  { phase := .starting, own, stopped := false, pending := false, deadline := 0 }

/-- A timer needs a period of at least a millisecond. -/
def period (limits : Limits) : Nat := max limits.interval 1

/-- The last moment that the clock can hold, in milliseconds: so many seconds as a signed word of
64 bits has, and what is left of the next one. -/
def lastMoment : Nat := (Nat.pow 2 63 - 1) * 1000 + 999

/-- Whether the clock can hold the time at which a timer that is set now is due. -/
def fits (now : Nat) (limits : Limits) : Bool := now + period limits ≤ lastMoment

/-- How late the timer may be, in milliseconds, without losing its rhythm. -/
def tolerance : Nat := 5

/-- When the timer is due again after it was due at `deadline`.  The clock can hold that: the timer
was set a period before, and the clock has not run for half of what it can hold. -/
def nextDeadline (now deadline period : Nat) : Nat :=
  if deadline + tolerance < now then now + period else deadline + period

def hasEnded (sc : Scanner) : Bool := sc.phase = .ended

def stop (sc : Scanner) : Scanner := { sc with stopped := true }

/-- Asks for a sweep.  Refused while a request is pending, and after the end. -/
def request (sc : Scanner) : Bool × Scanner :=
  if sc.hasEnded ∨ sc.pending then (false, sc) else (true, { sc with pending := true })

/-- Begins a sweep, or the end if the store is switched off. -/
def wake (w : Wake) (store : Store) (sc : Scanner) : Step Scanner :=
  if store.enabled then { next := { sc with phase := .sweeping w Sweep.fresh }, store }
  else { next := { sc with phase := .clearing }, store }

/-- The end of a scanner that cannot set its timer.  What is in the store stays there. -/
def breakOff (sc : Scanner) : Scanner := { sc with phase := .ended }

/-- Sets the timer for the first time. -/
def start (now : Nat) (limits : Limits) (sc : Scanner) : Scanner :=
  if fits now limits then { sc with phase := .idle, deadline := now + period limits }
  else sc.breakOff

/-- Answers a request.  A sweep begins with the timer set anew, so that the next sweep by the timer
comes a whole period later. -/
def answer (now : Nat) (store : Store) (sc : Scanner) : Step Scanner :=
  let sc := { sc with pending := false, deadline := now + period store.limits }
  if store.enabled && !fits now store.limits then { next := sc.breakOff, store }
  else wake .trigger store sc

/-- The next step of a scanner, or none while it has no reason to wake and after
its end.  A stop comes before a request, and a request before the timer. -/
def step (now : Nat) (disk : Disk) (store : Store) (sc : Scanner) : Option (Step Scanner) :=
  match sc.phase with
  | .starting =>
    some
      { next := sc.start now store.limits, store,
        notices := [.scannerStarted (period store.limits)] }
  | .idle =>
    if sc.stopped then some { next := { sc with phase := .clearing }, store }
    else if sc.pending then some (sc.answer now store)
    else if sc.deadline ≤ now then
      some (wake .timer store
        { sc with deadline := nextDeadline now sc.deadline (period store.limits) })
    else none
  | .sweeping w sweep =>
    (sweep.step now disk store).map fun st =>
      match st.next.report? with
      | some report =>
        { next := { sc with phase := .idle }, store := st.store,
          notices := st.notices ++ [.scanned w report] }
      | none => { st with next := { sc with phase := .sweeping w st.next } }
  | .clearing =>
    some
      { next := { sc with phase := .ended }, store := store.dropAll,
        notices := [.scannerStopped store.mapped.length] }
  | .ended => none

end Scanner
end FileCache
