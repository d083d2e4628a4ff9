import FileCache.World.Basic

/-!
The steps of a world.  Every run of the program, in whatever order its tasks take
turns, is a list of events.
-/

namespace FileCache
namespace World

/-! ## The switch -/

/-- Starts a scanner of the store's own and turns the store on. -/
def turnOn (w : World) : World :=
  let w := { w with
    store := { w.store with enabled := true }
    switch := { slot := some w.scanners.length, held := false } }
  w.addScanner true

/-- Turns the store off and tells its scanner to stop. -/
def turnOff (w : World) : World :=
  let w := { w with store := { w.store with enabled := false } }
  match w.switch.slot with
  | some id => w.stopScanner id
  | none => w

/-- Turning the store into the state it is in does nothing. -/
def stepToggle (w : World) (on : Bool) : Toggle → Option (Toggle × World × List Notice)
  | .waiting =>
    if w.switch.held then none
    else if on = w.store.enabled then some (.done, w, [])
    else if on then
      match w.switch.slot with
      | some previous =>
        some (.joining previous, { w with switch := { slot := none, held := true } }, [])
      | none => some (.done, w.turnOn, [.enabled])
    else some (.done, w.turnOff, [.disabled])
  | .joining previous =>
    if w.hasEnded previous then some (.done, w.turnOn, [.enabled]) else none
  | .done => none

def stepShutdown (w : World) : Shutdown → Option (Shutdown × World × List Notice)
  | .waiting =>
    if w.switch.held then none
    else if w.store.enabled then some (.taking, w.turnOff, [.disabled])
    else some (.taking, w, [])
  | .taking =>
    if w.switch.held then none
    else
      match w.switch.slot with
      | some id => some (.joining id, { w with switch := { w.switch with slot := none } }, [])
      | none => some (.done, w, [])
  | .joining id => if w.hasEnded id then some (.done, w, []) else none
  | .done => none

def stepScan (w : World) : ScanRequest → Option (ScanRequest × World)
  | .waiting =>
    if w.switch.held then none
    else
      match w.switch.slot, w.store.enabled with
      | some id, true =>
        let (queued, w) := w.requestScan id
        some (.done queued, w)
      | _, _ => some (.done false, w)
  | .done _ => none

/-! ## One turn -/

def setCall (id : CallId) (call : Call) (w : World) : World :=
  { w with calls := w.calls.set id call }

def stepCall (w : World) (id : CallId) : Call → Option (World × List Notice)
  | .lookup path phase =>
    (phase.step w.now w.disk path w.store).map fun st =>
      ({ w with store := st.store }.setCall id (.lookup path st.next), st.notices)
  | .sweep phase =>
    (phase.step w.now w.disk w.store).map fun st =>
      ({ w with store := st.store }.setCall id (.sweep st.next), st.notices)
  | .toggle on phase =>
    (w.stepToggle on phase).map fun (phase, w, notices) =>
      (w.setCall id (.toggle on phase), notices)
  | .shutdown phase =>
    (w.stepShutdown phase).map fun (phase, w, notices) =>
      (w.setCall id (.shutdown phase), notices)
  | .scan phase =>
    (w.stepScan phase).map fun (phase, w) => (w.setCall id (.scan phase), [])
  | .read path phase =>
    match phase with
    | .finished _ => none
    | _ => some (w.setCall id (.read path (phase.advance w.disk path)), [])
  | .stat path result =>
    match result with
    | some _ => none
    | none => some (w.setCall id (.stat path (some (w.disk.statPath path))), [])

def stepScanner (w : World) (id : ScannerId) (sc : Scanner) : Option (World × List Notice) :=
  (sc.step w.now w.disk w.store).map fun st =>
    ({ w with store := st.store, scanners := w.scanners.set id st.next }, st.notices)

/-- One turn of an agent, up to the next point at which another may take over.
None if the agent has to wait or has come to its end. -/
def step (w : World) : Agent → Option (World × List Notice)
  | .call id => (w.calls[id]?).bind (w.stepCall id)
  | .scanner id => (w.scanners[id]?).bind (w.stepScanner id)

/-! ## Runs -/

inductive Event
  | turn (agent : Agent)
  /-- Somebody begins to use the store. -/
  | call (ask : Ask)
  | edit (change : Edit)
  /-- Time passes, but no more than the clock has left. -/
  | elapse (ms : Nat)
  /-- Starts a scanner besides the store's own. -/
  | spawn
  /-- Stops such a scanner, or lets go of it. -/
  | stop (id : ScannerId)
  | request (id : ScannerId)
  /-- The order in which a sweep visits the map is nobody's business. -/
  | shuffle (order : List EntryId)

/-- The clock counts from zero and is not read any more after it has run through half of what it
can hold, which is more than a hundred thousand million years. -/
def longestUptime : Nat := Scanner.lastMoment / 2

def elapse (ms : Nat) (w : World) : World :=
  { w with now := w.now + ms, wall := w.wall.addMillis ms }

def begin (ask : Ask) (w : World) : World := { w with calls := w.calls ++ [ask.call] }

def isExtra (w : World) (id : ScannerId) : Bool := (w.scanners[id]?).any fun sc => !sc.own

/-- The world after an event, or none if the event cannot happen. -/
def apply (w : World) : Event → Option (World × List Notice)
  | .turn agent => w.step agent
  | .call ask => some (w.begin ask, [])
  | .edit change => (w.disk.edit? change).map fun disk => ({ w with disk }, [])
  | .elapse ms => if w.now + ms ≤ longestUptime then some (w.elapse ms, []) else none
  | .spawn => some (w.addScanner false, [])
  | .stop id => if w.isExtra id then some (w.stopScanner id, []) else none
  | .request id => if w.isExtra id then some ((w.requestScan id).2, []) else none
  | .shuffle order =>
    if order.isPerm w.store.mapped then
      some ({ w with store := { w.store with mapped := order } }, [])
    else none

/-- The world after a list of events, and all that was reported on the way. -/
def run (w : World) : List Event → Option (World × List Notice)
  | [] => some (w, [])
  | event :: rest =>
    (w.apply event).bind fun (w, notices) =>
      (run w rest).map fun (w, more) => (w, notices ++ more)

end World
end FileCache
