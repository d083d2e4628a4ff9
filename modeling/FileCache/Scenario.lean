import FileCache.Server

/-!
Scripts that are played on a server.  A hook is a script of its own that is played
in the middle of a file operation, while the task that performs the operation is
held up.
-/

namespace FileCache
namespace Scenario

open Http

inductive TaskStep
  | spawn
  | request (times : Nat)
  | stop
  | isFinished
  | drop
  | join
deriving Repr

inductive Step
  | edit (change : Edit)
  /-- Writes a file; without a time it is modified now. -/
  | write (path : String) (bytes : Bytes) (modified : Option Time.Timestamp)
  | hook (path : String) (op : FileOp) (script : List Step)
  | elapse (ms : Nat)
  | lookup (path : Path)
  | lookups (path : Path) (times : Nat)
  /-- A lookup that nobody waits for until the end of the step at the top. -/
  | background (path : Path)
  | toggle (on : Bool)
  | shutdown
  | scan (times : Nat)
  | sweep
  | contains (path : Path)
  | info
  | read (path : Path)
  | stat (path : Path)
  /-- Something about the scanner that is known by `name`. -/
  | task (name : String) (step : TaskStep)
  /-- A file by its path with all escapes resolved. -/
  | file (path : String)
  | request (r : Request)

inductive Result
  | nothing
  | flag (b : Bool)
  | flags (bs : List Bool)
  | answer (copy : Option Copy)
  | answers (copies : List (Option Copy))
  | report (r : Report)
  | info (limits : Limits) (statistics : Statistics)
  | read (r : ReadResult)
  | status (r : Except Errno Status)
  | response (r : Response)
  | refused (r : Refusal)

/-- The result of a step, and the state in which it leaves the store. -/
structure Outcome where
  result : Result
  statistics : Statistics

structure HookOutcome where
  path : List String
  op : FileOp
  steps : List Outcome

/-- A step of the script at the top, with everything that came to its end
meanwhile. -/
structure Scene where
  outcome : Outcome
  hooks : List HookOutcome
  background : List (Option Copy)
  notices : List Notice

/-! ## What a step waits for -/

inductive Awaited
  | ready (r : Result)
  | lookup (id : CallId)
  | lookups (ids : List CallId)
  | sweep (id : CallId)
  /-- A change of the switch; the result tells whether the store is on. -/
  | switched (id : CallId)
  | scans (ids : List CallId)
  | read (id : CallId)
  | stat (id : CallId)
  | ended (id : ScannerId)
  | file (plan : Plan) (id : CallId)
  | response (method : String) (plan : Plan) (id : Option CallId)

def answer? (w : World) (id : CallId) : Option (Option Copy) :=
  match w.calls[id]? with
  | some (.lookup _ (.done answer)) => some answer
  | _ => none

def queued? (w : World) (id : CallId) : Option Bool :=
  match w.calls[id]? with
  | some (.scan (.done queued)) => some queued
  | _ => none

/-- The result of what was awaited, once there is one. -/
def Awaited.result? (w : World) : Awaited → Option Result
  | .ready r => some r
  | .lookup id => (answer? w id).map .answer
  | .lookups ids => (ids.mapM (answer? w)).map .answers
  | .sweep id =>
    match w.calls[id]? with
    | some (.sweep sw) => sw.report?.map .report
    | _ => none
  | .switched id =>
    match w.calls[id]? with
    | some (.toggle _ .done) => some (.flag w.store.enabled)
    | some (.shutdown .done) => some (.flag w.store.enabled)
    | _ => none
  | .scans ids => (ids.mapM (queued? w)).map .flags
  | .read id =>
    match w.calls[id]? with
    | some (.read _ (.finished r)) => some (.read r)
    | _ => none
  | .stat id =>
    match w.calls[id]? with
    | some (.stat _ (some r)) => some (.status r)
    | _ => none
  | .ended id => if w.hasEnded id then some (.flag true) else none
  | .file plan id =>
    (plan.outcome? w w.calls[id]?).map fun
      | .ok r => Result.response r
      | .error r => Result.refused r
  | .response method plan id =>
    (plan.response? w method (id.bind fun id => w.calls[id]?)).map Result.response

/-! ## The stage -/

structure Hook where
  path : List String
  op : FileOp
  script : List Step

/-- A script that is being played. -/
structure Frame where
  /-- For a hook, who is held up in which operation. -/
  owner : Option (Agent × List String × FileOp)
  todo : List Step
  current : Option Awaited
  /-- The outcomes so far, the last one first. -/
  done : List Outcome

structure Stage where
  server : Server
  /-- The hooks still to be played, in the order in which they were set. -/
  hooks : List Hook
  /-- The scripts being played, the innermost first. -/
  frames : List Frame
  tasks : List (String × ScannerId)
  background : List CallId
  notices : List Notice
  ended : List HookOutcome
  /-- The scenes so far, the last one first. -/
  scenes : List Scene

namespace Stage

def fresh (server : Server) (script : List Step) : Stage where
  server
  hooks := []
  frames := [{ owner := none, todo := script, current := none, done := [] }]
  tasks := []
  background := []
  notices := []
  ended := []
  scenes := []

def world (st : Stage) : World := st.server.world

def setWorld (w : World) (st : Stage) : Stage := { st with server := { st.server with world := w } }

/-- Lets an event happen; one that cannot happen changes nothing. -/
def event (e : World.Event) (st : Stage) : Stage :=
  match st.world.apply e with
  | none => st
  | some (w, notices) => { st.setWorld w with notices := st.notices ++ notices }

def begin (ask : Ask) (st : Stage) : CallId × Stage :=
  (st.world.calls.length, st.event (.call ask))

def beginTimes (ask : Ask) (times : Nat) (st : Stage) : List CallId × Stage :=
  ((List.range times).map (st.world.calls.length + ·),
    (List.replicate times ask).foldl (fun st ask => (st.begin ask).2) st)

/-- Asks a scanner for a sweep several times in a row. -/
def requestTimes (id : ScannerId) : Nat → Stage → List Bool × Stage
  | 0, st => ([], st)
  | times + 1, st =>
    let answer := (st.world.requestScan id).1
    let (answers, st) := requestTimes id times (st.event (.request id))
    (answer :: answers, st)

def forgetTask (name : String) (st : Stage) : Stage :=
  { st with tasks := st.tasks.filter (·.1 ≠ name) }

/-- Begins a step about a scanner.  One that takes the name of another has begun to
wait for its timer before the other is stopped. -/
def startTask (name : String) (step : TaskStep) (st : Stage) : Awaited × Stage :=
  match step, st.tasks.lookup name with
  | .spawn, known =>
    let id := st.world.scanners.length
    let st := ((st.forgetTask name).event .spawn).event (.turn (.scanner id))
    let st := known.elim st fun old => st.event (.stop old)
    (.ready (.flag true), { st with tasks := (name, id) :: st.tasks })
  | .request times, some id =>
    let (answers, st) := st.requestTimes id times
    (.ready (.flags answers), st)
  | .request _, none => (.ready .nothing, st)
  | .stop, some id => (.ready (.flag true), st.event (.stop id))
  | .stop, none => (.ready (.flag false), st)
  | .isFinished, some id => (.ready (.flag (st.world.hasEnded id)), st)
  | .isFinished, none => (.ready .nothing, st)
  | .drop, some id => (.ready (.flag true), (st.forgetTask name).event (.stop id))
  | .drop, none => (.ready (.flag false), st)
  | .join, some id => (.ended id, st.forgetTask name)
  | .join, none => (.ready (.flag false), st)

def startPlan (method : String) (plan : Plan) (st : Stage) : Awaited × Stage :=
  match plan.ask? st.server.root with
  | none => (.response method plan none, st)
  | some ask =>
    let (id, st) := st.begin ask
    (.response method plan (some id), st)

/-- Begins a step, and says what its result has to wait for. -/
def startStep (step : Step) (st : Stage) : Awaited × Stage :=
  match step with
  | .edit change =>
    (.ready (.flag (st.world.disk.edit? change).isSome), st.event (.edit change))
  | .write path bytes modified =>
    let change := Edit.write path bytes (modified.getD st.world.wall)
    (.ready (.flag (st.world.disk.edit? change).isSome), st.event (.edit change))
  | .hook path op script =>
    (.ready (.flag true),
      { st with hooks := st.hooks ++ [{ path := Path.partsOf path, op, script }] })
  | .elapse ms => (.ready (.flag true), st.event (.elapse ms))
  | .lookup path =>
    let (id, st) := st.begin (.lookup path)
    (.lookup id, st)
  | .lookups path times =>
    let (ids, st) := st.beginTimes (.lookup path) times
    (.lookups ids, st)
  | .background path =>
    let (id, st) := st.begin (.lookup path)
    (.ready (.flag true), { st with background := st.background ++ [id] })
  | .toggle on =>
    let (id, st) := st.begin (.toggle on)
    (.switched id, st)
  | .shutdown =>
    let (id, st) := st.begin .shutdown
    (.switched id, st)
  | .scan times =>
    let (ids, st) := st.beginTimes .scan times
    (.scans ids, st)
  | .sweep =>
    let (id, st) := st.begin .sweep
    (.sweep id, st)
  | .contains path => (.ready (.flag (st.world.store.find? path).isSome), st)
  | .info => (.ready (.info st.world.store.limits st.world.store.statistics), st)
  | .read path =>
    let (id, st) := st.begin (.read path)
    (.read id, st)
  | .stat path =>
    let (id, st) := st.begin (.stat path)
    (.stat id, st)
  | .task name step => st.startTask name step
  | .file path =>
    match Plan.ofFile path with
    | .error refusal => (.ready (.refused refusal), st)
    | .ok plan =>
      match plan.ask? st.server.root with
      | none => (.ready .nothing, st)
      | some ask =>
        let (id, st) := st.begin ask
        (.file plan id, st)
  | .request r => st.startPlan r.method (Plan.ofRequest r)

/-- Everyone who waits for the end of a hook. -/
def held (st : Stage) : List Agent := st.frames.filterMap fun f => f.owner.map (·.1)

def turn (agent : Agent) (st : Stage) : Stage := st.event (.turn agent)

/-- The first hook for an operation, and the other hooks. -/
def takeHook? (path : List String) (op : FileOp) : List Hook → Option (Hook × List Hook)
  | [] => none
  | hook :: rest =>
    if hook.path = path ∧ hook.op = op then some (hook, rest)
    else (takeHook? path op rest).map fun (found, others) => (found, hook :: others)

/-- Lets an agent take its turn, unless there is a hook to be played first. -/
def play (agent : Agent) (st : Stage) : Stage :=
  match (st.world.op? agent).bind fun (path, op) => takeHook? path.parts op st.hooks with
  | none => st.turn agent
  | some (hook, hooks) =>
    { st with
      hooks
      frames :=
        { owner := some (agent, hook.path, hook.op), todo := hook.script, current := none,
          done := [] } :: st.frames }

/-- Notes the result of the step at hand in a script that is played between others. -/
def note (inner : List Frame) (frame : Frame) (outer : List Frame) (result : Result)
    (st : Stage) : Stage :=
  let outcome : Outcome := { result, statistics := st.world.store.statistics }
  match frame.owner with
  | some _ =>
    let frame := { frame with current := none, done := outcome :: frame.done }
    { st with frames := inner ++ frame :: outer }
  | none =>
    let scene : Scene :=
      { outcome, hooks := st.ended,
        background := st.background.filterMap (answer? st.world), notices := st.notices }
    { st with
      frames := inner ++ { frame with current := none } :: outer
      background := []
      notices := []
      ended := []
      scenes := scene :: st.scenes }

/-- Ends a script.  Whoever was held up performs the operation now. -/
def close (inner : List Frame) (frame : Frame) (outer : List Frame) (st : Stage) : Stage :=
  match frame.owner with
  | none => { st with frames := inner ++ outer }
  | some (agent, path, op) =>
    let hook : HookOutcome := { path, op, steps := frame.done.reverse }
    { st with frames := inner ++ outer, ended := st.ended ++ [hook] }.turn agent

/-- A script goes on with its next step, unless it still waits for a result. -/
def advance? (inner : List Frame) (frame : Frame) (outer : List Frame) (st : Stage) :
    Option Stage :=
  match frame.current with
  | some awaited =>
    (awaited.result? st.world).map fun result => st.note inner frame outer result
  | none =>
    match frame.todo with
    | [] => some (st.close inner frame outer)
    | step :: todo =>
      let (awaited, st) := st.startStep step
      some { st with frames := inner ++ { frame with todo, current := some awaited } :: outer }

/-- The innermost script that can go on does so. -/
def goOn? (st : Stage) (inner : List Frame) : List Frame → Option Stage
  | [] => none
  | frame :: outer =>
    (st.advance? inner frame outer).orElse fun _ => st.goOn? (inner ++ [frame]) outer

/-- What happens next, or none if nothing can: everyone who can run runs, and then a
script goes on. -/
def next? (st : Stage) : Option Stage :=
  match st.world.next? st.held with
  | some agent => some (st.play agent)
  | none => st.goOn? [] st.frames

def run (moves : Nat) (st : Stage) : Stage :=
  match moves with
  | 0 => st
  | moves + 1 =>
    match st.next? with
    | none => st
    | some st => run moves st

end Stage

/-- No script of reasonable length takes more moves. -/
def maxMoves : Nat := 100000000

/-- Plays a script from its beginning to its end. -/
def play (server : Server) (script : List Step) : List Scene :=
  ((Stage.fresh server script).run maxMoves).scenes.reverse

end Scenario
end FileCache
