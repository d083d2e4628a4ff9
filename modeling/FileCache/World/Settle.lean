import FileCache.World.Step

/-!
Who goes next when nobody is hurried: everyone runs up to the next file operation
first, then the file operations take place in order of arrival.
-/

namespace FileCache
namespace World

def agents (w : World) : List Agent :=
  (List.range w.calls.length).map Agent.call ++ (List.range w.scanners.length).map Agent.scanner

def sweepOp? (w : World) (sw : Sweep) : Option (Path × FileOp) :=
  match sw.phase.op?, sw.todo with
  | some op, id :: _ => (w.store.entry? id).map fun e => (e.path, op)
  | _, _ => none

def callOp? (w : World) : Call → Option (Path × FileOp)
  | .lookup path phase => phase.op?.map fun op => (path, op)
  | .sweep phase => w.sweepOp? phase
  | .read path phase => phase.op?.map fun op => (path, op)
  | .stat path none => some (path, .statPath)
  | _ => none

def scannerOp? (w : World) (sc : Scanner) : Option (Path × FileOp) :=
  match sc.phase with
  | .sweeping _ sweep => w.sweepOp? sweep
  | _ => none

/-- The file operation in the next turn of an agent.  A path that no tree can hold
leads to none. -/
def op? (w : World) (agent : Agent) : Option (Path × FileOp) :=
  let op :=
    match agent with
    | .call id => (w.calls[id]?).bind w.callOp?
    | .scanner id => (w.scanners[id]?).bind w.scannerOp?
  op.filter fun (path, _) => !Disk.hasNul path

def canTurn (w : World) (agent : Agent) : Bool := (w.step agent).isSome

/-- The agent whose turn it is, those who are held up left aside. -/
def next? (w : World) (held : List Agent) : Option Agent :=
  let ready := w.agents.filter fun agent => !held.contains agent && w.canTurn agent
  (ready.find? fun agent => (w.op? agent).isNone).or ready.head?

/-- Lets everyone run until all have to wait, for at most `turns` turns. -/
def settle (turns : Nat) (w : World) : World × List Notice :=
  match turns with
  | 0 => (w, [])
  | turns + 1 =>
    match (w.next? []).bind w.step with
    | none => (w, [])
    | some (w, notices) =>
      let (w, more) := settle turns w
      (w, notices ++ more)

end World
end FileCache
