import FileCache.Http.Router
import FileCache.Settings
import FileCache.World.Settle

/-!
The server: a world, and the directory below which it serves files.
-/

namespace FileCache

open Http

namespace Http.Plan

/-- What a plan asks of the store. -/
def ask? (root : String) : Plan → Option Ask
  | .serve _ name => some (.lookup (Path.below root name))
  | .switch on => some (.toggle on)
  | .scan => some .scan
  | _ => none

/-- What becomes of a plan, once the call that it needed has come to its end. -/
def outcome? (w : World) (call : Option Call) : Plan → Option (Except Refusal Response)
  | .reply response => some (.ok response)
  | .serve asked name =>
    match call with
    | some (.lookup _ (.done answer)) => some (fileResponse asked name answer)
    | _ => none
  | .switch _ =>
    match call with
    | some (.toggle _ .done) => some (.ok (Response.json 200 (switchRecord w.store.enabled)))
    | _ => none
  | .scan =>
    match call with
    | some (.scan (.done queued)) => some (.ok (scanResponse queued))
    | _ => none
  | .statistics => some (.ok (Response.json 200 w.store.statistics.recordWithRate))
  | .health => some (.ok (Response.json 200 (healthRecord w.store.enabled w.wall.utc)))

/-- The response as it is sent, once there is one. -/
def response? (w : World) (method : String) (call : Option Call) (p : Plan) : Option Response :=
  (p.outcome? w call).map fun
    | .ok response => sent method response
    | .error refusal => sent method refusal.response

end Http.Plan

structure Server where
  world : World
  root : String

namespace Server

def fresh (limits : Limits) (root : String) (wall : Time.Timestamp) : Server :=
  { world := World.fresh limits wall, root }

def ofSettings (s : Settings) (wall : Time.Timestamp) : Server := fresh s.limits s.root wall

/-- Follows a plan while nothing else is asked for, for at most `turns` turns. -/
def follow (turns : Nat) (plan : Plan) (s : Server) :
    Option (Except Refusal Response) × Server :=
  match plan.ask? s.root with
  | none => (plan.outcome? s.world none, s)
  | some ask =>
    let id := s.world.calls.length
    let world := ((s.world.begin ask).settle turns).1
    (plan.outcome? world world.calls[id]?, { s with world })

/-- Serves one request while nothing else is asked for. -/
def handle (turns : Nat) (r : Request) (s : Server) : Option Response × Server :=
  let (outcome, s) := s.follow turns (Plan.ofRequest r)
  (outcome.map fun
    | .ok response => sent r.method response
    | .error refusal => sent r.method refusal.response, s)

end Server
end FileCache
