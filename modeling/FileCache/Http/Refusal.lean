import FileCache.Http.Message
import FileCache.Json.Written

/-!
The ways in which a request can be refused, and the bodies of all short answers.
-/

namespace FileCache
namespace Http

/-- Why a request is not served. -/
inductive Refusal
  | notFound (path : String)
  | invalidPath (path : String)
  | invalidRequest (text : String)
deriving DecidableEq, Repr

namespace Refusal

def message : Refusal → String
  | .notFound path => "File not found: " ++ path
  | .invalidPath path => "Invalid path: " ++ path
  | .invalidRequest text => "Invalid request: " ++ text

def status : Refusal → Nat
  | .notFound _ => 404
  | .invalidPath _ => 400
  | .invalidRequest _ => 400

end Refusal

/-! ## Bodies -/

/-- What a refusal says in its body. -/
def errorRecord (text : String) : Json.Record := [("error", .text text)]

def scanRecord (queued : Bool) : Json.Record :=
  [("message", .text
      (if queued then "Cache scan queued"
       else "Cache scan not queued: cache disabled or scan already pending")),
   ("queued", .flag queued)]

def switchRecord (enabled : Bool) : Json.Record :=
  [("message", .text ("Cache " ++ if enabled then "enabled" else "disabled")),
   ("enabled", .flag enabled)]

def healthRecord (enabled : Bool) (time : String) : Json.Record :=
  [("status", .text "healthy"), ("cache_enabled", .flag enabled), ("timestamp", .text time)]

def jsonType : String := "application/json"

def Response.json (status : Nat) (record : Json.Record) : Response :=
  { status, headers := [("content-type", jsonType)], body := Bytes.ofString record.written }

def Refusal.response (r : Refusal) : Response := Response.json r.status (errorRecord r.message)

end Http
end FileCache
