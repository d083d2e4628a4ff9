import FileCache.Copy
import FileCache.Http.MediaType
import FileCache.Http.PercentDecoding
import FileCache.Http.Refusal
import FileCache.Http.SwitchRequest
import FileCache.Time.Written

/-!
From a request to what has to be done for it, and from what was done to the
response.
-/

namespace FileCache
namespace Http

/-! ## Endpoints -/

inductive Endpoint
  /-- A file, by the rest of the path as it was sent. -/
  | file (rest : String)
  | statistics
  | scan
  | switch
  | health
deriving DecidableEq, Repr

namespace Endpoint

def filePrefix : String := "/static/"

def ofPath? (path : String) : Option Endpoint :=
  if path = "/stats" then some .statistics
  else if path = "/cache/scan" then some .scan
  else if path = "/cache/enabled" then some .switch
  else if path = "/health" then some .health
  else if filePrefix.toList.isPrefixOf path.toList then
    let rest := path.toList.drop filePrefix.length
    if rest = [] then none else some (.file (String.ofList rest))
  else none

def methods : Endpoint → List String
  | .scan => ["POST"]
  | .switch => ["PUT"]
  | _ => ["GET", "HEAD"]

def allow (e : Endpoint) : String := ",".intercalate e.methods

end Endpoint

/-! ## Plans -/

/-- What a request comes to. -/
inductive Plan
  | reply (response : Response)
  /-- Serves the file `name` below the root; `asked` is how it was asked for. -/
  | serve (asked name : String)
  | switch (on : Bool)
  | scan
  | statistics
  | health
deriving DecidableEq, Repr

namespace Plan

def refuse (r : Refusal) : Plan := .reply r.response

/-- The plan for a file, from its path with all escapes resolved. -/
def ofFile (path : String) : Except Refusal Plan :=
  match Path.clean? path with
  | some name => .ok (.serve path name)
  | none => .error (.invalidPath path)

def invalidText : Response :=
  { status := 400, headers := [("content-type", "text/plain; charset=utf-8")],
    body := Bytes.ofString "Invalid URL: Invalid UTF-8 in \x60path\x60" }

def ofEscapedFile (rest : String) : Plan :=
  match Bytes.text? (percentDecode (Bytes.ofString rest)) with
  | none => .reply invalidText
  | some path =>
    match ofFile path with
    | .ok plan => plan
    | .error refusal => refuse refusal

/-- Bodies above this size are not read. -/
def maxBody : Nat := 2097152

def failureText (failure : Json.Failure) : String :=
  match failure.flaw.kind with
  | .mismatched =>
    "Failed to deserialize the JSON body into the target type: " ++ failure.located
  | _ => "Failed to parse the request body as JSON: " ++ failure.located

def ofSwitch (r : Request) : Plan :=
  if !(r.headers.get? "content-type").any isJson then
    refuse (.invalidRequest "Expected request with \x60Content-Type: application/json\x60")
  else if maxBody < r.body.length then
    refuse (.invalidRequest "Failed to buffer the request body: length limit exceeded")
  else
    match SwitchRequest.ofFront r.body with
    | .ok on => .switch on
    | .error failure => refuse (.invalidRequest (failureText failure))

def ofEndpoint (r : Request) : Endpoint → Plan
  | .file rest => ofEscapedFile rest
  | .statistics => .statistics
  | .scan => .scan
  | .switch => ofSwitch r
  | .health => .health

def bare (status : Nat) (headers : Headers) : Plan := .reply { status, headers, body := [] }

def allowHeader (e : Endpoint) : Headers := [("allow", e.allow)]

/-- Every OPTIONS request is answered as one that asks for leave to use an
endpoint from another origin. -/
def preflight (e : Option Endpoint) : Plan :=
  bare 200
    ([("access-control-allow-methods", "*"), ("access-control-allow-headers", "*")] ++
      e.elim [] allowHeader)

def ofRequest (r : Request) : Plan :=
  let endpoint := Endpoint.ofPath? r.path
  if r.method = "OPTIONS" then preflight endpoint
  else
    match endpoint with
    | none => bare 404 []
    | some e => if e.methods.contains r.method then ofEndpoint r e else bare 405 (allowHeader e)

end Plan

/-! ## Responses -/

/-- The response to a request for a file, from the answer of its lookup. -/
def fileResponse (asked name : String) (answer : Option Copy) : Except Refusal Response :=
  match answer with
  | none => .error (.notFound asked)
  | some copy =>
    .ok
      { status := 200,
        headers :=
          [("content-type", mediaTypeOf name),
           ("last-modified", copy.stamp.modified.httpDate)],
        body := copy.bytes }

def scanResponse (queued : Bool) : Response :=
  Response.json (if queued then 202 else 200) (scanRecord queued)

/-- Headers that any response carries, so that every origin may use it. -/
def originHeaders : Headers :=
  [("access-control-allow-origin", "*"),
   ("vary", "origin, access-control-request-method, access-control-request-headers")]

/-- The response as it is sent: with its length, open to every origin, and without
its body if only the head was asked for. -/
def sent (method : String) (r : Response) : Response :=
  { r with
    headers := r.headers ++ [("content-length", toString r.body.length)] ++ originHeaders
    body := if method = "HEAD" then [] else r.body }

end Http
end FileCache
