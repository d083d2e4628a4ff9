import FileCache.Bytes

/-!
Requests as they arrive and responses as they are sent.
-/

namespace FileCache
namespace Http

abbrev Headers := List (String × String)

structure Request where
  method : String
  /-- The target as it stands in the request line. -/
  target : String
  headers : Headers
  body : Bytes

structure Response where
  status : Nat
  headers : Headers
  body : Bytes
deriving DecidableEq, Repr

/-- The names of headers are compared without regard to case. -/
def Headers.get? (name : String) (h : Headers) : Option String :=
  (h.find? fun (key, _) => key.toLower = name).map (·.2)

/-! ## Targets -/

def isSchemeChar (c : Char) : Bool := c.isAlphanum ∨ c ∈ ['+', '-', '.']

/-- What stands behind the scheme of a target that begins with one. -/
def afterScheme? (target : List Char) : Option (List Char) :=
  match target.dropWhile isSchemeChar with
  | ':' :: '/' :: '/' :: rest => some rest
  | _ => none

def endsAuthority (c : Char) : Bool := c ∈ ['/', '?', '#']

def endsPath (c : Char) : Bool := c ∈ ['?', '#']

/-- The path of a target, without its query.  A target with a scheme names a host
first, and the root of that host if nothing follows; one that begins neither with a
scheme nor with a slash names a host alone, and no path. -/
def targetPath (target : List Char) : List Char :=
  if target.head? = some '/' then target.takeWhile (!endsPath ·)
  else
    match afterScheme? target with
    | none => []
    | some rest =>
      let path := (rest.dropWhile (!endsAuthority ·)).takeWhile (!endsPath ·)
      if path = [] then ['/'] else path

def Request.path (r : Request) : String := String.ofList (targetPath r.target.toList)

end Http
end FileCache
