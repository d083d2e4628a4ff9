import FileCache.Http.FileKind
import FileCache.Path
import FileCache.Text.Folded

/-!
The media type of a file, and the media types of a request body that count as JSON.
-/

namespace FileCache
namespace Http

/-- What is said of a file of unknown kind. -/
def octetStream : String := "application/octet-stream"

/-- The media type of a file, by its extension without regard to case. -/
def mediaTypeOf (path : String) : String :=
  ((Path.extension? path).bind fun extension => FileKind.type? (Text.folded extension)).getD
    octetStream

/-! ## JSON bodies -/

/-- The characters of a media type's names. -/
def isTokenChar (c : Char) : Bool := c.isAlphanum ∨ c ∈ "!#$%&'*+-.^_\x60|~".toList

/-- Where the reading of the parameters stands. -/
inductive ParameterState
  | start
  | name
  | valueStart
  | value
  | quoteStart
  | quoted
  | quoteEnd
deriving DecidableEq, Repr

namespace ParameterState

def isQuotable (c : Char) : Bool := 0x20 ≤ c.toNat ∧ c.toNat < 0x7F

def next : ParameterState → Char → Option ParameterState
  | .start, c => if c = ' ' then some .start else if isTokenChar c then some .name else none
  | .name, c => if c = '=' then some .valueStart else if isTokenChar c then some .name else none
  | .valueStart, c =>
    if c = '"' then some .quoteStart else if isTokenChar c then some .value else none
  | .value, c => if c = ';' then some .start else if isTokenChar c then some .value else none
  | .quoteStart, c => if isQuotable c then some .quoted else none
  | .quoted, c =>
    if c = '"' then some .quoteEnd else if isQuotable c then some .quoted else none
  | .quoteEnd, c => if c = ';' then some .start else if c = ' ' then some .quoteEnd else none

def mayEnd : ParameterState → Bool
  | .start => true
  | .valueStart => true
  | .value => true
  | .quoteEnd => true
  | _ => false

end ParameterState

def areParameters (s : List Char) : Bool :=
  (s.foldlM ParameterState.next ParameterState.start).any ParameterState.mayEnd

/-- The part of a subtype before its last plus sign, and the suffix after it.  A
plus sign in front belongs to the name. -/
def splitSuffix (subtype : List Char) : List Char × Option (List Char) :=
  let suffix := (subtype.reverse.takeWhile (· ≠ '+')).reverse
  let before := subtype.length - suffix.length - 1
  if suffix.length < subtype.length ∧ 0 < before then (subtype.take before, some suffix)
  else (subtype, none)

def spells (s : List Char) (name : String) : Bool := (String.ofList s).toLower = name

/-- Whether a content type is `application/json` or has the suffix `json`, with or
without parameters. -/
def isJson (contentType : String) : Bool :=
  let (toplevel, rest) := contentType.toList.span isTokenChar
  match rest with
  | '/' :: rest =>
    let (subtype, rest) := rest.span isTokenChar
    let wellFormed :=
      match rest with
      | [] => true
      | c :: parameters => c = ';' ∧ subtype ≠ [] ∧ areParameters parameters
    let (name, suffix) := splitSuffix subtype
    wellFormed && spells toplevel "application" &&
      (spells name "json" || suffix.any fun s => spells s "json")
  | _ => false

end Http
end FileCache
