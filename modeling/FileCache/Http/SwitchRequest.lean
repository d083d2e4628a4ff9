import FileCache.Json.Reader

/-!
The body of a request to turn the cache on or off: an object with the one field
`enabled`, or a list of one value.
-/

namespace FileCache
namespace Http
namespace SwitchRequest

open Json
open Json.Reader

def fieldName : String := "enabled"

def expectedBody : String := "struct SetEnabledRequest"

/-- Reads with every failure placed at `place`. -/
def within {α : Type} (place : String) (reader : Reader α) : Reader α := fun c =>
  match reader c with
  | .error failure => .error { failure with place := some place }
  | .ok result => .ok result

/-- What the body says, or a flaw that is reported behind the closing bracket. -/
abbrev Answer := Except Flaw Bool

/-- The end of a list, or what stands in its place. -/
def closeList : Reader (Option Failure) := do
  match ← peekPastBlanks with
  | none =>
    let c ← get
    return some { flaw := .endOfList, line := c.line, column := c.column }
  | some b =>
    if b = byte ']' then
      skip
      return none
    else
      let mut flaw := Flaw.trailingCharacters
      if b = byte ',' then
        skip
        if (← peekPastBlanks) = some (byte ']') then flaw := .trailingComma
      let c := (← get).forward
      return some { flaw, line := c.line, column := c.column }

/-- The end of an object, or what stands in its place. -/
def closeObject : Reader (Option Failure) := do
  match ← peekPastBlanks with
  | none =>
    let c ← get
    return some { flaw := .endOfObject, line := c.line, column := c.column }
  | some b =>
    if b = byte '}' then
      skip
      return none
    else
      let c := (← get).forward
      let flaw := if b = byte ',' then Flaw.trailingComma else .trailingCharacters
      return some { flaw, line := c.line, column := c.column }

def listBody : Reader Answer := do
  match ← peekPastBlanks with
  | none => fail .endOfList
  | some b =>
    if b = byte ']' then return .error (.tooShort (expectedBody ++ " with 1 element"))
    else return .ok (← within "[0]" flag)

/-- Looks for the next key of an object; none at the end of the object. -/
def nextKey (first : Bool) : Reader (Option String) := do
  match ← peekPastBlanks with
  | none => fail .endOfObject
  | some b =>
    if b = byte '}' then return none
    else if b = byte '"' then
      if first then
        skip
        return some (← stringText)
      else failNext .expectedCommaInObject
    else if b = byte ',' ∧ !first then
      skip
      match ← peekPastBlanks with
      | none => fail .endOfValue
      | some b =>
        if b = byte '"' then
          skip
          return some (← stringText)
        else if b = byte '}' then failNext .trailingComma
        else failNext .keyNotString
    else if first then failNext .keyNotString
    else failNext .expectedCommaInObject

def colon : Reader Unit := do
  match ← peekPastBlanks with
  | none => fail .endOfObject
  | some b => if b = byte ':' then skip else failNext .expectedColon

/-- The fields of an object; `seen` is what the field said, once it was there. -/
def objectBody (fuel : Nat) (first : Bool) (seen : Option Bool) : Reader Answer :=
  match fuel with
  | 0 => fail .endOfObject
  | fuel + 1 => do
    match ← nextKey first with
    | none =>
      match seen with
      | some on => return .ok on
      | none => return .error (.missingField fieldName)
    | some key =>
      if key = fieldName then
        if seen.isSome then return .error (.duplicateField fieldName)
        else
          colon
          let on ← within key flag
          objectBody fuel false (some on)
      else
        colon
        within key skipValue
        objectBody fuel false seen

/-- A flaw in the body comes before one in its closing. -/
def settle (answer : Answer) (closing : Option Failure) : Reader Bool :=
  match answer, closing with
  | .error flaw, _ => fail flaw
  | .ok _, some failure => throw failure
  | .ok on, none => return on

def value : Reader Bool := do
  match ← peekPastBlanks with
  | none => fail .endOfValue
  | some b =>
    if b = byte '[' then
      skip
      let answer ← listBody
      settle answer (← closeList)
    else if b = byte '{' then
      skip
      let answer ← objectBody ((← remaining) + 1) true none
      settle answer (← closeObject)
    else complain expectedBody

/-- Nothing but blanks may follow. -/
def nothingMore : Reader Unit := do
  match ← peekPastBlanks with
  | none => return ()
  | some _ => failNext .trailingCharacters

/-- The state asked for at the beginning of a body, whatever comes after it. -/
def ofFront (body : Bytes) : Except Failure Bool := (value (Cursor.start body)).map (·.1)

/-- The state asked for in a body that holds nothing else. -/
def ofBytes (body : Bytes) : Except Failure Bool :=
  ((do
    let on ← value
    nothingMore
    return on : Reader Bool) (Cursor.start body)).map (·.1)

end SwitchRequest
end Http
end FileCache
