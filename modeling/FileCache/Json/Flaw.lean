import FileCache.Decimal.Shortest
import FileCache.Text.Quoted

/-!
What can be wrong with a JSON text, and how it is said.
-/

namespace FileCache
namespace Json

/-- A value of another type than the one expected. -/
inductive Found
  | null
  | flag (b : Bool)
  | integer (n : Int)
  | fraction (negative : Bool) (x : Decimal.Binary64)
  | text (s : String)
  | list
  | object
deriving DecidableEq, Repr

inductive Flaw
  | endOfValue
  | endOfObject
  | endOfList
  | endOfString
  | expectedValue
  | expectedIdent
  | trailingCharacters
  | trailingComma
  | keyNotString
  | expectedColon
  | expectedCommaInObject
  | expectedCommaInList
  | invalidNumber
  | numberOutOfRange
  | invalidEscape
  | controlCharacter
  | invalidCodePoint
  | loneSurrogate
  | endOfSurrogates
  | missingField (name : String)
  | duplicateField (name : String)
  | tooShort (expected : String)
  | wrongType (found : Found) (expected : String)
deriving DecidableEq, Repr

/-- The text breaks off, it is not JSON, or it says something else. -/
inductive FlawKind
  | early
  | malformed
  | mismatched
deriving DecidableEq, Repr

def Found.shown : Found → String
  | .null => "null"
  | .flag b => "boolean \x60" ++ toString b ++ "\x60"
  | .integer n => "integer \x60" ++ toString n ++ "\x60"
  | .fraction negative x =>
    "floating point \x60" ++ (if negative then "-" else "") ++ x.text ++ "\x60"
  | .text s => "string " ++ Text.quoted s
  | .list => "sequence"
  | .object => "map"

namespace Flaw

def kind : Flaw → FlawKind
  | .endOfValue => .early
  | .endOfObject => .early
  | .endOfList => .early
  | .endOfString => .early
  | .missingField _ => .mismatched
  | .duplicateField _ => .mismatched
  | .tooShort _ => .mismatched
  | .wrongType _ _ => .mismatched
  | _ => .malformed

def message : Flaw → String
  | .endOfValue => "EOF while parsing a value"
  | .endOfObject => "EOF while parsing an object"
  | .endOfList => "EOF while parsing a list"
  | .endOfString => "EOF while parsing a string"
  | .expectedValue => "expected value"
  | .expectedIdent => "expected ident"
  | .trailingCharacters => "trailing characters"
  | .trailingComma => "trailing comma"
  | .keyNotString => "key must be a string"
  | .expectedColon => "expected \x60:\x60"
  | .expectedCommaInObject => "expected \x60,\x60 or \x60\x7d\x60"
  | .expectedCommaInList => "expected \x60,\x60 or \x60]\x60"
  | .invalidNumber => "invalid number"
  | .numberOutOfRange => "number out of range"
  | .invalidEscape => "invalid escape"
  | .controlCharacter =>
    "control character (\\u0000-\\u001F) found while parsing a string"
  | .invalidCodePoint => "invalid unicode code point"
  | .loneSurrogate => "lone leading surrogate in hex escape"
  | .endOfSurrogates => "unexpected end of hex escape"
  | .missingField name => "missing field \x60" ++ name ++ "\x60"
  | .duplicateField name => "duplicate field \x60" ++ name ++ "\x60"
  | .tooShort expected => "invalid length 0, expected " ++ expected
  | .wrongType found expected => "invalid type: " ++ found.shown ++ ", expected " ++ expected

end Flaw

/-- A flaw at a position, met while the value at `place` was read. -/
structure Failure where
  flaw : Flaw
  line : Nat
  column : Nat
  place : Option String := none
deriving DecidableEq, Repr

namespace Failure

def message (f : Failure) : String :=
  f.flaw.message ++ " at line " ++ toString f.line ++ " column " ++ toString f.column

/-- The message after the place, if there is one. -/
def located (f : Failure) : String :=
  match f.place with
  | some place => place ++ ": " ++ f.message
  | none => f.message

end Failure
end Json
end FileCache
