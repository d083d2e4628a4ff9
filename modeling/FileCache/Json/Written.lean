import FileCache.Decimal.Shortest

/-!
Flat JSON records in their compact written form.
-/

namespace FileCache
namespace Json

inductive Value
  | flag (b : Bool)
  | count (n : Nat)
  | rate (x : Decimal.Binary64)
  | text (s : String)
deriving DecidableEq, Repr

/-- The fields in the order in which they are written. -/
abbrev Record := List (String × Value)

def hexDigit (n : Nat) : Char := Nat.digitChar n

/-- Quotes, backslashes and control characters are escaped; all else stands for
itself. -/
def escaped (c : Char) : String :=
  if c = '"' then "\\\""
  else if c = '\\' then "\\\\"
  else if c = '\n' then "\\n"
  else if c = '\r' then "\\r"
  else if c = '\t' then "\\t"
  else if c = '\x08' then "\\b"
  else if c = '\x0c' then "\\f"
  else if c.toNat < 0x20 then
    "\\u00" ++ String.ofList [hexDigit (c.toNat / 16), hexDigit (c.toNat % 16)]
  else c.toString

def quoted (s : String) : String :=
  "\"" ++ String.join (s.toList.map escaped) ++ "\""

def Value.written : Value → String
  | .flag b => toString b
  | .count n => toString n
  | .rate x => x.text
  | .text s => quoted s

def Record.written (r : Record) : String :=
  "\x7b" ++ ",".intercalate (r.map fun (name, value) => quoted name ++ ":" ++ value.written) ++
    "\x7d"

end Json
end FileCache
