import FileCache.Bytes
import FileCache.Json.Flaw

/-!
Reading JSON from bytes, one byte after the other, with an account of the line and
the column of everything that is wrong.
-/

namespace FileCache
namespace Json

/-- What is left to read, the line at hand counted from 1, and the bytes read in
that line. -/
structure Cursor where
  rest : Bytes
  line : Nat
  column : Nat
deriving DecidableEq, Repr

namespace Cursor

def start (bytes : Bytes) : Cursor := { rest := bytes, line := 1, column := 0 }

def newline : UInt8 := 10

/-- Moves over one byte; at the end it stays. -/
def forward (c : Cursor) : Cursor :=
  match c.rest with
  | [] => c
  | b :: rest =>
    if b = newline then { rest, line := c.line + 1, column := 0 }
    else { rest, line := c.line, column := c.column + 1 }

/-- The bytes in front for which `p` holds, and the cursor after them. -/
def span (p : UInt8 → Bool) (line column : Nat) : Bytes → Bytes × Cursor
  | [] => ([], { rest := [], line, column })
  | b :: rest =>
    if p b then
      let (taken, c) :=
        if b = newline then span p (line + 1) 0 rest else span p line (column + 1) rest
      (b :: taken, c)
    else ([], { rest := b :: rest, line, column })

end Cursor

abbrev Reader := StateT Cursor (Except Failure)

namespace Reader

/-! ## Bytes -/

def failAt {α : Type} (flaw : Flaw) (c : Cursor) : Reader α :=
  throw { flaw, line := c.line, column := c.column }

/-- Fails behind the last byte that was read. -/
def fail {α : Type} (flaw : Flaw) : Reader α := do failAt flaw (← get)

/-- Fails behind the byte that comes next. -/
def failNext {α : Type} (flaw : Flaw) : Reader α := do failAt flaw (← get).forward

def peek : Reader (Option UInt8) := do return (← get).rest.head?

def skip : Reader Unit := modify Cursor.forward

def next : Reader (Option UInt8) := do
  let b ← peek
  skip
  return b

def takeWhile (p : UInt8 → Bool) : Reader Bytes := do
  let c ← get
  let (taken, c) := Cursor.span p c.line c.column c.rest
  set c
  return taken

def byte (c : Char) : UInt8 := c.toNat.toUInt8

def isBlank (b : UInt8) : Bool := b = 0x20 ∨ b = 0x0A ∨ b = 0x09 ∨ b = 0x0D

def isDigit (b : UInt8) : Bool := 0x30 ≤ b ∧ b ≤ 0x39

def digitValue (b : UInt8) : Nat := b.toNat - 0x30

def hexValue? (b : UInt8) : Option Nat :=
  if isDigit b then some (digitValue b)
  else if 0x41 ≤ b ∧ b ≤ 0x46 then some (b.toNat - 0x41 + 10)
  else if 0x61 ≤ b ∧ b ≤ 0x66 then some (b.toNat - 0x61 + 10)
  else none

/-- The first byte that is no blank, which is left to be read. -/
def peekPastBlanks : Reader (Option UInt8) := do
  let _ ← takeWhile isBlank
  peek

/-- Reads the rest of a word whose first letter told what it must be. -/
def word : List Char → Reader Unit
  | [] => pure ()
  | c :: rest => do
    match ← next with
    | none => fail .endOfValue
    | some b => if b = byte c then word rest else fail .expectedIdent

/-! ## Strings -/

/-- The four digits of an escape. -/
def hexEscape : Reader Nat := do
  let c ← get
  match c.rest with
  | x :: y :: z :: w :: _ =>
    set c.forward.forward.forward.forward
    match hexValue? x, hexValue? y, hexValue? z, hexValue? w with
    | some x, some y, some z, some w => return ((x * 16 + y) * 16 + z) * 16 + w
    | _, _, _, _ => fail .invalidEscape
  | _ =>
    let _ ← takeWhile fun _ => true
    fail .endOfString

def expectInPair (c : Char) : Reader Unit := do
  match ← next with
  | none => fail .endOfString
  | some b => if b = byte c then pure () else fail .endOfSurrogates

/-- The character of an escape in hexadecimal digits; one beyond the first plane
takes two such escapes. -/
def unicodeEscape : Reader Bytes := do
  let n ← hexEscape
  if 0xDC00 ≤ n ∧ n ≤ 0xDFFF then fail .loneSurrogate
  else if 0xD800 ≤ n ∧ n ≤ 0xDBFF then
    expectInPair '\\'
    expectInPair 'u'
    let m ← hexEscape
    if 0xDC00 ≤ m ∧ m ≤ 0xDFFF then
      let code := (n - 0xD800) * 0x400 + (m - 0xDC00) + 0x10000
      return Bytes.ofString (String.singleton (Char.ofNat code))
    else fail .loneSurrogate
  else return Bytes.ofString (String.singleton (Char.ofNat n))

/-- The byte that an escape of one letter stands for. -/
def simpleEscape? (b : UInt8) : Option UInt8 :=
  if b = byte '"' ∨ b = byte '\\' ∨ b = byte '/' then some b
  else if b = byte 'b' then some 0x08
  else if b = byte 'f' then some 0x0C
  else if b = byte 'n' then some 0x0A
  else if b = byte 'r' then some 0x0D
  else if b = byte 't' then some 0x09
  else none

/-- The bytes of an escape, read after its backslash.  Where the string is not
`kept`, the digits of an escape may stand for anything. -/
def escape (kept : Bool) : Reader Bytes := do
  match ← next with
  | none => fail .endOfString
  | some b =>
    match simpleEscape? b with
    | some s => return [s]
    | none =>
      if b = byte 'u' then
        if kept then unicodeEscape
        else
          let _ ← hexEscape
          return []
      else fail .invalidEscape

/-- The rest of a string, read after its opening quote; `done` holds the bytes
before in reverse. -/
def stringRest (kept : Bool) (fuel : Nat) (done : Bytes) : Reader Bytes :=
  match fuel with
  | 0 => fail .endOfString
  | fuel + 1 => do
    match ← peek with
    | none => fail .endOfString
    | some b =>
      if b = byte '"' then return done.reverse
      else if b = byte '\\' then
        skip
        let bytes ← escape kept
        stringRest kept fuel (bytes.reverse ++ done)
      else if b < 0x20 then
        if kept then skip
        fail .controlCharacter
      else
        skip
        stringRest kept fuel (b :: done)

def remaining : Reader Nat := do return (← get).rest.length

/-- The text of a string, read after its opening quote.  A fault of its UTF-8 is
placed as far before the end of the string as bytes follow the last good character;
an escape counts there as the bytes that it stands for. -/
def stringText : Reader String := do
  let bytes ← stringRest true ((← remaining) + 1) []
  skip
  match Bytes.text? bytes with
  | none =>
    let c ← get
    let bad := bytes.length - bytes.textLength
    failAt .invalidCodePoint { c with column := c.column - bad }
  | some s => return s

def skipString : Reader Unit := do
  let _ ← stringRest false ((← remaining) + 1) []
  skip

/-! ## Numbers -/

inductive Number
  | integer (n : Int)
  | fraction (negative : Bool) (x : Decimal.Binary64)

def Number.found : Number → Found
  | .integer n => .integer n
  | .fraction negative x => .fraction negative x

def maxSignificand : Nat := Nat.pow 2 64 - 1

def maxExponent : Nat := Nat.pow 2 31 - 1

/-- Appends digits to a number as long as it stays within `limit`; also gives the
digits that found no room. -/
def absorb (limit n : Nat) : Bytes → Nat × Bytes
  | [] => (n, [])
  | b :: rest =>
    let more := n * 10 + digitValue b
    if more ≤ limit then absorb limit more rest else (n, b :: rest)

def powerOfTen (n : Nat) : Decimal.Binary64 := Decimal.Binary64.ofNat (Nat.pow 10 n)

/-- The number `x * 10 ^ exponent`, rounded after every multiplication and division
by a power of ten up to the 308th.  None if it is too large. -/
def scaled? (fuel : Nat) (x : Decimal.Binary64) (exponent : Int) : Option Decimal.Binary64 :=
  if 0 ≤ exponent ∧ exponent ≤ 308 then
    let y := x.mul (powerOfTen exponent.toNat)
    if y.isFinite then some y else none
  else if -308 ≤ exponent ∧ exponent < 0 then some (x.div (powerOfTen (-exponent).toNat))
  else if x.mantissa = 0 then some x
  else if 0 ≤ exponent then none
  else
    match fuel with
    | 0 => some Decimal.Binary64.zero
    | fuel + 1 => scaled? fuel (x.div (powerOfTen 308)) (exponent + 308)

def fraction (negative : Bool) (significand : Nat) (exponent : Int) : Reader Number :=
  match scaled? 4 (Decimal.Binary64.ofNat significand) exponent with
  | some x => return .fraction negative x
  | none => fail .numberOutOfRange

/-- Reads an exponent, from its letter on.  One that makes the number too large is
wrong from its first digit without room on. -/
def exponentPart (negative : Bool) (significand : Nat) (start : Int) : Reader Number := do
  skip
  let sign ← peek
  if sign = some (byte '+') ∨ sign = some (byte '-') then skip
  let down := sign = some (byte '-')
  match ← next with
  | none => fail .endOfValue
  | some b =>
    if !isDigit b then fail .invalidNumber
    else
      let more ← takeWhile isDigit
      let (exponent, dropped) := absorb maxExponent 0 (b :: more)
      if dropped = [] then
        fraction negative significand (if down then start - exponent else start + exponent)
      else if significand ≠ 0 ∧ !down then
        let c ← get
        failAt .numberOutOfRange { c with column := c.column - (dropped.length - 1) }
      else return .fraction negative Decimal.Binary64.zero

def isExponentMark (b : Option UInt8) : Bool := b = some (byte 'e') ∨ b = some (byte 'E')

/-- Reads what may follow the fractional digits. -/
def afterDigits (negative : Bool) (significand : Nat) (exponent : Int) : Reader Number := do
  if isExponentMark (← peek) then exponentPart negative significand exponent
  else fraction negative significand exponent

/-- Reads the fractional digits, from the point on. -/
def decimalPart (negative : Bool) (significand : Nat) (exponent : Int) : Reader Number := do
  skip
  let digits ← takeWhile isDigit
  if digits = [] then
    match ← peek with
    | some _ => failNext .invalidNumber
    | none => fail .endOfValue
  else
    let (significand, dropped) := absorb maxSignificand significand digits
    afterDigits negative significand (exponent - (digits.length - dropped.length : Nat))

/-- A number, read after its sign. -/
def number (negative : Bool) : Reader Number := do
  match ← next with
  | none => fail .endOfValue
  | some b =>
    if !isDigit b then fail .invalidNumber
    else
      let afterZero := b = byte '0' && (← peek).any isDigit
      if afterZero then failNext .invalidNumber
      else
        let more ← takeWhile isDigit
        let (significand, dropped) := absorb maxSignificand 0 (b :: more)
        let follows ← peek
        if follows = some (byte '.') then decimalPart negative significand dropped.length
        else if isExponentMark follows then exponentPart negative significand dropped.length
        else if dropped ≠ [] then fraction negative significand dropped.length
        else if !negative then return .integer significand
        else if significand = 0 ∨ Nat.pow 2 63 < significand then fraction true significand 0
        else return .integer (-significand)

def skipExponent : Reader Unit := do
  skip
  let sign ← peek
  if sign = some (byte '+') ∨ sign = some (byte '-') then skip
  let first ← next
  if first.any isDigit then
    let _ ← takeWhile isDigit
    pure ()
  else fail .invalidNumber

def skipNumber : Reader Unit := do
  let first ← next
  if !first.any isDigit then fail .invalidNumber
  else
    if first = some (byte '0') then
      if (← peek).any isDigit then failNext .invalidNumber
    let _ ← takeWhile isDigit
    if (← peek) = some (byte '.') then
      skip
      let digits ← takeWhile isDigit
      if digits = [] then failNext .invalidNumber
    if isExponentMark (← peek) then skipExponent

/-! ## Values of no interest -/

inductive Bracket
  | list
  | object
deriving DecidableEq, Repr

def Bracket.closing : Bracket → UInt8
  | .list => byte ']'
  | .object => byte '}'

def Bracket.endFlaw : Bracket → Flaw
  | .list => .endOfList
  | .object => .endOfObject

def Bracket.commaFlaw : Bracket → Flaw
  | .list => .expectedCommaInList
  | .object => .expectedCommaInObject

/-- Skips a key and its colon. -/
def skipKey : Reader Unit := do
  match ← peekPastBlanks with
  | none => fail .endOfObject
  | some b =>
    if b ≠ byte '"' then failNext .keyNotString
    else
      skip
      skipString
      match ← peekPastBlanks with
      | none => fail .endOfObject
      | some b => if b = byte ':' then skip else failNext .expectedColon

/-- Skips a scalar value, or the opening bracket of a list or an object, which it
gives. -/
def skipFirst : Reader (Option Bracket) := do
  match ← peekPastBlanks with
  | none => fail .endOfValue
  | some b =>
    if b = byte 'n' then
      skip
      word "ull".toList
      return none
    else if b = byte 't' then
      skip
      word "rue".toList
      return none
    else if b = byte 'f' then
      skip
      word "alse".toList
      return none
    else if b = byte '-' then
      skip
      skipNumber
      return none
    else if isDigit b then
      skipNumber
      return none
    else if b = byte '"' then
      skip
      skipString
      return none
    else if b = byte '[' then
      skip
      return some .list
    else if b = byte '{' then
      skip
      return some .object
    else failNext .expectedValue

/-- Closes brackets as long as they close, up to the place where the next value is
due.  Gives the brackets that are open there; none are open when the whole value
has been read.  A comma is possible once a value has been read. -/
def closeBrackets (fuel : Nat) (afterValue : Bool) : List Bracket → Reader (List Bracket)
  | [] => return []
  | top :: below =>
    match fuel with
    | 0 => fail top.endFlaw
    | fuel + 1 => do
      match ← peekPastBlanks with
      | none => fail top.endFlaw
      | some b =>
        if b = top.closing then
          skip
          closeBrackets fuel true below
        else if afterValue then
          if b = byte ',' then
            skip
            return top :: below
          else failNext top.commaFlaw
        else return top :: below

/-- Skips a value inside the brackets `enclosing`. -/
def skipInside (fuel : Nat) (enclosing : List Bracket) : Reader Unit :=
  match fuel with
  | 0 => fail .endOfValue
  | fuel + 1 => do
    let brackets ←
      match ← skipFirst with
      | some bracket => closeBrackets ((← remaining) + 1) false (bracket :: enclosing)
      | none => closeBrackets ((← remaining) + 1) true enclosing
    match brackets with
    | [] => return ()
    | top :: _ =>
      if top = .object then skipKey
      skipInside fuel brackets

def skipValue : Reader Unit := do skipInside ((← remaining) + 1) []

/-! ## Values of the wrong type -/

/-- Reads a scalar value, or looks at an opening bracket, to complain that
something else was expected. -/
def complain {α : Type} (expected : String) : Reader α := do
  match ← peek with
  | none => failNext .expectedValue
  | some b =>
    if b = byte 'n' then
      skip
      word "ull".toList
      fail (.wrongType .null expected)
    else if b = byte 't' then
      skip
      word "rue".toList
      fail (.wrongType (.flag true) expected)
    else if b = byte 'f' then
      skip
      word "alse".toList
      fail (.wrongType (.flag false) expected)
    else if b = byte '-' then
      skip
      let n ← number true
      fail (.wrongType n.found expected)
    else if isDigit b then
      let n ← number false
      fail (.wrongType n.found expected)
    else if b = byte '"' then
      skip
      let s ← stringText
      fail (.wrongType (.text s) expected)
    else if b = byte '[' then fail (.wrongType .list expected)
    else if b = byte '{' then fail (.wrongType .object expected)
    else failNext .expectedValue

def flag : Reader Bool := do
  match ← peekPastBlanks with
  | none => fail .endOfValue
  | some b =>
    if b = byte 't' then
      skip
      word "rue".toList
      return true
    else if b = byte 'f' then
      skip
      word "alse".toList
      return false
    else complain "a boolean"

end Reader
end Json
end FileCache
