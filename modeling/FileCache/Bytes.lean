/-
Byte strings as lists, their reading as text, and how far that reading goes.
-/
namespace FileCache

abbrev Bytes := List UInt8

namespace Bytes

def ofString (s : String) : Bytes :=
  s.toUTF8.toList

/-- The text that the bytes spell in UTF-8, if they spell one. -/
def text? (b : Bytes) : Option String :=
  String.fromUTF8? ⟨b.toArray⟩

/-- A range of bytes, both ends included. -/
abbrev Span := UInt8 × UInt8

def Span.has (s : Span) (b : UInt8) : Bool := s.1 ≤ b ∧ b ≤ s.2

/-- What every byte of a character has to be, from the third one on. -/
def continuation : Span := (0x80, 0xBF)

/-- What is pending after the first byte of a character; none if no character begins
with it.  The narrower spans keep out spellings that are too long, surrogates, and
code points behind the last one. -/
def following? (b : UInt8) : Option (List Span) :=
  if b ≤ 0x7F then some []
  else if Span.has (0xC2, 0xDF) b then some [continuation]
  else if b = 0xE0 then some [(0xA0, 0xBF), continuation]
  else if b = 0xED then some [(0x80, 0x9F), continuation]
  else if Span.has (0xE1, 0xEF) b then some [continuation, continuation]
  else if b = 0xF0 then some [(0x90, 0xBF), continuation, continuation]
  else if Span.has (0xF1, 0xF3) b then some [continuation, continuation, continuation]
  else if b = 0xF4 then some [(0x80, 0x8F), continuation, continuation]
  else none

/-- What is pending after the next byte of a text in UTF-8; none if the byte cannot
stand there.  Between two characters nothing is pending. -/
def advance? (pending : List Span) (b : UInt8) : Option (List Span) :=
  match pending with
  | [] => following? b
  | s :: rest => if s.has b then some rest else none

/-- The length up to the end of the last whole character, where `seen` bytes have
been read and `whole` of them up to the end of a character. -/
def wholeLength (pending : List Span) (whole seen : Nat) : Bytes → Nat
  | [] => whole
  | b :: rest =>
    match advance? pending b with
    | none => whole
    | some [] => wholeLength [] (seen + 1) (seen + 1) rest
    | some pending => wholeLength pending whole (seen + 1) rest

/-- The length of the longest beginning that is text. -/
def textLength (b : Bytes) : Nat := wholeLength [] 0 0 b

end Bytes
end FileCache
