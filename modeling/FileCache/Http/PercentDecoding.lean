import FileCache.Bytes

/-!
The bytes that a percent-encoded part of a request target stands for.
-/

namespace FileCache
namespace Http

def percentSign : UInt8 := 0x25

def hexDigit? (b : UInt8) : Option UInt8 :=
  if 0x30 ≤ b ∧ b ≤ 0x39 then some (b - 0x30)
  else if 0x41 ≤ b ∧ b ≤ 0x46 then some (b - 0x41 + 10)
  else if 0x61 ≤ b ∧ b ≤ 0x66 then some (b - 0x61 + 10)
  else none

/-- A percent sign and two hexadecimal digits stand for one byte; any other
percent sign stands for itself. -/
def percentDecode : Bytes → Bytes
  | [] => []
  | [b] => [b]
  | [b, c] => [b, c]
  | b :: hi :: lo :: rest =>
    match hexDigit? hi, hexDigit? lo with
    | some x, some y =>
      if b = percentSign then (x * 16 + y) :: percentDecode rest
      else b :: percentDecode (hi :: lo :: rest)
    | _, _ => b :: percentDecode (hi :: lo :: rest)

end Http
end FileCache
