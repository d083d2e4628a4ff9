import FileCache.Decimal.Binary64

/-!
The shortest decimal that reads back as a given number, and its written form.
-/

namespace FileCache
namespace Decimal

/-- The number `digits * 10 ^ exponent`. -/
structure Scaled where
  digits : Nat
  exponent : Int
deriving DecidableEq, Repr

def digitCount (n : Nat) : Nat := (Nat.toDigits 10 n).length

/-- The greatest `e` with `10 ^ e ≤ num / den`. -/
def decimalMagnitude (num den : Nat) : Int :=
  let guess : Int := (digitCount num : Int) - digitCount den
  let reached :=
    if 0 ≤ guess then den * Nat.pow 10 guess.toNat ≤ num
    else den ≤ num * Nat.pow 10 (-guess).toNat
  if reached then guess else guess - 1

namespace Binary64

/-- Four times the mantissa, so that the ends of the rounding interval are
whole as well. -/
def quarters (x : Binary64) : Nat := 4 * x.mantissa

/-- The lower end of the interval that rounds to `x`, in quarters.  Below a
power of two the neighbours lie twice as close. -/
def lowerQuarters (x : Binary64) : Nat :=
  if x.mantissa = Nat.pow 2 52 ∧ minExponent < x.exponent then x.quarters - 1 else x.quarters - 2

def upperQuarters (x : Binary64) : Nat := x.quarters + 2

/-- Whether `c * 10 ^ k` rounds to `x`.  The ends belong to the interval when the
mantissa is even. -/
def admits (x : Binary64) (c : Nat) (k : Int) : Bool :=
  let e := x.exponent - 2
  let point := c * Nat.pow 10 k.toNat * Nat.pow 2 (-e).toNat
  let unit := Nat.pow 2 e.toNat * Nat.pow 10 (-k).toNat
  if x.mantissa % 2 = 0 then
    x.lowerQuarters * unit ≤ point ∧ point ≤ x.upperQuarters * unit
  else
    x.lowerQuarters * unit < point ∧ point < x.upperQuarters * unit

/-- The point of the grid of step `10 ^ k` that reads back as `x` and lies
nearest to it; a tie goes to the even digit. -/
def nearestOnGrid? (x : Binary64) (k : Int) : Option Scaled :=
  let num := x.numerator * Nat.pow 10 (-k).toNat
  let den := x.denominator * Nat.pow 10 k.toNat
  let below := num / den
  let nearest := roundHalfEven num den
  let other := if nearest = below then below + 1 else below
  if x.admits nearest k then some { digits := nearest, exponent := k }
  else if x.admits other k then some { digits := other, exponent := k }
  else none

/-- Seventeen digits always suffice. -/
def shortest (x : Binary64) : Scaled :=
  let top := decimalMagnitude x.numerator x.denominator
  ((List.range 17).findSome? fun (n : Nat) => x.nearestOnGrid? (top - n)).getD
    { digits := x.numerator, exponent := 0 }

end Binary64

/-- The digits without the zeros at their end, and the exponent to match. -/
def Scaled.trimmed (s : Scaled) : String × Int :=
  let digits := Nat.toDigits 10 s.digits
  let kept := (digits.reverse.dropWhile (· = '0')).reverse
  (String.ofList kept, s.exponent + (digits.length - kept.length : Nat))

/-- The exponent always carries its sign. -/
def exponentText (exponent : Int) : String :=
  (if 0 ≤ exponent then "e+" else "e") ++ toString exponent

/-- Positional from `1e-5` up to below `1e16` and always with a point; with an
exponent otherwise. -/
def Binary64.text (x : Binary64) : String :=
  if x.mantissa = 0 then "0.0"
  else
    let (digits, exponent) := x.shortest.trimmed
    let length : Int := digits.length
    let point := length + exponent
    if 0 ≤ exponent ∧ point ≤ 16 then digits.pushn '0' exponent.toNat ++ ".0"
    else if 0 < point ∧ point ≤ 16 then
      (digits.take point.toNat).toString ++ "." ++ (digits.drop point.toNat).toString
    else if -5 < point ∧ point ≤ 0 then "0.".pushn '0' (-point).toNat ++ digits
    else if digits.length = 1 then digits ++ exponentText (point - 1)
    else
      (digits.take 1).toString ++ "." ++ (digits.drop 1).toString ++ exponentText (point - 1)

end Decimal
end FileCache
