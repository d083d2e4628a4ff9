/-
Nonnegative numbers of the 64-bit binary format, with rounding to the nearest
and ties to the even mantissa.
-/
namespace FileCache
namespace Decimal

/-- The number `mantissa * 2 ^ exponent`.  The mantissa has at most 53 bits, and
fewer than 53 only at the least exponent. -/
structure Binary64 where
  mantissa : Nat
  exponent : Int
deriving DecidableEq, Repr

/-- The integer nearest to `num / den`; a tie goes to the even one. -/
def roundHalfEven (num den : Nat) : Nat :=
  let below := num / den
  let twice := 2 * (num % den)
  if twice < den then below
  else if den < twice then below + 1
  else if below % 2 = 0 then below
  else below + 1

/-- A numerator and a denominator of `num / den / 2 ^ e`. -/
def unscale (num den : Nat) (e : Int) : Nat × Nat :=
  if 0 ≤ e then (num, den * Nat.pow 2 e.toNat) else (num * Nat.pow 2 (-e).toNat, den)

namespace Binary64

def minExponent : Int := -1074

def zero : Binary64 := { mantissa := 0, exponent := minExponent }

/-- The greatest `e` with `2 ^ e ≤ num / den`. -/
def magnitude (num den : Nat) : Int :=
  let guess : Int := (num.log2 : Int) - den.log2
  let (n, d) := unscale num den guess
  if n < d then guess - 1 else guess

/-- The number nearest to `num / den`. -/
def ofRatio (num den : Nat) : Binary64 :=
  if num = 0 then zero
  else
    let e := max (magnitude num den - 52) minExponent
    let (n, d) := unscale num den e
    let m := roundHalfEven n d
    if m = Nat.pow 2 53 then { mantissa := Nat.pow 2 52, exponent := e + 1 }
    else { mantissa := m, exponent := e }

def ofNat (n : Nat) : Binary64 := ofRatio n 1

def numerator (x : Binary64) : Nat := x.mantissa * Nat.pow 2 x.exponent.toNat

def denominator (x : Binary64) : Nat := Nat.pow 2 (-x.exponent).toNat

def mul (x y : Binary64) : Binary64 :=
  ofRatio (x.numerator * y.numerator) (x.denominator * y.denominator)

def div (x y : Binary64) : Binary64 :=
  ofRatio (x.numerator * y.denominator) (x.denominator * y.numerator)

/-- Larger numbers have no representation. -/
def isFinite (x : Binary64) : Bool := x.exponent ≤ 971

/-- The 64 bits of the number. -/
def bits (x : Binary64) : Nat :=
  if x.mantissa < Nat.pow 2 52 then x.mantissa
  else (x.exponent + 1075).toNat * Nat.pow 2 52 + (x.mantissa - Nat.pow 2 52)

end Binary64
end Decimal
end FileCache
