/-
Numbers in a fixed number of digits.
-/
namespace FileCache
namespace Text

/-- The decimal digits of `n`, with zeros in front up to `width` digits. -/
def padded (width n : Nat) : String :=
  let digits := toString n
  "".pushn '0' (width - digits.length) ++ digits

end Text
end FileCache
