/-
Text without regard to case, as far as that leads to letters of ASCII.
-/
namespace FileCache
namespace Text

/-- The characters outside ASCII that differ by case alone from letters of ASCII:
the long s, the sign for kelvin, the two sharp s, and the joined letters. -/
def asciiFoldings : List (Char × String) :=
  [('\u017F', "s"), ('\u212A', "k"), ('\u00DF', "ss"), ('\u1E9E', "ss"), ('\uFB00', "ff"),
   ('\uFB01', "fi"), ('\uFB02', "fl"), ('\uFB03', "ffi"), ('\uFB04', "ffl"), ('\uFB05', "st"),
   ('\uFB06', "st")]

def foldedChar (c : Char) : String :=
  (asciiFoldings.lookup c).getD (String.singleton c.toLower)

/-- Two texts, one of them in ASCII, are equal without regard to case when their
folded forms are equal. -/
def folded (s : String) : String := String.join (s.toList.map foldedChar)

end Text
end FileCache
