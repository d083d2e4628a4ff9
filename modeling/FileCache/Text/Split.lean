/-
Cutting a text at every occurrence of a separator.
-/
namespace FileCache
namespace Text

/-- The stretches between the separators, in order; there is always one more of
them than there are separators. -/
def splitOn (separator : Char) : List Char → List (List Char)
  | [] => [[]]
  | c :: rest =>
    if c = separator then [] :: splitOn separator rest
    else
      match splitOn separator rest with
      | [] => [[c]]
      | word :: words => (c :: word) :: words

theorem splitOn_ne_nil (separator : Char) (s : List Char) : splitOn separator s ≠ [] := by
  cases s with
  | nil => simp [splitOn]
  | cons c rest =>
    rw [splitOn]
    split
    · simp
    · split <;> simp

/-- The stretches of a text, as texts. -/
def pieces (separator : Char) (s : String) : List String :=
  (splitOn separator s.toList).map String.ofList

end Text
end FileCache
