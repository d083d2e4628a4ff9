import FileCache.Text.Split

/-!
Paths as texts, their components, and the part of a request that may name a
served file.
-/

namespace FileCache

/-- A file's path from the root of the tree, kept as it was written. -/
structure Path where
  text : String
deriving DecidableEq, Repr

namespace Path

/-- What a path is made of: a slash in front, a dot in front, steps to a parent,
and names.  Repeated slashes, a slash at the end and any later dot leave no
trace. -/
inductive Component
  | root
  | here
  | parent
  | name (s : String)
deriving DecidableEq, Repr

def separator : Char := '/'

def component? (piece : String) : Option Component :=
  if piece = "" ∨ piece = "." then none
  else if piece = ".." then some .parent
  else some (.name piece)

def lead : List String → List Component
  | "" :: _ :: _ => [.root]
  | "." :: _ => [.here]
  | _ => []

def componentsOf (text : String) : List Component :=
  let pieces := Text.pieces separator text
  lead pieces ++ pieces.filterMap component?

def components (p : Path) : List Component := componentsOf p.text

/-- Two texts name the same entry when their components agree. -/
def same (p q : Path) : Bool := p.components = q.components

/-- The pieces of a path that are neither empty nor a dot. -/
def partsOf (text : String) : List String :=
  (Text.pieces separator text).filter fun piece => piece ≠ "" ∧ piece ≠ "."

def parts (p : Path) : List String := partsOf p.text

/-- The path `path` put behind the directory `base`.  One with a slash in front stands for
itself; any other follows `base`, with a slash between the two unless `base` is empty or
ends in one. -/
def below (base path : String) : Path :=
  { text :=
      if path.toList.head? = some separator then path
      else if base = "" then path
      else if base.toList.getLast? = some separator then base ++ path
      else base ++ String.singleton separator ++ path }

/-- One component more of a cleaned path.  None for a slash in front and for a step to a
parent, which lead out of the directory. -/
def advance? (clean : String) : Component → Option String
  | .name s => some (below clean s).text
  | .here => some clean
  | .root => none
  | .parent => none

/-- The cleaned form of a requested path: its names, each put behind those before it.  None
if the request leaves the directory or names nothing in it. -/
def clean? (raw : String) : Option String :=
  ((componentsOf raw).foldlM advance? "").filter fun clean => clean ≠ ""

/-- What follows the last dot of the last name, unless that dot comes first. -/
def extension? (text : String) : Option String :=
  match (componentsOf text).getLast? with
  | some (.name s) =>
    match Text.splitOn '.' s.toList with
    | [] => none
    | [_] => none
    | [[], _] => none
    | stretches => stretches.getLast?.map String.ofList
  | _ => none

end Path
end FileCache
