import FileCache.Path
import Mathlib.Data.List.Basic

/-!
The pieces and components of paths, and what becomes of them when one path is put behind
another.

A plain name is one piece of a path that stands for itself.  Plain names with single slashes
between them are cut into the same names again (`pieces_joined`), and behind a directory, however
it is written, they come after its components (`components_below`).
-/

namespace FileCache

namespace Text

/-- Cutting is that of the library, on lists and on texts. -/
theorem splitOn_eq (c : Char) (s : List Char) : splitOn c s = s.splitOn c := by
  induction s with
  | nil => rw [List.splitOn_nil, splitOn]
  | cons d rest ih =>
    rw [List.splitOn_cons_eq_if_modifyHead, splitOn, ih]
    by_cases h : d = c
    · rw [if_pos h, if_pos (beq_iff_eq.mpr h)]
    · rw [if_neg h, if_neg fun e => h (beq_iff_eq.mp e)]
      cases hsplit : rest.splitOn c with
      | nil => exact absurd hsplit (List.splitOn_ne_nil c rest)
      | cons word words => rfl

theorem not_mem_of_mem_splitOn {c : Char} {s word : List Char} (h : word ∈ splitOn c s) :
    c ∉ word := by
  induction s generalizing word with
  | nil =>
    rw [splitOn, List.mem_singleton] at h
    rw [h]
    exact List.not_mem_nil
  | cons d rest ih =>
    rw [splitOn] at h
    split at h
    · rcases List.mem_cons.mp h with rfl | h
      · exact List.not_mem_nil
      · exact ih h
    · rename_i hne
      split at h
      · rw [List.mem_singleton.mp h, List.mem_singleton]
        exact fun e => hne e.symm
      · rename_i first others hsplit
        rcases List.mem_cons.mp h with rfl | h
        · have hfirst := ih (hsplit ▸ List.mem_cons_self)
          rw [List.mem_cons, not_or]
          exact ⟨fun e => hne e.symm, hfirst⟩
        · exact ih (hsplit ▸ List.mem_cons_of_mem first h)

/-- A separator cuts a text in two. -/
theorem splitOn_append (c : Char) (a b : List Char) :
    splitOn c (a ++ c :: b) = splitOn c a ++ splitOn c b := by
  rw [splitOn_eq, splitOn_eq, splitOn_eq, List.splitOn_append_cons_self]

end Text

namespace Path

/-! ## Components -/

/-- The component that a part of a path is. -/
def Component.ofPart (part : String) : Component := if part = ".." then .parent else .name part

theorem component?_of_part {piece : String} (h : ¬(piece = "" ∨ piece = ".")) :
    component? piece = some (.ofPart piece) := by
  rw [component?, if_neg h, Component.ofPart]
  split <;> rfl

theorem filterMap_component? (pieces : List String) :
    pieces.filterMap component? =
      (pieces.filter fun piece => piece ≠ "" ∧ piece ≠ ".").map Component.ofPart := by
  induction pieces with
  | nil => rfl
  | cons piece rest ih =>
    by_cases hblank : piece = "" ∨ piece = "."
    · rw [List.filterMap_cons, component?, if_pos hblank,
        List.filter_cons_of_neg (by simpa [Decidable.imp_iff_not_or] using hblank)]
      exact ih
    · rw [List.filterMap_cons, component?_of_part hblank,
        List.filter_cons_of_pos (by simpa using hblank), List.map_cons, ← ih]

/-- The components of a path are what leads it and, behind that, its parts. -/
theorem componentsOf_eq (raw : String) :
    componentsOf raw =
      lead (Text.pieces separator raw) ++ (partsOf raw).map Component.ofPart :=
  congrArg _ (filterMap_component? _)

/-! ## Paths with the same components -/

theorem same_iff {p q : Path} : p.same q = true ↔ p.components = q.components :=
  decide_eq_true_iff

theorem same_refl (p : Path) : p.same p = true := same_iff.mpr rfl

theorem same_symm {p q : Path} (h : p.same q = true) : q.same p = true :=
  same_iff.mpr (same_iff.mp h).symm

theorem same_trans {p q r : Path} (h : p.same q = true) (k : q.same r = true) :
    p.same r = true := same_iff.mpr ((same_iff.mp h).trans (same_iff.mp k))

theorem same_congr {p q : Path} (h : p.same q = true) (r : Path) : r.same p = r.same q := by
  rw [same, same, same_iff.mp h]

/-! ## Plain names -/

/-- A name that is one piece of a path and stands for itself. -/
structure Plain (s : String) : Prop where
  nonempty : s ≠ ""
  notHere : s ≠ "."
  notParent : s ≠ ".."
  whole : separator ∉ s.toList

theorem Plain.component? {s : String} (h : Plain s) : component? s = some (.name s) := by
  rw [Path.component?, if_neg (not_or.mpr ⟨h.nonempty, h.notHere⟩), if_neg h.notParent]

theorem Plain.relative {s : String} (h : Plain s) : s.toList.head? ≠ some separator :=
  fun hslash => h.whole (List.mem_of_head? hslash)

/-- Names with single slashes between them. -/
def joined (names : List String) : String := (String.singleton separator).intercalate names

/-- A path is its pieces with slashes between them. -/
theorem joined_pieces (text : String) : joined (Text.pieces separator text) = text := by
  apply String.toList_inj.mp
  rw [joined, String.toList_intercalate, String.toList_singleton, Text.pieces, List.map_map,
    Text.splitOn_eq]
  have hid : String.toList ∘ String.ofList = id := funext fun _ => String.toList_ofList
  rw [hid, List.map_id, List.intercalate_splitOn]

theorem pieces_joined {names : List String} (hnames : names ≠ [])
    (hplain : ∀ s ∈ names, Plain s) : Text.pieces separator (joined names) = names := by
  have hwhole : ∀ word ∈ names.map String.toList, separator ∉ word := by
    intro word hword
    obtain ⟨s, hs, rfl⟩ := List.mem_map.mp hword
    exact (hplain s hs).whole
  have hid : String.ofList ∘ String.toList = id := funext fun _ => String.ofList_toList
  rw [Text.pieces, joined, String.toList_intercalate, String.toList_singleton, Text.splitOn_eq,
    List.splitOn_intercalate separator hwhole fun h => hnames (List.map_eq_nil_iff.mp h),
    List.map_map, hid, List.map_id]

theorem pieces_append (a b : List Char) :
    (Text.splitOn separator (a ++ separator :: b)).map String.ofList =
      (Text.splitOn separator a).map String.ofList ++
        (Text.splitOn separator b).map String.ofList := by
  rw [Text.splitOn_append, List.map_append]

/-- A path starts with a slash if its first piece is blank and not the only one. -/
theorem slash_first_iff {text : String} :
    text.toList.head? = some separator ↔
      ∃ second rest, Text.pieces separator text = "" :: second :: rest := by
  constructor
  · intro h
    obtain ⟨tail, htail⟩ := List.head?_eq_some_iff.mp h
    obtain ⟨word, words, hsplit⟩ :=
      List.exists_cons_of_ne_nil (Text.splitOn_ne_nil separator tail)
    refine ⟨String.ofList word, words.map String.ofList, ?_⟩
    rw [Text.pieces, htail, Text.splitOn, if_pos rfl, hsplit]
    rfl
  · rintro ⟨second, rest, hpieces⟩
    have htext := joined_pieces text
    rw [hpieces, joined, String.intercalate_cons_cons] at htext
    rw [← htext, String.empty_append, String.toList_append, String.toList_singleton]
    rfl

theorem blank_of_slash_first {text : String} (h : text.toList.head? = some separator) :
    "" ∈ Text.pieces separator text := by
  obtain ⟨second, rest, hpieces⟩ := slash_first_iff.mp h
  rw [hpieces]
  exact List.mem_cons_self

theorem blank_of_slash_last {text : String} (h : text.toList.getLast? = some separator) :
    "" ∈ Text.pieces separator text := by
  obtain ⟨front, hfront⟩ := List.getLast?_eq_some_iff.mp h
  rw [Text.pieces, hfront, pieces_append]
  exact List.mem_append_right _ List.mem_cons_self

section Joined

variable {names : List String} (hnames : names ≠ []) (hplain : ∀ s ∈ names, Plain s)
include hnames hplain

theorem blank_not_mem_joined : "" ∉ Text.pieces separator (joined names) := by
  rw [pieces_joined hnames hplain]
  exact fun h => (hplain "" h).nonempty rfl

theorem joined_ne_empty : joined names ≠ "" :=
  fun h => blank_not_mem_joined hnames hplain (by rw [h]; exact List.mem_cons_self)

theorem joined_relative : (joined names).toList.head? ≠ some separator :=
  fun h => blank_not_mem_joined hnames hplain (blank_of_slash_first h)

theorem joined_open : (joined names).toList.getLast? ≠ some separator :=
  fun h => blank_not_mem_joined hnames hplain (blank_of_slash_last h)

end Joined

/-- One name put behind others. -/
theorem below_joined {front : List String} {s : String} (hfront : ∀ t ∈ front, Plain t)
    (hs : Plain s) : (below (joined front) s).text = joined (front ++ [s]) := by
  by_cases hempty : front = []
  · subst hempty
    rw [below, if_neg hs.relative]
    exact String.intercalate_singleton.symm
  · rw [below, if_neg hs.relative, if_neg (joined_ne_empty hempty hfront),
      if_neg (joined_open hempty hfront), joined, joined,
      String.intercalate_append_of_ne_nil hempty (List.cons_ne_nil s []),
      String.intercalate_singleton]

/-! ## Paths below the root -/

/-- The pieces of the root that stand before the names of a path below it. -/
def frontOf (root : String) : List String :=
  if root = "" then []
  else if root.toList.getLast? = some separator then
    (Text.splitOn separator root.toList.dropLast).map String.ofList
  else Text.pieces separator root

/-- The pieces of a path below the root: first those of the root, then the names. -/
theorem pieces_below (root : String) {names : List String} (hnames : names ≠ [])
    (hplain : ∀ s ∈ names, Plain s) :
    Text.pieces separator (below root (joined names)).text = frontOf root ++ names := by
  have hjoined := pieces_joined hnames hplain
  unfold below frontOf
  rw [if_neg (joined_relative hnames hplain)]
  by_cases hempty : root = ""
  · rw [if_pos hempty, if_pos hempty]
    exact hjoined
  · rw [Text.pieces] at hjoined
    by_cases hslash : root.toList.getLast? = some separator
    · obtain ⟨front, hfront⟩ := List.getLast?_eq_some_iff.mp hslash
      rw [if_neg hempty, if_neg hempty, if_pos hslash, if_pos hslash, Text.pieces,
        String.toList_append, hfront, List.dropLast_concat, List.append_assoc,
        List.singleton_append, pieces_append, hjoined]
    · rw [if_neg hempty, if_neg hempty, if_neg hslash, if_neg hslash, Text.pieces,
        String.toList_append, String.toList_append, String.toList_singleton, List.append_assoc,
        List.singleton_append, pieces_append, hjoined, Text.pieces]

/-- Names lead a path to nowhere but to the first of them. -/
theorem lead_plain {names : List String} (hplain : ∀ s ∈ names, Plain s) : lead names = [] := by
  unfold lead
  split
  · exact absurd rfl (hplain "" List.mem_cons_self).nonempty
  · exact absurd rfl (hplain "." List.mem_cons_self).notHere
  · rfl

/-- The pieces of the root are those before the names, up to a blank one at the end. -/
theorem pieces_root (root : String) : Text.pieces separator root = frontOf root ∨
    Text.pieces separator root = frontOf root ++ [""] := by
  unfold frontOf
  by_cases hempty : root = ""
  · rw [if_pos hempty, hempty]
    exact .inr rfl
  · by_cases hslash : root.toList.getLast? = some separator
    · obtain ⟨front, hfront⟩ := List.getLast?_eq_some_iff.mp hslash
      rw [if_neg hempty, if_pos hslash, Text.pieces, hfront, List.dropLast_concat,
        Text.splitOn_append, List.map_append]
      exact .inr rfl
    · rw [if_neg hempty, if_neg hslash]
      exact .inl rfl

theorem frontOf_ne_nil {root : String} (h : root ≠ "") : frontOf root ≠ [] := by
  rw [frontOf, if_neg h]
  split <;> exact fun hnil => Text.splitOn_ne_nil _ _ (List.map_eq_nil_iff.mp hnil)

/-- What leads a path is told by its first character and its first piece. -/
theorem lead_eq (text : String) :
    lead (Text.pieces separator text) =
      if text.toList.head? = some separator then [.root]
      else if (Text.pieces separator text).head? = some "." then [.here] else [] := by
  by_cases hslash : text.toList.head? = some separator
  · obtain ⟨second, rest, hpieces⟩ := slash_first_iff.mp hslash
    rw [if_pos hslash, hpieces, lead]
  · rw [if_neg hslash]
    unfold lead
    split
    · rename_i second rest hpieces
      exact absurd (slash_first_iff.mpr ⟨second, rest, hpieces⟩) hslash
    · rename_i rest hpieces
      rw [hpieces, List.head?_cons, if_pos rfl]
    · rename_i hother
      rw [if_neg]
      intro hfirst
      obtain ⟨rest, hpieces⟩ := List.head?_eq_some_iff.mp hfirst
      exact hother rest hpieces

/-- What leads a path below the root is what leads the root. -/
theorem lead_below (root : String) {names : List String} (hnames : names ≠ [])
    (hplain : ∀ s ∈ names, Plain s) :
    lead (Text.pieces separator (below root (joined names)).text) =
      lead (Text.pieces separator root) := by
  have hpieces := pieces_below root hnames hplain
  by_cases hempty : root = ""
  · rw [hpieces, hempty, frontOf, if_pos rfl, List.nil_append, lead_plain hplain]
    rfl
  · have hchar : (below root (joined names)).text.toList.head? = root.toList.head? := by
      have hchars : root.toList ≠ [] := fun h => hempty (String.toList_eq_nil_iff.mp h)
      rw [below, if_neg (joined_relative hnames hplain), if_neg hempty]
      split
      · rw [String.toList_append, List.head?_append_of_ne_nil _ hchars]
      · rw [String.append_assoc, String.toList_append, List.head?_append_of_ne_nil _ hchars]
    have hpiece : (Text.pieces separator (below root (joined names)).text).head? =
        (Text.pieces separator root).head? := by
      have hfront := frontOf_ne_nil hempty
      rw [hpieces, List.head?_append_of_ne_nil _ hfront]
      rcases pieces_root root with hroot | hroot
      · rw [hroot]
      · rw [hroot, List.head?_append_of_ne_nil _ hfront]
    rw [lead_eq, lead_eq, hchar, hpiece]

theorem filterMap_plain {names : List String} (hplain : ∀ s ∈ names, Plain s) :
    names.filterMap component? = names.map Component.name :=
  List.filterMap_eq_map_iff_forall_eq_some.mpr fun s hs => (hplain s hs).component?

/-- The components of a path below the root: first those of the root, then the names. -/
theorem components_below (root : String) {names : List String} (hnames : names ≠ [])
    (hplain : ∀ s ∈ names, Plain s) :
    (below root (joined names)).components = componentsOf root ++ names.map .name := by
  have hblank : (frontOf root).filterMap component? =
      (Text.pieces separator root).filterMap component? := by
    rcases pieces_root root with hroot | hroot
    · rw [hroot]
    · rw [hroot, List.filterMap_append]
      exact (List.append_nil _).symm
  rw [components, componentsOf, componentsOf, lead_below root hnames hplain,
    pieces_below root hnames hplain, List.filterMap_append, filterMap_plain hplain, hblank,
    List.append_assoc]

end Path
end FileCache
