import FileCache.Proofs.Path.Names

/-!
Which requests the server serves, and the paths under which it looks their files up.

Cleaning goes through the components of a request and puts one name behind the other.  What it
has made of the first parts is always these parts with single slashes between them
(`foldlM_advance?`), so it accepts exactly the safe requests and keeps nothing of them but their
parts (`clean?_eq`).

Two texts with the same components can lead to different places: a slash at the end of a
file's path is an error.  Among the paths that the server makes, each cleaned before it is
put below the root, the same components mean the same text.
-/

namespace FileCache
namespace Path

/-! ## Safe requests -/

/-- A request that stays below the directory and names something there: there is no slash in
front of it, none of its parts is a step to a parent, and it has a part. -/
structure Safe (raw : String) : Prop where
  relative : raw.toList.head? ≠ some separator
  confined : ".." ∉ partsOf raw
  named : partsOf raw ≠ []

instance (raw : String) : Decidable (Safe raw) :=
  decidable_of_iff
    (raw.toList.head? ≠ some separator ∧ ".." ∉ partsOf raw ∧ partsOf raw ≠ [])
    ⟨fun ⟨relative, confined, named⟩ => ⟨relative, confined, named⟩,
      fun h => ⟨h.relative, h.confined, h.named⟩⟩

theorem plain_of_part {raw part : String} (h : part ∈ partsOf raw) (hparent : part ≠ "..") :
    Plain part := by
  obtain ⟨hpiece, hkept⟩ := List.mem_filter.mp h
  obtain ⟨hempty, hhere⟩ := of_decide_eq_true hkept
  obtain ⟨word, hword, rfl⟩ := List.mem_map.mp hpiece
  refine ⟨hempty, hhere, hparent, ?_⟩
  rw [String.toList_ofList]
  exact Text.not_mem_of_mem_splitOn hword

theorem Safe.plain {raw : String} (h : Safe raw) : ∀ part ∈ partsOf raw, Plain part :=
  fun _ hpart => plain_of_part hpart fun heq => h.confined (heq ▸ hpart)

theorem partsOf_joined {names : List String} (hnames : names ≠ [])
    (hplain : ∀ s ∈ names, Plain s) : partsOf (joined names) = names := by
  rw [partsOf, pieces_joined hnames hplain, List.filter_eq_self]
  exact fun s hs => decide_eq_true ⟨(hplain s hs).nonempty, (hplain s hs).notHere⟩

theorem safe_joined {names : List String} (hnames : names ≠ [])
    (hplain : ∀ s ∈ names, Plain s) : Safe (joined names) := by
  have hparts := partsOf_joined hnames hplain
  constructor
  case relative => exact joined_relative hnames hplain
  case confined =>
    rw [hparts]
    exact fun h => (hplain ".." h).notParent rfl
  case named => exact fun h => hnames (hparts.symm.trans h)

/-! ## Cleaning -/

/-- One part more, behind names that are cleaned. -/
theorem advance?_joined {front : List String} {part : String} (hfront : ∀ s ∈ front, Plain s)
    (hpart : part ≠ ".." → Plain part) :
    advance? (joined front) (.ofPart part) =
      if part = ".." then none else some (joined (front ++ [part])) := by
  rw [Component.ofPart]
  split
  · rfl
  · rename_i hname
    exact congrArg some (below_joined hfront (hpart hname))

/-- Going on from some names through the parts of a request: either all of them are names,
and come behind the others, or one of them leads out. -/
theorem foldlM_advance? {front parts : List String} (hfront : ∀ s ∈ front, Plain s)
    (hparts : ∀ part ∈ parts, part ≠ ".." → Plain part) :
    (parts.map Component.ofPart).foldlM advance? (joined front) =
      if ".." ∈ parts then none else some (joined (front ++ parts)) := by
  induction parts generalizing front with
  | nil =>
    rw [if_neg List.not_mem_nil, List.append_nil]
    rfl
  | cons part rest ih =>
    have hpart := hparts part List.mem_cons_self
    rw [List.map_cons, List.foldlM_cons, advance?_joined hfront hpart]
    by_cases hparent : part = ".."
    · rw [if_pos hparent, if_pos (hparent ▸ List.mem_cons_self)]
      rfl
    · have hall : ∀ s ∈ front ++ [part], Plain s := by
        intro s hs
        rcases List.mem_append.mp hs with hs | hs
        · exact hfront s hs
        · exact List.mem_singleton.mp hs ▸ hpart hparent
      have hrest := ih hall fun s hs => hparts s (List.mem_cons_of_mem part hs)
      rw [if_neg hparent]
      refine hrest.trans ?_
      rw [List.append_assoc, List.singleton_append]
      simp only [List.mem_cons, Ne.symm hparent, false_or]

/-- Cleaning accepts exactly the safe requests, and leaves their parts with single slashes
between them. -/
theorem clean?_eq (raw : String) :
    clean? raw = if Safe raw then some (joined (partsOf raw)) else none := by
  rw [clean?, componentsOf_eq]
  by_cases hslash : raw.toList.head? = some separator
  · rw [lead_eq, if_pos hslash, if_neg fun h : Safe raw => h.relative hslash]
    rfl
  · have hstart : (lead (Text.pieces separator raw)).foldlM advance? "" = some (joined []) := by
      rw [lead_eq, if_neg hslash]
      split <;> rfl
    rw [List.foldlM_append, hstart]
    show Option.filter _ (((partsOf raw).map Component.ofPart).foldlM advance? (joined [])) = _
    rw [foldlM_advance? (fun _ h => absurd h List.not_mem_nil) fun _ => plain_of_part,
      List.nil_append]
    by_cases hparent : ".." ∈ partsOf raw
    · rw [if_pos hparent, if_neg fun h : Safe raw => h.confined hparent, Option.filter_none]
    · rw [if_neg hparent]
      by_cases hnamed : partsOf raw = []
      · rw [hnamed, if_neg fun h : Safe raw => h.named hnamed]
        rfl
      · have hsafe : Safe raw := ⟨hslash, hparent, hnamed⟩
        rw [if_pos hsafe]
        exact Option.filter_some_pos (decide_eq_true (joined_ne_empty hnamed hsafe.plain))

-- A step to a parent is refused also where it would stay below the directory.
example : clean? "css/../site.css" = none := by decide +kernel

theorem clean?_eq_some_iff {raw name : String} :
    clean? raw = some name ↔ Safe raw ∧ name = joined (partsOf raw) := by
  rw [clean?_eq]
  split
  · rename_i hsafe
    rw [Option.some.injEq]
    exact ⟨fun h => ⟨hsafe, h.symm⟩, fun h => h.2.symm⟩
  · rename_i hsafe
    exact ⟨nofun, fun h => absurd h.1 hsafe⟩

/-- Names with single slashes between them are clean. -/
theorem clean?_joined {names : List String} (hnames : names ≠ [])
    (hplain : ∀ s ∈ names, Plain s) : clean? (joined names) = some (joined names) := by
  rw [clean?_eq, if_pos (safe_joined hnames hplain), partsOf_joined hnames hplain]

theorem componentsOf_joined {names : List String} (hnames : names ≠ [])
    (hplain : ∀ s ∈ names, Plain s) : componentsOf (joined names) = names.map .name := by
  rw [componentsOf, pieces_joined hnames hplain, lead_plain hplain, filterMap_plain hplain,
    List.nil_append]

/-- Cleaning accepts exactly the safe requests, and what it gives for a request is its parts
with single slashes between them.  This is clean itself; it is the same for two requests, as a
text and as a path, exactly when their parts are the same; and behind a directory, however that
is written, it leads on by these parts and nothing else. -/
theorem cleaning_normalizes (raw : String) :
    ((∃ name, clean? raw = some name) ↔ Safe raw) ∧
      ∀ name, clean? raw = some name →
        name = "/".intercalate (partsOf raw) ∧
          clean? name = some name ∧
          (∀ other cleaned, clean? other = some cleaned →
            (name = cleaned ↔ partsOf raw = partsOf other) ∧
              (same ⟨name⟩ ⟨cleaned⟩ = true ↔ partsOf raw = partsOf other)) ∧
          ∀ root,
            (below root name).components = componentsOf root ++ (partsOf raw).map .name := by
  constructor
  · constructor
    · rintro ⟨name, hclean⟩
      exact (clean?_eq_some_iff.mp hclean).1
    · exact fun hsafe => ⟨_, clean?_eq_some_iff.mpr ⟨hsafe, rfl⟩⟩
  · intro name hclean
    obtain ⟨hsafe, rfl⟩ := clean?_eq_some_iff.mp hclean
    refine ⟨rfl, clean?_joined hsafe.named hsafe.plain, ?_,
      fun root => components_below root hsafe.named hsafe.plain⟩
    intro other cleaned hother
    obtain ⟨hsafe', rfl⟩ := clean?_eq_some_iff.mp hother
    constructor
    · refine ⟨fun htext => ?_, fun hparts => hparts ▸ rfl⟩
      rw [← partsOf_joined hsafe.named hsafe.plain, htext,
        partsOf_joined hsafe'.named hsafe'.plain]
    · rw [same_iff, components, components, componentsOf_joined hsafe.named hsafe.plain,
        componentsOf_joined hsafe'.named hsafe'.plain]
      exact List.map_inj_right fun _ _ => Component.name.inj

theorem cleaning_normalizes_cluttered :
    Safe "./css//./site.css/" ∧ clean? "./css//./site.css/" = some "css/site.css" ∧
      clean? "css/.//site.css" = some "css/site.css" ∧
      partsOf "./css//./site.css/" = partsOf "css/.//site.css" ∧
      (below "/srv/www/" "css/site.css").components =
        [.root, .name "srv", .name "www", .name "css", .name "site.css"] := by
  have hclean : clean? "./css//./site.css/" = some "css/site.css" := by decide +kernel
  have hother : clean? "css/.//site.css" = some "css/site.css" := by decide +kernel
  obtain ⟨hsafe, hnormal⟩ := cleaning_normalizes "./css//./site.css/"
  obtain ⟨-, -, hsame, hbelow⟩ := hnormal _ hclean
  exact ⟨hsafe.mp ⟨_, hclean⟩, hclean, hother, (hsame _ _ hother).1.mp rfl,
    (hbelow "/srv/www/").trans (by decide +kernel)⟩

/-! ## Served paths -/

/-- A path that the server looks up: a cleaned name below its root. -/
def Served (root : String) (p : Path) : Prop :=
  ∃ raw name, clean? raw = some name ∧ p = below root name

/-- A path that the server looks up is the root with names behind it. -/
theorem Served.names {root : String} {p : Path} (h : Served root p) :
    ∃ names, names ≠ [] ∧ (∀ s ∈ names, Plain s) ∧ p = below root (joined names) := by
  obtain ⟨raw, name, hclean, rfl⟩ := h
  obtain ⟨hsafe, rfl⟩ := clean?_eq_some_iff.mp hclean
  exact ⟨partsOf raw, hsafe.named, hsafe.plain, rfl⟩

/-- Among the paths that the server looks up, the same components mean the same text. -/
theorem Served.eq_of_same {root : String} {p q : Path} (hp : Served root p)
    (hq : Served root q) (h : p.same q = true) : p = q := by
  obtain ⟨names, hnames, hplain, rfl⟩ := hp.names
  obtain ⟨others, hothers, hplain', rfl⟩ := hq.names
  have hsame := same_iff.mp h
  rw [components_below root hnames hplain, components_below root hothers hplain'] at hsame
  have heq : names = others :=
    (List.map_inj_right fun a b hab => Component.name.inj hab).mp (List.append_cancel_left hsame)
  rw [heq]

end Path
end FileCache
