/-
# The way up from a location

The absolute path of a location is the row of its names with a slash in front of each.  On such a
path, working on the text and working on the names come to the same: the parent of the path is
the path of the location without its last name, a name is joined to the path by a slash, and the
steps along the path are the names.  So the way up from the path passes the beginnings of the row
of names, the longest first, and ends at the root (`ancestors_absolutePath`).

All this needs that the names are names: with an empty name, a point or a slash among them, the
text would say something else.
-/
import FindingsDigest.FileTree
import Mathlib.Data.List.Infix
import Mathlib.Data.List.Induction

namespace FindingsDigest

open FileTree (absolutePath steps origin)

/-- Whether a text can be the name of an entry. -/
structure IsName (name : String) : Prop where
  ne_empty : name ≠ ""
  ne_point : name ≠ "."
  ne_doublePoint : name ≠ ".."
  slash_not_mem : '/' ∉ name.toList
  nul_not_mem : '\x00' ∉ name.toList
  size_le : name.utf8ByteSize ≤ FileTree.longestName

instance (name : String) : Decidable (IsName name) :=
  decidable_of_iff (name ≠ "" ∧ name ≠ "." ∧ name ≠ ".." ∧ '/' ∉ name.toList ∧
      '\x00' ∉ name.toList ∧ name.utf8ByteSize ≤ FileTree.longestName)
    ⟨fun ⟨h₁, h₂, h₃, h₄, h₅, h₆⟩ => ⟨h₁, h₂, h₃, h₄, h₅, h₆⟩,
      fun ⟨h₁, h₂, h₃, h₄, h₅, h₆⟩ => ⟨h₁, h₂, h₃, h₄, h₅, h₆⟩⟩

/-- Whether a location is a row of names. -/
def Location.IsProper (l : Location) : Prop :=
  ∀ name ∈ l, IsName name

instance (l : Location) : Decidable l.IsProper :=
  inferInstanceAs (Decidable (∀ name ∈ l, IsName name))

namespace IsName

variable {name : String}

lemma toList_ne_nil (h : IsName name) : name.toList ≠ [] := by
  simpa using h.ne_empty

lemma not_isIdle (h : IsName name) : Path.isIdle name.toList = false := by
  have hpoint : name.toList ≠ ['.'] := fun hp => h.ne_point (String.toList_inj.mp hp)
  simp [Path.isIdle, h.ne_empty, hpoint]

end IsName

/-- A location and all locations above it, the nearest first. -/
def Location.upward (l : Location) : List Location :=
  l.inits.reverse

lemma Location.mem_upward {l up : Location} : up ∈ l.upward ↔ up <+: l := by
  simp [upward]

lemma Location.upward_concat (l : Location) (name : String) :
    upward (l ++ [name]) = (l ++ [name]) :: upward l := by
  simp [upward, List.inits_append]

/-- The way up begins at the location itself. -/
lemma Location.exists_upward_eq_cons (l : Location) : ∃ above, l.upward = l :: above := by
  cases l using List.reverseRecOn with
  | nil => exact ⟨[], rfl⟩
  | append_singleton l name => exact ⟨upward l, upward_concat l name⟩

namespace Location.IsProper

variable {l m : Location} {name : String}

@[simp]
lemma nil : IsProper [] := by
  simp [IsProper]

@[simp]
lemma append_iff : IsProper (l ++ m) ↔ IsProper l ∧ IsProper m := by
  simp [IsProper, or_imp, forall_and]

@[simp]
lemma singleton_iff : IsProper [name] ↔ IsName name := by
  simp [IsProper]

lemma of_prefix (h : l.IsProper) (hm : m <+: l) : m.IsProper :=
  fun name hname => h name (hm.subset hname)

end Location.IsProper

lemma toList_absolutePath (l : Location) :
    (absolutePath l).toList = '/' :: ['/'].intercalate (l.map String.toList) := by
  simp [absolutePath, String.toList_append, String.toList_intercalate]

lemma toList_absolutePath_of_ne_nil {l : Location} (h : l ≠ []) :
    (absolutePath l).toList = l.flatMap fun name => '/' :: name.toList := by
  rw [toList_absolutePath]
  induction l with
  | nil => exact absurd rfl h
  | cons name rest ih =>
    cases rest with
    | nil => simp
    | cons next rest =>
      have ih := ih (by simp)
      rw [List.map_cons] at ih ⊢
      rw [List.map_cons, List.intercalate_cons_cons, List.flatMap_cons, ← ih]
      simp

/-- The path of a row of names does not end with a slash. -/
lemma getLast?_absolutePath_ne {l : Location} (h : l.IsProper) (hne : l ≠ []) :
    (absolutePath l).toList.getLast? ≠ some '/' := by
  cases l using List.reverseRecOn with
  | nil => exact absurd rfl hne
  | append_singleton l name =>
    have hname : IsName name := h name (by simp)
    have hslash : name.toList.getLast? ≠ some '/' :=
      fun hlast => hname.slash_not_mem (List.mem_of_getLast? hlast)
    have hchars : (absolutePath (l ++ [name])).toList =
        l.flatMap (fun name => '/' :: name.toList) ++ '/' :: name.toList := by
      rw [toList_absolutePath_of_ne_nil hne, List.flatMap_append, List.flatMap_singleton]
    rw [hchars, List.getLast?_append, List.getLast?_cons_of_ne_nil hname.toList_ne_nil]
    simp [hslash, hname.ne_empty]

namespace Path

variable {l : Location}

lemma splitOn_intercalate_toList (h : l.IsProper) (hne : l ≠ []) :
    (['/'].intercalate (l.map String.toList)).splitOn '/' = l.map String.toList := by
  refine List.splitOn_intercalate '/' (fun chars hchars => ?_) (by simpa using hne)
  obtain ⟨name, hname, rfl⟩ := List.mem_map.mp hchars
  exact (h name hname).slash_not_mem

/-- Every name says something. -/
lemma tellingNames_of_isProper (h : l.IsProper) :
    tellingNames (l.map String.toList).reverse = (l.map String.toList).reverse := by
  cases l using List.reverseRecOn with
  | nil => rfl
  | append_singleton l name =>
    have hname : IsName name := h name (by simp)
    simp [tellingNames, hname.not_isIdle]

/-- The parent of a path is the path of the location above. -/
lemma parent?_absolutePath {name : String} (h : Location.IsProper (l ++ [name])) :
    parent? (absolutePath (l ++ [name])) = some (absolutePath l) := by
  have hsplit := splitOn_intercalate_toList h (by simp)
  have hall := tellingNames_of_isProper h
  have houter := tellingNames_of_isProper (Location.IsProper.append_iff.mp h).1
  rw [List.map_append, List.map_singleton] at hsplit hall
  rw [List.reverse_append, List.reverse_singleton, List.singleton_append] at hall
  have hchars : parentChars? (absolutePath (l ++ [name])).toList =
      some (absolutePath l).toList := by
    rw [toList_absolutePath, toList_absolutePath, List.map_append, List.map_singleton,
      parentChars?, splitStart]
    simp only [hsplit, List.reverse_append, List.reverse_singleton, List.singleton_append, hall,
      houter, List.reverse_reverse]
  rw [parent?, hchars, Option.map_some, String.ofList_toList]

lemma ancestors_of_parent?_eq_none {path : String} (h : parent? path = none) :
    ancestors path = [path] := by
  rw [ancestors]
  split
  · rfl
  · next hparent => simp [h] at hparent

lemma ancestors_of_parent?_eq_some {path parent : String} (h : parent? path = some parent) :
    ancestors path = path :: ancestors parent := by
  rw [ancestors]
  split
  · next hparent => simp [h] at hparent
  · next hparent => rw [Option.some.inj (h.symm.trans hparent)]

/-- The way up from a location passes all beginnings of its row of names. -/
lemma ancestors_absolutePath (h : l.IsProper) :
    ancestors (absolutePath l) = l.upward.map absolutePath := by
  induction l using List.reverseRecOn with
  | nil => exact ancestors_of_parent?_eq_none (by decide)
  | append_singleton l name ih =>
    rw [ancestors_of_parent?_eq_some (parent?_absolutePath h),
      ih (Location.IsProper.append_iff.mp h).1, Location.upward_concat, List.map_cons]

/-- A name is joined to the path of a location by a slash. -/
lemma join_absolutePath (h : l.IsProper) (name : String) :
    join (absolutePath l) name = absolutePath (l ++ [name]) := by
  apply String.toList_inj.mp
  cases l using List.reverseRecOn with
  | nil => simp [join, absolutePath]
  | append_singleton l last =>
    have hne : absolutePath (l ++ [last]) ≠ "" := by simp [absolutePath]
    have hslash := getLast?_absolutePath_ne h (by simp)
    rw [join, if_neg (by simp [hne, hslash]), String.toList_append, String.toList_append,
      toList_absolutePath_of_ne_nil (by simp), toList_absolutePath_of_ne_nil (by simp)]
    simp

/-- The steps along the path of a location are its names. -/
lemma steps_absolutePath (h : l.IsProper) (hne : l ≠ []) : steps (absolutePath l) = l := by
  have hsplit : (absolutePath l).toList.splitOn '/' = [] :: l.map String.toList := by
    have hcons : (absolutePath l).toList = ['/'].intercalate ([] :: l.map String.toList) := by
      rw [toList_absolutePath, List.intercalate_cons_of_ne_nil (by simpa using hne)]
      rfl
    rw [hcons, List.splitOn_intercalate '/' _ (by simp)]
    intro chars hchars
    rcases List.mem_cons.mp hchars with rfl | hchars
    · exact List.not_mem_nil
    · obtain ⟨name, hname, rfl⟩ := List.mem_map.mp hchars
      exact (h name hname).slash_not_mem
  have hnames : (([] :: l.map String.toList).map String.ofList).filter (· ≠ "") = l := by
    rw [List.map_cons, List.map_map, List.filter_cons_of_neg (by simp), List.filter_eq_self.mpr]
    · simp [Function.comp_def]
    · intro name hname
      have hmem : name ∈ l := by simpa [Function.comp_def] using hname
      simpa using (h name hmem).ne_empty
  have hlast := getLast?_absolutePath_ne h hne
  simp only [steps, hsplit, hnames, hlast, if_false, List.append_nil]

/-- A name alone is one step. -/
lemma steps_name {name : String} (h : IsName name) : steps name = [name] := by
  have hsplit : name.toList.splitOn '/' = [name.toList] := by
    have hslash : ∀ chars ∈ [name.toList], '/' ∉ chars := by simpa using h.slash_not_mem
    simpa using List.splitOn_intercalate '/' hslash (by simp)
  have hlast : name.toList.getLast? ≠ some '/' :=
    fun hlast => h.slash_not_mem (List.mem_of_getLast? hlast)
  simp [steps, hsplit, hlast, h.ne_empty]

/-- The names of a location can be read from its path; only the path of the root has a step that
is no name. -/
lemma filter_steps_absolutePath (h : l.IsProper) :
    (steps (absolutePath l)).filter (· ≠ ".") = l := by
  by_cases hne : l = []
  · rw [hne]
    decide
  · rw [steps_absolutePath h hne, List.filter_eq_self]
    intro name hname
    simpa using (h name hname).ne_point

/-- Different locations have different paths. -/
lemma absolutePath_injective {m : Location} (hl : l.IsProper) (hm : m.IsProper)
    (h : absolutePath l = absolutePath m) : l = m := by
  rw [← filter_steps_absolutePath hl, h, filter_steps_absolutePath hm]

end Path

end FindingsDigest
