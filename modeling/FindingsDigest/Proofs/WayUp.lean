/-
# The search for a settings file

The search for a settings file goes up a path as it is written, whether anything exists there or
not.  A path has components: the slash or the point it starts with, and the names that say
something.  All else in the text, repeated and trailing slashes and points behind them, is no
component, so it is on the components that the way up can be followed: the parent of a path has all
of them but the last (`components_parent`), and there is no parent when none is left, or only the
slash (`components_of_parentChars?_eq_none`).

The text of the parent is a beginning of the text of the path.  Where it is cut is known from the
end, by the names that say nothing; that it still has the same start, and so the same components up
to there, is shown for any cut between two names (`components_front`).

The search itself is a loop without a bound.  Here it has one, and it is shown how many rounds are
enough.
-/
import FindingsDigest.Proofs.Path
import FindingsDigest.Proofs.Record
import FindingsDigest.Proofs.SettingsSearch

namespace FindingsDigest

namespace Path

/-! ### Components -/

/-- The components of a path: its start, and the names that say something. -/
def components (path : List Char) : List (List Char) :=
  let (start, rest) := splitStart path
  (if start = [] then [] else [start]) ++ (rest.splitOn '/').filter (!isIdle ·)

lemma intercalate_append {names more : List (List Char)} (hnames : names ≠ []) (hmore : more ≠ []) :
    ['/'].intercalate (names ++ more) =
      ['/'].intercalate names ++ '/' :: ['/'].intercalate more := by
  induction names with
  | nil => exact absurd rfl hnames
  | cons name names ih =>
    cases names with
    | nil =>
      rw [List.singleton_append, List.intercalate_cons_of_ne_nil hmore, List.intercalate_singleton]
      simp
    | cons next names =>
      rw [List.cons_append, List.cons_append, List.intercalate_cons_cons,
        List.intercalate_cons_cons, ← List.cons_append, ih (by simp)]
      simp

/-- Whether a path begins with a name, or is empty. -/
structure HasNoStart (path : List Char) : Prop where
  head?_ne_slash : path.head? ≠ some '/'
  ne_point : path ≠ ['.']
  ne_point_slash : ∀ rest, path ≠ '.' :: '/' :: rest

lemma splitStart_of_hasNoStart {path : List Char} (h : HasNoStart path) :
    splitStart path = ([], path) := by
  unfold splitStart
  split
  · exact absurd rfl h.head?_ne_slash
  · next rest => exact absurd rfl (h.ne_point_slash rest)
  · exact absurd rfl h.ne_point
  · rfl

/-- The four ways in which a path can begin. -/
lemma start_cases (path : List Char) : (∃ rest, path = '/' :: rest) ∨ path = ['.'] ∨
    (∃ rest, path = '.' :: '/' :: rest) ∨ HasNoStart path := by
  by_cases hslash : path.head? = some '/'
  · exact Or.inl (List.head?_eq_some_iff.mp hslash)
  · by_cases hpoint : path = ['.']
    · exact Or.inr (Or.inl hpoint)
    · by_cases hpointSlash : ∃ rest, path = '.' :: '/' :: rest
      · exact Or.inr (Or.inr (Or.inl hpointSlash))
      · refine Or.inr (Or.inr (Or.inr ⟨hslash, hpoint, fun rest h => hpointSlash ⟨rest, h⟩⟩))

/-- If a path is cut at a slash behind its start, the part in front has the same start. -/
lemma splitStart_append_of_cut {path text tail : List Char}
    (h : (splitStart path).2 = text ++ '/' :: tail) :
    splitStart ((splitStart path).1 ++ text) = ((splitStart path).1, text) := by
  rcases start_cases path with ⟨rest, rfl⟩ | rfl | ⟨rest, rfl⟩ | hpath
  · rfl
  · simp [splitStart] at h
  · cases text with
    | nil => rfl
    | cons c text =>
      obtain rfl : '/' = c := (List.cons.inj h).1
      rfl
  · rw [splitStart_of_hasNoStart hpath] at h ⊢
    simp only at h
    -- if the part in front had a start, so would the path
    refine splitStart_of_hasNoStart ⟨fun hhead => hpath.head?_ne_slash ?_, ?_, ?_⟩
    · have hhead : text.head? = some '/' := hhead
      rw [h, List.head?_append, hhead, Option.some_or]
    · rintro rfl
      exact hpath.ne_point_slash _ h
    · rintro rest rfl
      exact hpath.ne_point_slash _ h

lemma splitStart_start (path : List Char) :
    splitStart (splitStart path).1 = ((splitStart path).1, []) := by
  rcases start_cases path with ⟨rest, rfl⟩ | rfl | ⟨rest, rfl⟩ | hpath
  · rfl
  · rfl
  · rfl
  · rw [splitStart_of_hasNoStart hpath]
    rfl

lemma isIdle_of_tellingNames_eq_cons {names outer : List (List Char)} {name : List Char}
    (h : tellingNames names = name :: outer) : isIdle name = false := by
  have hhead := List.head_dropWhile_not isIdle (l := names)
  unfold tellingNames at h
  simpa [h] using hhead

/-- The names that say something, without the last of them, stand in the names in front of it. -/
lemma exists_eq_append_of_tellingNames {names outer : List (List Char)} {name : List Char}
    (h : tellingNames names.reverse = name :: outer) :
    ∃ later, names = (tellingNames outer).reverse ++ later ∧ later ≠ [] ∧
      names.filter (!isIdle ·) = (tellingNames outer).reverse.filter (!isIdle ·) ++ [name] := by
  have hsplit : ∀ names : List (List Char), names.takeWhile isIdle ++ tellingNames names = names :=
    fun _ => List.takeWhile_append_dropWhile
  have hidle : ∀ names : List (List Char), (names.takeWhile isIdle).filter (!isIdle ·) = [] := by
    intro names
    refine List.filter_eq_nil_iff.mpr fun n hn => ?_
    simpa using List.mem_takeWhile_imp hn
  have hname : isIdle name = false := isIdle_of_tellingNames_eq_cons h
  -- from the end: idle names, the last telling name, idle names, and what is kept
  have hback : names.reverse = names.reverse.takeWhile isIdle ++
      name :: (outer.takeWhile isIdle ++ tellingNames outer) := by
    rw [hsplit outer, ← h, hsplit]
  have hnames : names = (tellingNames outer).reverse ++
      ((outer.takeWhile isIdle).reverse ++ name :: (names.reverse.takeWhile isIdle).reverse) := by
    simpa using congrArg List.reverse hback
  have htelling : names.reverse.filter (!isIdle ·) =
      name :: (tellingNames outer).filter (!isIdle ·) := by
    rw [hback, List.filter_append, hidle, List.nil_append,
      List.filter_cons_of_pos (by simp [hname]), List.filter_append, hidle, List.nil_append]
  refine ⟨_, hnames, by simp, ?_⟩
  simpa using congrArg List.reverse htelling

/-- A path is absolute just if its start is the slash. -/
lemma head?_eq_slash_iff (path : List Char) :
    path.head? = some '/' ↔ (splitStart path).1 = ['/'] := by
  rcases start_cases path with ⟨rest, rfl⟩ | rfl | ⟨rest, rfl⟩ | hpath
  · simp [splitStart]
  · simp [splitStart]
  · simp [splitStart]
  · simp [splitStart_of_hasNoStart hpath, hpath.head?_ne_slash]

/-- Cut off behind some of its names, a path keeps its start and the components up to there. -/
lemma components_front {path : List Char} {front later : List (List Char)}
    (h : (splitStart path).2.splitOn '/' = front ++ later) (hlater : later ≠ []) :
    let above := (splitStart path).1 ++ ['/'].intercalate front
    above <+: path ∧ (splitStart above).1 = (splitStart path).1 ∧
      components above = (if (splitStart path).1 = [] then [] else [(splitStart path).1]) ++
        front.filter (!isIdle ·) := by
  intro above
  have hpath : (splitStart path).1 ++ (splitStart path).2 = path := splitStart_append path
  by_cases hfront : front = []
  · subst hfront
    have habove : above = (splitStart path).1 := List.append_nil _
    rw [habove, components, splitStart_start]
    exact ⟨⟨_, hpath⟩, rfl, by simp [isIdle]⟩
  · have hrest : (splitStart path).2 =
        ['/'].intercalate front ++ '/' :: ['/'].intercalate later := by
      rw [← intercalate_append hfront hlater, ← h, List.intercalate_splitOn]
    have hnames : (['/'].intercalate front).splitOn '/' = front := by
      refine List.splitOn_intercalate '/' (fun name hname hslash => ?_) hfront
      have hmem : name ∈ (splitStart path).2.splitOn '/' := h ▸ List.mem_append_left later hname
      exact (mem_of_mem_splitOn hmem hslash).2 rfl
    have hstart : splitStart above = ((splitStart path).1, ['/'].intercalate front) :=
      splitStart_append_of_cut hrest
    refine ⟨?_, by rw [hstart], ?_⟩
    · rw [← hpath, hrest, ← List.append_assoc]
      exact List.prefix_append _ _
    · rw [components, hstart]
      simp only [hnames]

lemma isIdle_of_tellingNames_eq_nil {names : List (List Char)}
    (h : tellingNames names.reverse = []) : ∀ name ∈ names, isIdle name = true := by
  simpa [tellingNames] using h

/-- A path whose names say nothing has no component but its start. -/
lemma components_of_tellingNames_eq_nil {path : List Char}
    (h : tellingNames ((splitStart path).2.splitOn '/').reverse = []) :
    components path = if (splitStart path).1 = [] then [] else [(splitStart path).1] := by
  have hidle : ((splitStart path).2.splitOn '/').filter (!isIdle ·) = [] :=
    List.filter_eq_nil_iff.mpr fun name hname => by
      simp [isIdle_of_tellingNames_eq_nil h name hname]
  rw [components]
  simp only [hidle, List.append_nil]

/-- A parent is a beginning of the text, and only the last component is missing in it. -/
lemma components_parent {path parent : List Char} (h : parentChars? path = some parent) :
    parent <+: path ∧ (parent.head? = some '/' ↔ path.head? = some '/') ∧
      ∃ last, components path = components parent ++ [last] := by
  simp only [parentChars?] at h
  split at h
  · next name outer hnames =>
    obtain rfl := Option.some.inj h
    obtain ⟨later, happend, hlater, hfilter⟩ := exists_eq_append_of_tellingNames hnames
    obtain ⟨htext, hstart, hcomponents⟩ := components_front happend hlater
    refine ⟨htext, by rw [head?_eq_slash_iff, hstart, ← head?_eq_slash_iff], name, ?_⟩
    rw [hcomponents, List.append_assoc, ← hfilter]
    rfl
  · next hnone =>
    split at h
    · next hpoint =>
      obtain rfl := Option.some.inj h
      refine ⟨List.nil_prefix, by simp [head?_eq_slash_iff path, hpoint], ['.'], ?_⟩
      rw [components_of_tellingNames_eq_nil hnone, hpoint]
      rfl
    · cases h

/-- Only the empty path has no parent, and the absolute paths without names. -/
lemma components_of_parentChars?_eq_none {path : List Char} (h : parentChars? path = none) :
    if path.head? = some '/' then components path = [['/']] else path = [] := by
  have hnone : tellingNames ((splitStart path).2.splitOn '/').reverse = [] ∧
      (splitStart path).1 ≠ ['.'] := by
    simp only [parentChars?] at h
    split at h
    · cases h
    · next hnames => simpa [hnames] using h
  obtain ⟨hnames, hpoint⟩ := hnone
  rcases start_cases path with ⟨rest, rfl⟩ | rfl | ⟨rest, rfl⟩ | hpath
  · exact components_of_tellingNames_eq_nil hnames
  · exact absurd rfl hpoint
  · exact absurd rfl hpoint
  · rw [if_neg hpath.head?_ne_slash]
    rw [splitStart_of_hasNoStart hpath] at hnames
    -- the first name says nothing, and neither a slash nor a point stands in front
    obtain ⟨first, more, hsplit⟩ := List.exists_cons_of_ne_nil (List.splitOn_ne_nil '/' path)
    have hidle : isIdle first = true :=
      isIdle_of_tellingNames_eq_nil hnames first (hsplit ▸ List.mem_cons_self)
    have hjoin : path = ['/'].intercalate (first :: more) := by
      rw [← hsplit, List.intercalate_splitOn]
    have hfirst : first = [] ∨ first = ['.'] := by simpa [isIdle] using hidle
    cases more with
    | nil =>
      rw [List.intercalate_singleton] at hjoin
      rcases hfirst with rfl | rfl
      · exact hjoin
      · exact absurd hjoin hpath.ne_point
    | cons next more =>
      rw [List.intercalate_cons_cons] at hjoin
      rcases hfirst with rfl | rfl
      · exact absurd (by rw [hjoin]; rfl) hpath.head?_ne_slash
      · exact absurd hjoin (hpath.ne_point_slash _)

/-- An absolute path without names is a parent only if it is the slash. -/
lemma eq_slash_of_components {path parent : List Char} (h : parentChars? path = some parent)
    (hpath : path.head? = some '/') (hparent : components parent = [['/']]) : parent = ['/'] := by
  have hstart : (splitStart path).1 = ['/'] := (head?_eq_slash_iff path).mp hpath
  simp only [parentChars?] at h
  split at h
  · next name outer hnames =>
    obtain rfl := Option.some.inj h
    obtain ⟨later, happend, hlater, -⟩ := exists_eq_append_of_tellingNames hnames
    obtain ⟨-, -, hcomponents⟩ := components_front happend hlater
    rw [hparent, hstart] at hcomponents
    have hnone : (tellingNames outer).filter (!isIdle ·) = [] := by simpa using hcomponents
    -- the first name that is left says something
    rcases houter : tellingNames outer with _ | ⟨first, others⟩
    · simp [hstart]
    · simp [houter, isIdle_of_tellingNames_eq_cons houter] at hnone
  · simp [hstart] at h

/-! ### The way up as a list -/

/-- Whether a path is absolute. -/
def IsAbsolute (path : String) : Prop :=
  path.toList.head? = some '/'

instance (path : String) : Decidable (IsAbsolute path) :=
  inferInstanceAs (Decidable (_ = _))

/-- Whether a path is the parent of another: its text is a beginning of the other's, and it has all
components of the other but the last. -/
structure IsParent (parent path : String) : Prop where
  parent?_eq : parent? path = some parent
  isPrefix : parent.toList <+: path.toList
  components_eq : ∃ last, components path.toList = components parent.toList ++ [last]

variable {path parent : String}

lemma parentChars?_of_parent? (h : parent? path = some parent) :
    parentChars? path.toList = some parent.toList := by
  obtain ⟨chars, hchars, rfl⟩ := Option.map_eq_some_iff.mp h
  rw [hchars, String.toList_ofList]

lemma isParent_of_parent? (h : parent? path = some parent) : IsParent parent path := by
  obtain ⟨htext, -, hlast⟩ := components_parent (parentChars?_of_parent? h)
  exact ⟨h, htext, hlast⟩

lemma isAbsolute_iff_of_parent? (h : parent? path = some parent) :
    IsAbsolute parent ↔ IsAbsolute path :=
  (components_parent (parentChars?_of_parent? h)).2.1

lemma components_of_parent?_eq_none (h : parent? path = none) :
    if IsAbsolute path then components path.toList = [['/']] else path = "" := by
  have hchars := components_of_parentChars?_eq_none (Option.map_eq_none_iff.mp h)
  split at hchars
  · next habsolute => exact (if_pos habsolute).mpr hchars
  · next hrelative => exact (if_neg hrelative).mpr (String.toList_eq_nil_iff.mp hchars)

lemma exists_ancestors_eq_cons (path : String) : ∃ above, ancestors path = path :: above := by
  rcases hparent : parent? path with _ | parent
  · exact ⟨[], ancestors_of_parent?_eq_none hparent⟩
  · exact ⟨_, ancestors_of_parent?_eq_some hparent⟩

/-- From each path the way goes on to its parent. -/
lemma isChain_ancestors (start : String) :
    (ancestors start).IsChain fun path parent => IsParent parent path := by
  induction start using ancestors.induct with
  | case1 start ih =>
    rcases hparent : parent? start with _ | parent
    · rw [ancestors_of_parent?_eq_none hparent]
      simp
    · have hchain := ih parent hparent
      obtain ⟨above, habove⟩ := exists_ancestors_eq_cons parent
      rw [ancestors_of_parent?_eq_some hparent, habove]
      rw [habove] at hchain
      exact List.isChain_cons_cons.mpr ⟨isParent_of_parent? hparent, hchain⟩

/-- A component is left behind in each round, and the last path of a relative way has none. -/
lemma length_ancestors (start : String) :
    (ancestors start).length =
      (components start.toList).length + if IsAbsolute start then 0 else 1 := by
  induction start using ancestors.induct with
  | case1 start ih =>
    rcases hparent : parent? start with _ | parent
    · have hlast := components_of_parent?_eq_none hparent
      rw [ancestors_of_parent?_eq_none hparent]
      split at hlast
      · next habsolute => simp [hlast, habsolute]
      · next hrelative =>
        subst hlast
        rfl
    · obtain ⟨last, hlast⟩ := (isParent_of_parent? hparent).components_eq
      have hlength := ih parent hparent
      simp only [isAbsolute_iff_of_parent? hparent] at hlength
      rw [ancestors_of_parent?_eq_some hparent, List.length_cons, hlength, hlast,
        List.length_append, List.length_singleton]
      omega

/-- Where the way ends: at the root, or at the empty path. -/
lemma exists_getLast?_ancestors (start : String) :
    ∃ last, (ancestors start).getLast? = some last ∧ parent? last = none ∧
      if IsAbsolute start then
        components last.toList = [['/']] ∧ (last = "/" ∨ ancestors start = [start])
      else last = "" := by
  induction start using ancestors.induct with
  | case1 start ih =>
    rcases hparent : parent? start with _ | parent
    · have hlast := components_of_parent?_eq_none hparent
      have hway := ancestors_of_parent?_eq_none hparent
      refine ⟨start, by simp [hway], hparent, ?_⟩
      split at hlast
      · next habsolute => exact (if_pos habsolute).mpr ⟨hlast, Or.inr hway⟩
      · next hrelative => rwa [if_neg hrelative]
    · obtain ⟨last, hlast, hnone, hend⟩ := ih parent hparent
      refine ⟨last, ?_, hnone, ?_⟩
      · obtain ⟨above, habove⟩ := exists_ancestors_eq_cons parent
        rw [ancestors_of_parent?_eq_some hparent, habove]
        rw [habove] at hlast
        simpa using hlast
      · simp only [isAbsolute_iff_of_parent? hparent] at hend
        split at hend
        · next habsolute =>
          refine (if_pos habsolute).mpr ⟨hend.1, Or.inl ?_⟩
          rcases hend.2 with hroot | hway
          · exact hroot
          · rw [hway, List.getLast?_singleton, Option.some.injEq] at hlast
            subst hlast
            have hslash := eq_slash_of_components (parentChars?_of_parent? hparent) habsolute hend.1
            exact String.toList_inj.mp hslash
        · next hrelative => rwa [if_neg hrelative]

end Path

/-! ### The search -/

open FindingsDigest.Path (join ancestors components IsAbsolute IsParent)
open Settings (fileName candidates searchStart)

namespace Disk

variable {d : Disk}

/-- The search for a settings file from a path, in at most so many rounds.  Each round looks into
one directory, and if there is no settings file it goes on to the parent, if there is one.  Nothing
is told if the search is not over by then. -/
def searchIn? (d : Disk) : (rounds : ℕ) → String → Option (Option String)
  | 0, _ => none
  | n + 1, current =>
    if d.isFile (join current fileName) then some (some (join current fileName))
    else
      match Path.parent? current with
      | some parent => d.searchIn? n parent
      | none => some none

/-- As many rounds as the way has paths are enough. -/
lemma searchIn?_eq (d : Disk) (start : String) (extra : ℕ) :
    d.searchIn? ((ancestors start).length + extra) start =
      some ((candidates start).find? d.isFile) := by
  induction start using FindingsDigest.Path.ancestors.induct with
  | case1 start ih =>
    rcases hparent : Path.parent? start with _ | parent
    · rw [candidates, Path.ancestors_of_parent?_eq_none hparent, List.length_singleton,
        Nat.add_comm, searchIn?, hparent]
      by_cases hfile : d.isFile (join start fileName) = true <;> simp [hfile]
    · have hnext := ih parent hparent
      rw [candidates] at hnext
      rw [candidates, Path.ancestors_of_parent?_eq_some hparent, List.length_cons,
        Nat.add_right_comm, searchIn?, hparent]
      by_cases hfile : d.isFile (join start fileName) = true <;> simp [hfile, hnext]

/-- The search finds the first settings file on the way. -/
lemma find?_candidates_eq_some_iff {start path : String} :
    (candidates start).find? d.isFile = some path ↔ d.isFile path = true ∧
      ∃ nearer directory further, ancestors start = nearer ++ directory :: further ∧
        path = join directory fileName ∧
        ∀ other ∈ nearer, d.isFile (join other fileName) = false := by
  rw [candidates, List.find?_eq_some_iff_append]
  refine and_congr_right fun _ => ?_
  constructor
  · rintro ⟨before, after, hsplit, hbefore⟩
    obtain ⟨nearer, rest, hway, rfl, hrest⟩ := List.map_eq_append_iff.mp hsplit
    obtain ⟨directory, further, rfl, rfl, -⟩ := List.map_eq_cons_iff.mp hrest
    refine ⟨nearer, directory, further, hway, rfl, fun other hother => ?_⟩
    simpa using hbefore _ (List.mem_map_of_mem hother)
  · rintro ⟨nearer, directory, further, hway, rfl, hnearer⟩
    refine ⟨_, _, by rw [hway, List.map_append, List.map_cons], fun file hfile => ?_⟩
    obtain ⟨other, hother, rfl⟩ := List.mem_map.mp hfile
    simp [hnearer other hother]

example : ancestors "a//b/./../" = ["a//b/./../", "a//b", "a", ""] := by decide +kernel

end Disk

end FindingsDigest
