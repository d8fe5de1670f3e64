/-
# Paths as text

A path is a row of names with slashes between them.  An empty name and the name `.` say
nothing, but for a `.` that begins a relative path.

The parent of a path is found on the text alone: the last name that says something is taken
away, together with all around it that says nothing, and the front of the text stays as it was
written.  The root, and the empty path, have no parent; every other path has one, and it is a
shorter text, so the walk from parent to parent ends.
-/

namespace FindingsDigest.Path

/-- Whether a name says nothing. -/
def isIdle (name : List Char) : Bool :=
  name = [] || name = ['.']

/-- The beginning of a path that is no name to be taken away, and the rest: the slash of an
absolute path, or the point that begins a relative one. -/
def splitStart : List Char → List Char × List Char
  | '/' :: rest => (['/'], rest)
  | '.' :: '/' :: rest => (['.'], '/' :: rest)
  | ['.'] => (['.'], [])
  | path => ([], path)

/-- The names of a path without its start, the last first, from the last that says something. -/
def tellingNames (names : List (List Char)) : List (List Char) :=
  names.dropWhile isIdle

/-- The parent of a path, character by character. -/
def parentChars? (path : List Char) : Option (List Char) :=
  let (start, rest) := splitStart path
  match tellingNames (rest.splitOn '/').reverse with
  | _ :: outer => some (start ++ ['/'].intercalate (tellingNames outer).reverse)
  | [] => if start = ['.'] then some [] else none

/-- The parent of a path. -/
def parent? (path : String) : Option String :=
  (parentChars? path.toList).map String.ofList

/-- The path of a name inside a directory. -/
def join (directory name : String) : String :=
  if directory = "" || directory.toList.getLast? = some '/' then directory ++ name
  else directory ++ "/" ++ name

/-! ### The way up -/

/-- How much room names take with a slash for each. -/
def room (names : List (List Char)) : Nat :=
  names.foldr (fun n rest => n.length + 1 + rest) 0

@[simp]
theorem room_nil : room [] = 0 := rfl

@[simp]
theorem room_cons (n : List Char) (rest : List (List Char)) :
    room (n :: rest) = n.length + 1 + room rest := rfl

theorem room_append (names rest : List (List Char)) :
    room (names ++ rest) = room names + room rest := by
  induction names with
  | nil => simp
  | cons n names ih => rw [List.cons_append, room_cons, room_cons, ih]; omega

theorem length_intercalate (names : List (List Char)) :
    (['/'].intercalate names).length = room names - 1 := by
  induction names with
  | nil => rfl
  | cons n rest ih =>
    cases rest with
    | nil => simp [room]
    | cons m rest =>
      rw [List.intercalate_cons_cons]
      simp only [List.length_append, ih, room_cons, List.length_singleton]
      omega

theorem room_reverse (names : List (List Char)) : room names.reverse = room names := by
  induction names with
  | nil => rfl
  | cons n rest ih => rw [List.reverse_cons, room_append, ih, room_cons, room_cons, room_nil]; omega

theorem room_tellingNames_le (names : List (List Char)) :
    room (tellingNames names) ≤ room names := by
  induction names with
  | nil => exact Nat.le_refl _
  | cons n rest ih =>
    unfold tellingNames at ih ⊢
    rw [List.dropWhile_cons]
    split
    · rw [room_cons]
      omega
    · exact Nat.le_refl _

theorem splitStart_append (path : List Char) :
    (splitStart path).1 ++ (splitStart path).2 = path := by
  unfold splitStart
  split <;> rfl

/-- A parent is a shorter text. -/
theorem length_parentChars {path parent : List Char} (h : parentChars? path = some parent) :
    parent.length < path.length := by
  have hpath := congrArg List.length (splitStart_append path)
  simp only [List.length_append] at hpath
  have hrest : (splitStart path).2.length = room ((splitStart path).2.splitOn '/') - 1 := by
    rw [← length_intercalate, List.intercalate_splitOn]
  simp only [parentChars?] at h
  split at h
  · next n outer hnames =>
    have hn : n ≠ [] := by
      rintro rfl
      have := List.head_dropWhile_not isIdle (l := ((splitStart path).2.splitOn '/').reverse)
      unfold tellingNames at hnames
      simp [hnames, isIdle] at this
    have hroom := room_tellingNames_le ((splitStart path).2.splitOn '/').reverse
    have houter := room_tellingNames_le outer
    rw [hnames, room_reverse] at hroom
    have hlen := List.length_pos_iff.mpr hn
    have hcons : room (n :: outer) = n.length + 1 + room outer := room_cons n outer
    obtain rfl := Option.some.inj h
    rw [List.length_append, length_intercalate, room_reverse]
    omega
  · split at h
    · next hdot =>
      obtain rfl := Option.some.inj h
      rw [hdot] at hpath
      simp only [List.length_singleton] at hpath
      simp only [List.length_nil]
      omega
    · simp at h

/-- A path, its parent, the parent of that, and so on. -/
def ancestors (path : String) : List String :=
  path :: match _h : parent? path with
    | none => []
    | some parent => ancestors parent
termination_by path.toList.length
decreasing_by
  obtain ⟨chars, hchars, rfl⟩ := Option.map_eq_some_iff.mp _h
  rw [String.toList_ofList]
  exact length_parentChars hchars

end FindingsDigest.Path
