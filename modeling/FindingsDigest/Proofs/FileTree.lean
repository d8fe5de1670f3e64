/-
# Where paths lead in a well-formed tree

In a well-formed tree each entry has a name and stands in a directory.  A place is a location with
an entry that is no link; so all locations above a place are directories.

Two laws say where names lead.  From a place they lead to a place, however many links are followed
on the way (`follow_isPlace`); so the absolute path that is found for a path passes no link.  And
along the names of a place they lead straight there (`follow_append`), without a link being
followed; so what the absolute path of a name in a place leads to is told by the entry of that
name, read from the place itself (`lookUp_absolutePath`).
-/
import FindingsDigest.Proofs.Path

namespace FindingsDigest

open FileTree (absolutePath steps origin isAskable mostLinks)

namespace FileTree

/-- Whether a directory stands at a location. -/
def IsDirectory (t : FileTree) (l : Location) : Prop :=
  t.entry? l = some .directory

instance (t : FileTree) (l : Location) : Decidable (t.IsDirectory l) :=
  match h : t.entry? l with
  | some .directory => isTrue h
  | some (.file _) => isFalse fun hl => by simp [IsDirectory, h] at hl
  | some (.link _) => isFalse fun hl => by simp [IsDirectory, h] at hl
  | none => isFalse fun hl => by simp [IsDirectory, h] at hl

/-- Whether an entry that is no link stands at a location. -/
def IsPlace (t : FileTree) (l : Location) : Prop :=
  ∃ e, t.entry? l = some e ∧ ∀ target, e ≠ .link target

/-- Whether each entry of a tree has a name and stands in a directory. -/
structure WellFormed (t : FileTree) : Prop where
  isProper : ∀ p ∈ t.entries, p.1.IsProper
  isDirectory : ∀ p ∈ t.entries, t.IsDirectory p.1.dropLast

variable {t : FileTree} {l here found : Location} {names : List String} {name : String}
  {fits : Location → Bool} {links : ℕ}

lemma isDirectory_nil (t : FileTree) : t.IsDirectory [] := rfl

lemma IsDirectory.isPlace (h : t.IsDirectory l) : t.IsPlace l :=
  ⟨.directory, h, fun _ => by simp⟩

lemma mem_entries_of_eq_some {e : Entry} (h : t.entry? l = some e) (hne : l ≠ []) :
    (l, e) ∈ t.entries := by
  unfold entry? at h
  rw [if_neg hne, List.lookup_eq_some_iff] at h
  obtain ⟨before, behind, hentries, -⟩ := h
  simp [hentries]

namespace WellFormed

variable (h : t.WellFormed)

include h

lemma isProper_of_isPlace (hl : t.IsPlace l) : l.IsProper := by
  obtain ⟨e, he, -⟩ := hl
  by_cases hne : l = []
  · simp [hne]
  · exact h.isProper _ (mem_entries_of_eq_some he hne)

/-- An entry stands in a directory. -/
lemma isDirectory_of_eq_some {e : Entry} (hl : t.entry? (l ++ [name]) = some e) :
    t.IsDirectory l := by
  have hmem := h.isDirectory _ (mem_entries_of_eq_some hl (by simp))
  rwa [List.dropLast_concat] at hmem

lemma isDirectory_dropLast (hl : t.IsPlace l) : t.IsDirectory l.dropLast := by
  obtain ⟨e, he, -⟩ := hl
  cases l using List.reverseRecOn with
  | nil => exact isDirectory_nil t
  | append_singleton l name =>
    rw [List.dropLast_concat]
    exact h.isDirectory_of_eq_some he

/-- All locations above a place are directories. -/
lemma isDirectory_of_prefix (hl : t.IsPlace l) {up : Location} (hup : up <+: l) (hne : up ≠ l) :
    t.IsDirectory up := by
  induction l using List.reverseRecOn with
  | nil => exact absurd (List.prefix_nil.mp hup) hne
  | append_singleton l name ih =>
    have hl' : t.IsDirectory l := by
      have := h.isDirectory_dropLast hl
      rwa [List.dropLast_concat] at this
    rcases List.prefix_concat_iff.mp hup with heq | hup
    · exact absurd heq hne
    · by_cases heq : up = l
      · rwa [heq]
      · exact ih hl'.isPlace hup heq

lemma isPlace_of_prefix (hl : t.IsPlace l) {up : Location} (hup : up <+: l) : t.IsPlace up := by
  by_cases heq : up = l
  · rwa [heq]
  · exact (h.isDirectory_of_prefix hl hup heq).isPlace

/-- From a place, names lead to a place. -/
lemma follow_isPlace (hhere : t.IsPlace here) (hf : t.follow fits links here names = .ok found) :
    t.IsPlace found := by
  fun_induction follow t fits links here names with
  | case1 links here => rwa [← Except.ok.inj hf]
  | case2 links here rest hdir ih => exact ih hhere hf
  | case3 links here rest hdir _ ih => exact ih (h.isDirectory_dropLast hhere).isPlace hf
  | case7 here name rest hdir _ _ _ target _ links ih =>
    -- a link is read from the root or from the directory it is in
    refine ih ?_ hf
    unfold origin
    split
    · exact (isDirectory_nil t).isPlace
    · exact hhere
  | case8 links here name rest hdir _ _ _ e hlink hentry ih =>
    exact ih ⟨e, hentry, hlink⟩ hf
  | case4 => cases hf
  | case5 => cases hf
  | case6 => cases hf
  | case9 => cases hf

/-- A name that leads to a place is followed to it. -/
lemma follow_cons (hl : t.IsPlace (l ++ [name])) (rest : List String) :
    t.follow (fun _ => true) links l (name :: rest) =
      t.follow (fun _ => true) links (l ++ [name]) rest := by
  have hname : IsName name := h.isProper_of_isPlace hl name (by simp)
  obtain ⟨e, he, hlink⟩ := hl
  have hdir : t.entry? l = some .directory := h.isDirectory_of_eq_some he
  have hshort : ¬ FileTree.longestName < name.utf8ByteSize := Nat.not_lt.mpr hname.size_le
  rw [follow, hdir]
  cases e with
  | link target => exact absurd rfl (hlink target)
  | file bytes => simp [hname.ne_point, hname.ne_doublePoint, hshort, he]
  | directory => simp [hname.ne_point, hname.ne_doublePoint, hshort, he]

/-- The names of a place are followed to it, and no link is. -/
lemma follow_append (hl : t.IsPlace (l ++ names)) (rest : List String) :
    t.follow (fun _ => true) links l (names ++ rest) =
      t.follow (fun _ => true) links (l ++ names) rest := by
  induction names generalizing l with
  | nil => simp
  | cons name names ih =>
    rw [List.append_cons] at hl ⊢
    have hname : t.IsPlace (l ++ [name]) := h.isPlace_of_prefix hl (List.prefix_append _ _)
    rw [List.cons_append, h.follow_cons hname, ih hl]

end WellFormed

/-! ### The file that a name leads to -/

/-- The bytes of the file that the entry of a name in a directory leads to, through links if need
be.  There are none if it leads to no file, or if the path of the entry is too long to be asked
for. -/
def fileIn? (t : FileTree) (l : Location) (name : String) : Option ByteArray :=
  if isAskable (l ++ [name]) then
    match (t.follow (fun _ => true) mostLinks l [name]).toOption.bind t.entry? with
    | some (.file bytes) => some bytes
    | _ => none
  else none

lemma fileIn?_eq_some_iff_follow {bytes : ByteArray} :
    t.fileIn? l name = some bytes ↔ isAskable (l ++ [name]) = true ∧
      ∃ found, t.follow (fun _ => true) mostLinks l [name] = .ok found ∧
        t.entry? found = some (.file bytes) := by
  unfold fileIn?
  split
  · next hask =>
    rcases t.follow (fun _ => true) mostLinks l [name] with fault | found
    · simp [hask, Except.toOption]
    · rcases hentry : t.entry? found with _ | (_ | _ | _) <;> simp [hask, Except.toOption, hentry]
  · next hask => simp [hask]

/-- Only files, and links that lead to files, count: no directories, no links that lead nowhere or
in a circle. -/
lemma WellFormed.fileIn?_eq_some_iff (h : t.WellFormed) (hname : IsName name) {bytes : ByteArray} :
    t.fileIn? l name = some bytes ↔ isAskable (l ++ [name]) = true ∧
      (t.entry? (l ++ [name]) = some (.file bytes) ∨
        ∃ target found, t.entry? (l ++ [name]) = some (.link target) ∧
          t.follow (fun _ => true) (mostLinks - 1) (origin l target) (steps target) = .ok found ∧
          t.entry? found = some (.file bytes)) := by
  rw [fileIn?_eq_some_iff_follow]
  refine and_congr_right fun _ => ?_
  have hshort : ¬ FileTree.longestName < name.utf8ByteSize := Nat.not_lt.mpr hname.size_le
  rcases hentry : t.entry? (l ++ [name]) with _ | e
  · -- without an entry the name leads nowhere
    rw [follow]
    split
    · simp [hname.ne_point, hname.ne_doublePoint, hshort, hentry]
    · simp
  · have hdir : t.entry? l = some .directory := h.isDirectory_of_eq_some hentry
    cases e with
    | link target =>
      rw [follow, hdir]
      simp [hname.ne_point, hname.ne_doublePoint, hshort, hentry, mostLinks]
    | file found =>
      have hl : t.IsPlace (l ++ [name]) := ⟨_, hentry, by simp⟩
      rw [h.follow_cons hl, follow]
      simp [hentry]
    | directory =>
      have hl : t.IsPlace (l ++ [name]) := ⟨_, hentry, by simp⟩
      rw [h.follow_cons hl, follow]
      simp [hentry]

end FileTree

/-- Whether the tree of a disk is well formed, and the working directory is a directory. -/
structure Disk.WellFormed (d : Disk) : Prop where
  tree : d.tree.WellFormed
  here : d.tree.IsDirectory d.here

namespace Disk

variable {d : Disk} {l : Location} {name : String}

/-- Reading a file gives the text of its bytes. -/
lemma read_of_lookUp {path : String} {bytes : ByteArray} (h : d.lookUp path = .ok (.file bytes)) :
    d.read path = match String.fromUTF8? bytes with
      | some text => .ok text
      | none => .error .notText := by
  rcases hutf8 : String.fromUTF8? bytes with _ | text <;>
    simp [read, h, hutf8, bind, Except.bind, pure, Except.pure]

lemma nul_not_mem_absolutePath (h : l.IsProper) : '\x00' ∉ (absolutePath l).toList := by
  by_cases hne : l = []
  · simp [hne, absolutePath]
  · rw [toList_absolutePath_of_ne_nil hne]
    simp only [List.mem_flatMap, List.mem_cons, not_exists, not_and, not_or]
    exact fun name hname => ⟨by decide, (h name hname).nul_not_mem⟩

lemma lookUp_absolutePath (h : d.tree.WellFormed) (hl : d.tree.IsPlace l) (hname : IsName name) :
    d.lookUp (absolutePath (l ++ [name])) =
      if isAskable (l ++ [name]) then
        d.tree.follow (fun _ => true) mostLinks l [name] >>= fun found =>
          match d.tree.entry? found with
          | some e => .ok e
          | none => .error .notFound
      else .error .nameTooLong := by
  have hproper : Location.IsProper (l ++ [name]) := by
    simpa using ⟨h.isProper_of_isPlace hl, hname⟩
  have hnul : ¬ (absolutePath (l ++ [name])).toList.contains '\x00' = true := by
    simpa using nul_not_mem_absolutePath hproper
  have hne : absolutePath (l ++ [name]) ≠ "" := by simp [absolutePath]
  have horigin : origin d.here (absolutePath (l ++ [name])) = [] := by
    simp [origin, toList_absolutePath]
  -- the names of the place are followed first, and all links are still allowed then
  have hresolve : d.tree.resolve d.here (absolutePath (l ++ [name])) =
      d.tree.follow (fun _ => true) mostLinks l [name] := by
    rw [FileTree.resolve, FileTree.resolveWithin, if_neg hne, if_neg hnul, horigin,
      Path.steps_absolutePath hproper (by simp), h.follow_append (by simpa using hl),
      List.nil_append]
  rw [lookUp, if_neg hnul, hresolve]
  by_cases hask : isAskable (l ++ [name]) = true
  · have hshort : ¬ FileTree.longestPath < (absolutePath (l ++ [name])).utf8ByteSize := by
      simpa [isAskable] using hask
    rw [if_neg hshort, if_pos hask]
    rfl
  · have hlong : FileTree.longestPath < (absolutePath (l ++ [name])).utf8ByteSize := by
      simpa [isAskable] using hask
    rw [if_pos hlong, if_neg hask]

/-- Looking up the path of a name in a place finds the file that the name leads to. -/
lemma lookUp_absolutePath_eq_file_iff (h : d.tree.WellFormed) (hl : d.tree.IsPlace l)
    (hname : IsName name) {bytes : ByteArray} :
    d.lookUp (absolutePath (l ++ [name])) = .ok (.file bytes) ↔
      d.tree.fileIn? l name = some bytes := by
  rw [lookUp_absolutePath h hl hname, FileTree.fileIn?_eq_some_iff_follow]
  split
  · next hask =>
    rcases d.tree.follow (fun _ => true) mostLinks l [name] with fault | found
    · simp [hask, bind, Except.bind]
    · rcases hentry : d.tree.entry? found with _ | e <;> simp [hask, bind, Except.bind, hentry]
  · next hask => simp [hask]

/-! ### The working directory -/

/-- A name alone leads to the entry of that name in the working directory. -/
lemma lookUp_name (hd : d.WellFormed) (hname : IsName name) {bytes : ByteArray}
    (hfile : d.tree.entry? (d.here ++ [name]) = some (.file bytes)) :
    d.lookUp name = .ok (.file bytes) := by
  have hplace : d.tree.IsPlace (d.here ++ [name]) := ⟨_, hfile, by simp⟩
  have hnul : ¬ name.toList.contains '\x00' = true := by simpa using hname.nul_not_mem
  have horigin : origin d.here name = d.here := by
    rw [origin, if_neg fun hhead => hname.slash_not_mem (List.mem_of_head? hhead)]
  have hresolve : d.tree.resolve d.here name = .ok (d.here ++ [name]) := by
    rw [FileTree.resolve, FileTree.resolveWithin, if_neg hname.ne_empty, if_neg hnul, horigin,
      Path.steps_name hname, hd.tree.follow_cons hplace, FileTree.follow]
  have hshort : ¬ FileTree.longestPath < name.utf8ByteSize := by
    have hsize := hname.size_le
    simp only [FileTree.longestPath, FileTree.longestName] at hsize ⊢
    omega
  rw [lookUp, if_neg hnul, if_neg hshort, hresolve]
  simp [bind, Except.bind, hfile, pure, Except.pure]

/-- The point leads to the working directory. -/
lemma canonical?_point (hd : d.WellFormed) : d.canonical? "." = some (absolutePath d.here) := by
  have hhere : d.tree.entry? d.here = some .directory := hd.here
  have hsteps : steps "." = ["."] := by decide
  have horigin : origin d.here "." = d.here := rfl
  have hresolve : d.tree.resolveWithin isAskable d.here "." = .ok d.here := by
    rw [FileTree.resolveWithin, if_neg (by simp), if_neg (by decide), hsteps, horigin]
    simp [FileTree.follow, hhere]
  rw [canonical?, hresolve]
  rfl

end Disk

end FindingsDigest
