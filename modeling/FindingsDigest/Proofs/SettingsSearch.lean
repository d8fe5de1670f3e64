/-
# The nearest settings file

The search for the settings of a report starts at a path.  If this path can be written as an
absolute path without links, then the search looks into the place that it leads to and into every
directory above, up to the root, and the first settings file that it finds settles the matter.

Paths are left behind first: the paths at which the search looks are those of the name of a
settings file in the places on the way up (`candidates_absolutePath`), and asking for one of them
comes to reading the entry of that name in its place (`FileTree.fileIn?`).  What is left is a
search through a list of locations.  It sees nothing of the tree but the files on the way up, so
neither the spelling of the report's path nor any other file can change what it finds.
-/
import FindingsDigest.Proofs.FileTree
import FindingsDigest.Settings.Search
import Mathlib.Data.List.Find

namespace FindingsDigest

open FileTree (absolutePath isAskable mostLinks origin steps)

namespace Settings

lemma isName_fileName : IsName fileName := by decide

/-- The paths at which a search from a location looks are those of the settings files there and
above. -/
lemma candidates_absolutePath {l : Location} (h : l.IsProper) :
    candidates (absolutePath l) = l.upward.map fun up => absolutePath (up ++ [fileName]) := by
  rw [candidates, Path.ancestors_absolutePath h, List.map_map]
  refine List.map_congr_left fun up hup => ?_
  exact Path.join_absolutePath (h.of_prefix (Location.mem_upward.mp hup)) fileName

/-- The settings in the bytes of a settings file. -/
def ofBytes? (bytes : ByteArray) : Option Settings :=
  (String.fromUTF8? bytes).bind ofText?

/-- Why a settings file is ignored that has no settings in its bytes, given what the TOML reader
says of such texts. -/
def whyIgnored (refusal : String → String) (path : String) (bytes : ByteArray) : SettingsError :=
  match String.fromUTF8? bytes with
  | none => .unreadable path .notText
  | some text => .invalid path (refusal text)

end Settings

namespace Disk

variable {d : Disk} {path : String}

lemma isFile_iff : d.isFile path = true ↔ ∃ bytes, d.lookUp path = .ok (.file bytes) := by
  unfold isFile
  rcases d.lookUp path with fault | (_ | _ | _) <;> simp

/-- What comes of a settings file is told by its bytes. -/
lemma ofFile_settingsFile {bytes : ByteArray} (h : d.lookUp path = .ok (.file bytes)) :
    Settings.ofFile (d.settingsFile path) =
      match Settings.ofBytes? bytes with
      | some settings => .ok settings
      | none => .error (Settings.whyIgnored d.refusal path bytes) := by
  have hread := read_of_lookUp h
  rcases hutf8 : String.fromUTF8? bytes with _ | text
  · simp [Settings.ofFile, settingsFile, hread, Settings.ofBytes?, Settings.whyIgnored, hutf8]
  · rcases htext : Settings.ofText? text with _ | settings <;>
      simp [Settings.ofFile, settingsFile, hread, Settings.ofBytes?, Settings.whyIgnored, hutf8,
        htext]

/-- A path whose absolute path without links is known leads to a place. -/
lemma exists_isPlace_of_canonical? (hd : d.WellFormed) {start : String}
    (h : d.canonical? start = some path) : ∃ l, d.tree.IsPlace l ∧ path = absolutePath l := by
  obtain ⟨l, hl, rfl⟩ := Option.map_eq_some_iff.mp h
  refine ⟨l, ?_, rfl⟩
  rcases hresolve : d.tree.resolveWithin isAskable d.here start with fault | found
  · simp [hresolve, Except.toOption] at hl
  · obtain rfl : found = l := by simpa [hresolve, Except.toOption] using hl
    unfold FileTree.resolveWithin at hresolve
    split at hresolve
    · cases hresolve
    · split at hresolve
      · cases hresolve
      · refine hd.tree.follow_isPlace ?_ hresolve
        unfold origin
        split
        · exact (FileTree.isDirectory_nil _).isPlace
        · exact hd.here.isPlace

/-- The search from a place finds the nearest directory on the way up in which the name of a
settings file leads to a file. -/
lemma find?_candidates (h : d.tree.WellFormed) {l : Location} (hl : d.tree.IsPlace l) :
    (Settings.candidates (absolutePath l)).find? d.isFile =
      (l.upward.find? fun up => (d.tree.fileIn? up Settings.fileName).isSome).map
        fun up => absolutePath (up ++ [Settings.fileName]) := by
  rw [Settings.candidates_absolutePath (h.isProper_of_isPlace hl), List.find?_map]
  congr 1
  refine List.find?_congr fun up hup => ?_
  have hplace : d.tree.IsPlace up := h.isPlace_of_prefix hl (Location.mem_upward.mp hup)
  rw [Bool.eq_iff_iff, Function.comp_apply, isFile_iff, Option.isSome_iff_exists]
  exact exists_congr fun bytes => lookUp_absolutePath_eq_file_iff h hplace Settings.isName_fileName

/-- What the search finds from a place, and the settings that come of it. -/
lemma findSettings?_of_canonical? (h : d.tree.WellFormed) {report : String} {l : Location}
    (hl : d.tree.IsPlace l)
    (hstart : d.canonical? (Settings.searchStart report) = some (absolutePath l)) :
    d.findSettings? report =
        (l.upward.find? fun up => (d.tree.fileIn? up Settings.fileName).isSome).map
          (fun up => absolutePath (up ++ [Settings.fileName])) ∧
      d.settings? report =
        (l.upward.findSome? fun up => d.tree.fileIn? up Settings.fileName).bind
          Settings.ofBytes? := by
  have hsearch : d.findSettings? report =
      (Settings.candidates (absolutePath l)).find? d.isFile := by
    rw [findSettings?, hstart]
    rfl
  have hfind := hsearch.trans (find?_candidates h hl)
  refine ⟨hfind, ?_⟩
  rw [settings?, settingsFile?, hfind]
  rcases hfirst : l.upward.find? fun up => (d.tree.fileIn? up Settings.fileName).isSome with _ | up
  · have hnone : l.upward.findSome? (fun up => d.tree.fileIn? up Settings.fileName) = none :=
      List.findSome?_eq_none_iff.mpr fun up hup => by
        simpa using List.find?_eq_none.mp hfirst up hup
    rw [hnone]
    rfl
  · obtain ⟨hsome, nearer, farther, hway, hnearer⟩ := List.find?_eq_some_iff_append.mp hfirst
    obtain ⟨bytes, hbytes⟩ := Option.isSome_iff_exists.mp hsome
    have hfirst' :
        l.upward.findSome? (fun up => d.tree.fileIn? up Settings.fileName) = some bytes :=
      List.findSome?_eq_some_iff.mpr
        ⟨nearer, up, farther, hway, hbytes, fun lower hlower => by simpa using hnearer lower hlower⟩
    have hup : up <+: l := Location.mem_upward.mp (by simp [hway])
    have hfile : d.lookUp (absolutePath (up ++ [Settings.fileName])) = .ok (.file bytes) :=
      (lookUp_absolutePath_eq_file_iff h (h.isPlace_of_prefix hl hup)
        Settings.isName_fileName).mpr hbytes
    rw [hfirst', Option.map_some, Option.map_some, Option.bind_some, Option.bind_some,
      ofFile_settingsFile hfile]
    rcases Settings.ofBytes? bytes with _ | settings <;> rfl

/-- A settings file in the working directory is the nearest one to a report there. -/
lemma findSettings?_of_file_here (hd : d.WellFormed) {report : String} {bytes : ByteArray}
    (hstart : Settings.searchStart report = ".")
    (hfile : d.tree.fileIn? d.here Settings.fileName = some bytes) :
    d.findSettings? report = some (absolutePath (d.here ++ [Settings.fileName])) ∧
      d.settings? report = Settings.ofBytes? bytes := by
  have hcanonical : d.canonical? (Settings.searchStart report) = some (absolutePath d.here) := by
    rw [hstart, canonical?_point hd]
  obtain ⟨hfind, hsettings⟩ := findSettings?_of_canonical? hd.tree hd.here.isPlace hcanonical
  obtain ⟨above, hway⟩ := Location.exists_upward_eq_cons d.here
  exact ⟨by simp [hfind, hway, hfile], by simp [hsettings, hway, hfile]⟩

/-- **The nearest settings file settles the matter.**  Let the path at which the search starts have
an absolute path without links.  Then this is the path of a place, with directories only above it,
and the search goes through these locations from the place up to the root.  It finds the first one
in which the name of a settings file leads to a file, through links if need be; a directory of that
name, a link that leads nowhere and links in a circle are passed over.  The settings are those in
the bytes of that one file: if it is broken there are none, whatever stands further up.  And two
searches with the same absolute path give the same settings if the name leads to the same files on
the way up, however the paths of the reports are written and whatever else the trees hold. -/
theorem settings?_of_nearest_file (hd : d.WellFormed) {report : String}
    (hstart : d.canonical? (Settings.searchStart report) = some path) :
    ∃ l : Location, path = absolutePath l ∧ d.tree.IsPlace l ∧
      (∀ up, up <+: l → up ≠ l → d.tree.IsDirectory up) ∧
      d.findSettings? report =
        (l.upward.find? fun up => (d.tree.fileIn? up Settings.fileName).isSome).map
          (fun up => absolutePath (up ++ [Settings.fileName])) ∧
      d.settings? report =
        (l.upward.findSome? fun up => d.tree.fileIn? up Settings.fileName).bind
          Settings.ofBytes? ∧
      (∀ up bytes, d.tree.fileIn? up Settings.fileName = some bytes ↔
        isAskable (up ++ [Settings.fileName]) = true ∧
          (d.tree.entry? (up ++ [Settings.fileName]) = some (.file bytes) ∨
            ∃ target found, d.tree.entry? (up ++ [Settings.fileName]) = some (.link target) ∧
              d.tree.follow (fun _ => true) (mostLinks - 1) (origin up target) (steps target) =
                .ok found ∧
              d.tree.entry? found = some (.file bytes))) ∧
      ∀ (d' : Disk) (report' : String), d'.WellFormed →
        d'.canonical? (Settings.searchStart report') = some path →
        (∀ up, up <+: l → d'.tree.fileIn? up Settings.fileName =
          d.tree.fileIn? up Settings.fileName) →
        d'.settings? report' = d.settings? report := by
  obtain ⟨l, hl, rfl⟩ := exists_isPlace_of_canonical? hd hstart
  obtain ⟨hfind, hsettings⟩ := findSettings?_of_canonical? hd.tree hl hstart
  refine ⟨l, rfl, hl, fun up => hd.tree.isDirectory_of_prefix hl, hfind, hsettings,
    fun up bytes => hd.tree.fileIn?_eq_some_iff Settings.isName_fileName, ?_⟩
  intro d' report' hd' hstart' hagree
  obtain ⟨l', hl', hpath⟩ := exists_isPlace_of_canonical? hd' hstart'
  obtain rfl : l = l' := Path.absolutePath_injective (hd.tree.isProper_of_isPlace hl)
    (hd'.tree.isProper_of_isPlace hl') hpath
  have hfiles : l.upward.map (fun up => d'.tree.fileIn? up Settings.fileName) =
      l.upward.map (fun up => d.tree.fileIn? up Settings.fileName) :=
    List.map_congr_left fun up hup => hagree up (Location.mem_upward.mp hup)
  have hfirst : ∀ files : Location → Option ByteArray,
      l.upward.findSome? files = (l.upward.map files).findSome? id := by
    intro files
    rw [List.findSome?_map, Function.id_comp]
  rw [hsettings, (findSettings?_of_canonical? hd'.tree hl' hstart').2, hfirst, hfiles, ← hfirst]

/-- A tree with a link into another branch, where the nearest entries with the name of a settings
file are a directory and a link that leads nowhere. -/
def branchesExample : FileTree :=
  ⟨[(["w"], .directory), (["w", "in"], .link "../p/q/r"),
    (["w", ".misra-summary.toml"], .file "output.color = false".toUTF8),
    (["p"], .directory), (["p", ".misra-summary.toml"], .link "narrow"),
    (["p", "narrow"], .file "[output]\ncolumn_width = 40\n".toUTF8),
    (["p", "q"], .directory), (["p", "q", ".misra-summary.toml"], .link "nowhere"),
    (["p", "q", "r"], .directory), (["p", "q", "r", ".misra-summary.toml"], .directory),
    ([".misra-summary.toml"], .file "[output".toUTF8)]⟩

/-- The same tree with a working directory. -/
abbrev branchesAt (here : Location) : Disk :=
  ⟨branchesExample, here, fun _ => "TOML parse error"⟩

/-- Both through the link and through points, one comes to the same directory. -/
lemma canonical?_branchesExample :
    (branchesAt ["w"]).canonical? "in" = some "/p/q/r" ∧
      (branchesAt ["p"]).canonical? "./q//../q/r" = some "/p/q/r" := by
  have hroot : branchesExample.entry? [] = some .directory := rfl
  have hw : branchesExample.entry? ["w"] = some .directory := rfl
  have hin : branchesExample.entry? ["w", "in"] = some (.link "../p/q/r") := rfl
  have hp : branchesExample.entry? ["p"] = some .directory := rfl
  have hpq : branchesExample.entry? ["p", "q"] = some .directory := rfl
  have hpqr : branchesExample.entry? ["p", "q", "r"] = some .directory := rfl
  have hlink : FileTree.steps "in" = ["in"] := by decide
  have htarget : FileTree.steps "../p/q/r" = ["..", "p", "q", "r"] := by decide
  have hpoints : FileTree.steps "./q//../q/r" = [".", "q", "..", "q", "r"] := by decide
  have hthrough : branchesExample.resolveWithin isAskable ["w"] "in" = .ok ["p", "q", "r"] := by
    simp +decide [FileTree.resolveWithin, hlink, htarget, FileTree.follow, hroot, hw, hin, hp, hpq,
      hpqr, origin, mostLinks]
  have haround : branchesExample.resolveWithin isAskable ["p"] "./q//../q/r" =
      .ok ["p", "q", "r"] := by
    simp +decide [FileTree.resolveWithin, hpoints, FileTree.follow, hp, hpq, hpqr, origin,
      mostLinks]
  rw [canonical?, canonical?, hthrough, haround]
  decide

/-- On the way up from there the name leads nowhere twice, then to a file. -/
lemma fileIn?_branchesExample :
    branchesExample.fileIn? ["p", "q", "r"] Settings.fileName = none ∧
      branchesExample.fileIn? ["p", "q"] Settings.fileName = none ∧
      branchesExample.fileIn? ["p"] Settings.fileName =
        some "[output]\ncolumn_width = 40\n".toUTF8 := by
  have hp : branchesExample.entry? ["p"] = some .directory := rfl
  have hpq : branchesExample.entry? ["p", "q"] = some .directory := rfl
  have hpqr : branchesExample.entry? ["p", "q", "r"] = some .directory := rfl
  refine ⟨?_, ?_, ?_⟩
  · have hentry : branchesExample.entry? ["p", "q", "r", Settings.fileName] = some .directory := rfl
    simp +decide [FileTree.fileIn?, FileTree.follow, hpqr, hentry, Except.toOption]
  · have hentry : branchesExample.entry? ["p", "q", Settings.fileName] = some (.link "nowhere") :=
      rfl
    have hnone : branchesExample.entry? ["p", "q", "nowhere"] = none := rfl
    have hlink : FileTree.steps "nowhere" = ["nowhere"] := by decide
    simp +decide [FileTree.fileIn?, FileTree.follow, hpq, hentry, hlink, hnone, origin, mostLinks,
      Except.toOption]
  · have hentry : branchesExample.entry? ["p", Settings.fileName] = some (.link "narrow") := rfl
    have hfile : branchesExample.entry? ["p", "narrow"] =
        some (.file "[output]\ncolumn_width = 40\n".toUTF8) := rfl
    have hlink : FileTree.steps "narrow" = ["narrow"] := by decide
    simp +decide [FileTree.fileIn?, FileTree.follow, hp, hentry, hlink, hfile, origin, mostLinks,
      Except.toOption]

/-- Behind a link the way up is that of the directory it leads to, and so it is for a path through
points. -/
theorem settings?_behind_link :
    (branchesAt ["w"]).WellFormed ∧
      (branchesAt ["w"]).canonical? (Settings.searchStart "in/r") =
        some "/p/q/r" ∧
      (branchesAt ["w"]).findSettings? "in/r" = some "/p/.misra-summary.toml" ∧
      (branchesAt ["w"]).settings? "in/r" = some ⟨true, 40⟩ ∧
      (branchesAt ["p"]).settings? "./q//../q/r/x" = some ⟨true, 40⟩ := by
  have htree : branchesExample.WellFormed := ⟨by decide, by decide⟩
  have hd : (branchesAt ["w"]).WellFormed := ⟨htree, by decide⟩
  have hd' : (branchesAt ["p"]).WellFormed := ⟨htree, by decide⟩
  have hparent : Settings.searchStart "in/r" = "in" := by decide
  have hparent' : Settings.searchStart "./q//../q/r/x" = "./q//../q/r" := by decide
  obtain ⟨hstart, hstart'⟩ := canonical?_branchesExample
  rw [← hparent] at hstart
  rw [← hparent'] at hstart'
  obtain ⟨l, hpath, hl, -, hfind, hsettings, -, hsame⟩ := settings?_of_nearest_file hd hstart
  obtain rfl : l = ["p", "q", "r"] :=
    Path.absolutePath_injective (htree.isProper_of_isPlace hl) (by decide) hpath.symm
  obtain ⟨hdirectory, hnowhere, hnarrow⟩ := fileIn?_branchesExample
  have hway : Location.upward ["p", "q", "r"] = [["p", "q", "r"], ["p", "q"], ["p"], []] := by
    decide
  have hfound : absolutePath ["p", Settings.fileName] = "/p/.misra-summary.toml" := by decide
  have hwidth : (branchesAt ["w"]).settings? "in/r" = some ⟨true, 40⟩ := by
    rw [hsettings, hway]
    simp only [List.findSome?_cons, hdirectory, hnowhere, hnarrow, Option.bind_some]
    decide +kernel
  refine ⟨hd, hstart, ?_, hwidth, (hsame _ _ hd' hstart' fun _ _ => rfl).trans hwidth⟩
  simp [hfind, hway, hdirectory, hnowhere, hnarrow, hfound]

end Disk

end FindingsDigest
