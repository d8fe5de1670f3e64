/-
# Broken settings

A settings file that cannot be read as text, that is no TOML document, or that binds one of the two
settings to a wrong value is ignored as a whole: the run ends as it ends without any settings file
(`SettingsFile.IsIgnored.run_ending_eq`), and warns before.  A good setting beside a wrong one has
no effect, and neither has a good file further up.  All this holds whatever the fault is by which
the file cannot be read, also of faults that files on a tree do not have.

What breaks a file is said without reading it: each cause is enough (`Settings.Breaks`), whatever
else the file holds.  That the reader gives no settings exactly then is shown from the settings
outwards, over the values of a document, its table, and the bytes (`ofBytes?_eq_none_iff`).
-/
import FindingsDigest.Proofs.Log
import FindingsDigest.Proofs.Memory
import FindingsDigest.Proofs.Options

namespace FindingsDigest

open Toml (Value Entries)

/-! ### What breaks a settings file -/

/-- The value that `output` has for a setting: by its key in a table, by its position in an
array. -/
def Toml.Value.setting? (v : Value) (key : String) (position : ℕ) : Option Value :=
  match v with
  | .table _ es => es.lookup key
  | .array items => items[position]?
  | _ => none

namespace Settings

/-- Whether the value of `output` breaks a settings file.  Each cause is enough, whatever else the
value holds: it is of the wrong kind, a number in it cannot be held, or one of the two settings is
of the wrong kind or out of range. -/
inductive BreaksOutput : Value → Prop where
  | kind {v : Value} (htable : ∀ origin es, v ≠ .table origin es)
    (harray : ∀ items, v ≠ .array items) (hmoment : v ≠ .moment) : BreaksOutput v
  | number {origin : Toml.Origin} {es : Entries} (h : Toml.entriesRepresentable es = false) :
    BreaksOutput (.table origin es)
  | color {v c : Value} (hc : v.setting? "color" 0 = some c) (h : ∀ b, c ≠ .boolean b) :
    BreaksOutput v
  | width {v w : Value} (hw : v.setting? "column_width" 1 = some w)
    (h : ∀ n : ℕ, n < UInt64.size → w ≠ .integer n) : BreaksOutput v

/-- Whether bytes break a settings file: they are not UTF-8, their text is not a TOML document, a
number in the document cannot be held, or the value of `output` breaks it. -/
inductive Breaks (bytes : ByteArray) : Prop where
  | bytes (h : String.fromUTF8? bytes = none)
  | document {text : String} (htext : String.fromUTF8? bytes = some text)
    (h : Toml.document? text.toList = none)
  | number {text : String} {es : Entries} (htext : String.fromUTF8? bytes = some text)
    (hes : Toml.document? text.toList = some es)
    (h : Toml.entriesRepresentable (es.filter (·.1 ≠ "output")) = false)
  | output {text : String} {es : Entries} {v : Value} (htext : String.fromUTF8? bytes = some text)
    (hes : Toml.document? text.toList = some es) (hv : es.lookup "output" = some v)
    (h : BreaksOutput v)

lemma boolean?_eq_none_iff {fallback : Bool} {v : Option Value} :
    boolean? fallback v = none ↔ ∃ c, v = some c ∧ ∀ b, c ≠ .boolean b := by
  rcases v with _ | (_ | _ | _ | _ | _ | _ | _ | _ | _) <;> simp [boolean?]

lemma width?_eq_none_iff {fallback : ℕ} {v : Option Value} :
    width? fallback v = none ↔ ∃ w, v = some w ∧ ∀ n : ℕ, n < UInt64.size → w ≠ .integer n := by
  rcases v with _ | (_ | n | _ | _ | _ | _ | _ | _ | _)
  case some.integer =>
    have hrange : width? fallback (some (.integer n)) = none ↔ ¬ (0 ≤ n ∧ n < UInt64.size) := by
      simp [width?]
    rw [hrange]
    constructor
    · intro h
      refine ⟨.integer n, rfl, fun m hm hn => h ?_⟩
      obtain rfl := Value.integer.inj hn
      omega
    · rintro ⟨w, hw, hall⟩ hn
      obtain rfl := Option.some.inj hw
      exact hall n.toNat (by omega) (by rw [Int.toNat_of_nonneg hn.1])
  all_goals simp [width?]

lemma ofValues?_eq_none_iff {color width : Option Value} :
    ofValues? color width = none ↔ boolean? ({} : Settings).color color = none ∨
      width? ({} : Settings).columnWidth width = none := by
  unfold ofValues?
  rcases boolean? ({} : Settings).color color with _ | b
  · simp
  · rcases width? ({} : Settings).columnWidth width with _ | n <;> simp

lemma ofOutput?_eq_none_iff {v : Value} : ofOutput? v = none ↔ BreaksOutput v := by
  constructor
  · intro h
    -- a table and an array break the file by one of the two settings
    have hvalues : ofValues? (v.setting? "color" 0) (v.setting? "column_width" 1) = none →
        BreaksOutput v := by
      rw [ofValues?_eq_none_iff, boolean?_eq_none_iff, width?_eq_none_iff]
      rintro (⟨c, hc, hall⟩ | ⟨w, hw, hall⟩)
      · exact .color hc hall
      · exact .width hw hall
    cases v with
    | table origin es =>
      simp only [ofOutput?] at h
      split at h
      · exact hvalues h
      · next hes => exact .number (by simpa using hes)
    | array items => exact hvalues h
    | moment => cases h
    | _ => exact .kind (by simp) (by simp) (by simp)
  · intro h
    have hvalues : ofValues? (v.setting? "color" 0) (v.setting? "column_width" 1) = none →
        ofOutput? v = none := by
      intro h
      cases v with
      | table origin es =>
        simp only [ofOutput?]
        split
        · exact h
        · rfl
      | array items => exact h
      | _ => simp [Value.setting?, ofValues?, boolean?, width?] at h
    rw [ofValues?_eq_none_iff, boolean?_eq_none_iff, width?_eq_none_iff] at hvalues
    cases h with
    | kind htable harray hmoment =>
      cases v with
      | table origin es => exact absurd rfl (htable origin es)
      | array items => exact absurd rfl (harray items)
      | moment => exact absurd rfl hmoment
      | _ => rfl
    | number h => simp [ofOutput?, h]
    | color hc h => exact hvalues (Or.inl ⟨_, hc, h⟩)
    | width hw h => exact hvalues (Or.inr ⟨_, hw, h⟩)

lemma ofEntries?_eq_none_iff {es : Entries} :
    ofEntries? es = none ↔ Toml.entriesRepresentable (es.filter (·.1 ≠ "output")) = false ∨
      ∃ v, es.lookup "output" = some v ∧ BreaksOutput v := by
  unfold ofEntries?
  generalize Toml.entriesRepresentable (es.filter (·.1 ≠ "output")) = held
  cases held with
  | false => simp
  | true => rcases es.lookup "output" with _ | v <;> simp [ofOutput?_eq_none_iff]

/-- Bytes without settings break the settings file, and no others do. -/
lemma ofBytes?_eq_none_iff {bytes : ByteArray} : ofBytes? bytes = none ↔ Breaks bytes := by
  unfold ofBytes?
  constructor
  · intro h
    rcases htext : String.fromUTF8? bytes with _ | text
    · exact .bytes htext
    · rw [htext, Option.bind_some, ofText?] at h
      rcases hes : Toml.document? text.toList with _ | es
      · exact .document htext hes
      · rw [hes, Option.bind_some, ofEntries?_eq_none_iff] at h
        rcases h with hnumber | ⟨v, hv, houtput⟩
        · exact .number htext hes hnumber
        · exact .output htext hes hv houtput
  · intro h
    cases h with
    | bytes h => simp [h]
    | document htext h => simp [htext, ofText?, h]
    | number htext hes h =>
      simpa [htext, ofText?, hes] using ofEntries?_eq_none_iff.mpr (Or.inl h)
    | output htext hes hv h =>
      simpa [htext, ofText?, hes] using ofEntries?_eq_none_iff.mpr (Or.inr ⟨_, hv, h⟩)

end Settings

/-! ### Files that are ignored -/

/-- Whether a settings file is ignored, and why: it cannot be read, or its text gives no settings
and the TOML reader says of what kind it is. -/
inductive SettingsFile.IsIgnored (file : SettingsFile) : String → Prop where
  | unreadable {fault : Fault} {words : String} (hread : file.text = .error fault)
    (h : fault.Says words) : IsIgnored file ("could not read " ++ file.path ++ ": " ++ words)
  | invalid {text : String} (htext : file.text = .ok text)
    (hnone : Settings.ofText? text = none) :
    IsIgnored file ("could not parse " ++ file.path ++ ": " ++ file.refusal text)

variable {o : Options}

namespace SettingsFile

variable {file : SettingsFile} {reason : String}

lemma isIgnored_iff : file.IsIgnored reason ↔
    ∃ e, Settings.ofFile file = .error e ∧ e.explanation = reason := by
  constructor
  · intro h
    cases h with
    | unreadable hread h =>
      obtain rfl := Fault.says_iff.mp h
      exact ⟨.unreadable file.path _, by rw [Settings.ofFile, hread], rfl⟩
    | @invalid text htext hnone =>
      exact ⟨.invalid file.path (file.refusal text), by simp only [Settings.ofFile, htext, hnone],
        rfl⟩
  · rintro ⟨e, he, rfl⟩
    rcases htext : file.text with fault | text
    · obtain rfl : .unreadable file.path fault = e := by simpa [Settings.ofFile, htext] using he
      exact .unreadable htext (Fault.says_iff.mpr rfl)
    · rcases hnone : Settings.ofText? text with _ | settings
      · obtain rfl : .invalid file.path (file.refusal text) = e := by
          simpa [Settings.ofFile, htext, hnone] using he
        exact .invalid htext hnone
      · simp [Settings.ofFile, htext, hnone] at he

namespace IsIgnored

variable (h : file.IsIgnored reason)
include h

lemma chosen : file.chosen = {} := by
  obtain ⟨e, he, -⟩ := isIgnored_iff.mp h
  rw [SettingsFile.chosen, he]
  rfl

lemma warnings : file.warnings = [⟨.warn, "Ignoring " ++ file.path ++ ": " ++ reason⟩] := by
  obtain ⟨e, he, rfl⟩ := isIgnored_iff.mp h
  simp only [SettingsFile.warnings, he]

variable {s s' : Surroundings} (hfile : s.settings = some file)
include hfile

lemma warnings_surroundings (hconfig : o.noConfig = false) :
    s.warnings o = [⟨.warn, "Ignoring " ++ file.path ++ ": " ++ reason⟩] := by
  rw [Surroundings.warnings, Surroundings.settingsFile?, hconfig, hfile]
  exact h.warnings

variable (hreport : s'.report = s.report)
  (hcolor : s'.noColor = s.noColor)
include hreport hcolor

/-- A run that ignores a file ends like one that looks for none. -/
lemma run_ending_eq : (run o s).ending = (run (o.withFlag .noConfig) s').ending := by
  have hsettings : s.chosenSettings o = s'.chosenSettings (o.withFlag .noConfig) := by
    have hnone : s'.chosenSettings (o.withFlag .noConfig) = {} := rfl
    rw [hnone, Surroundings.chosenSettings, Surroundings.settingsFile?, hfile]
    split <;> simp [h.chosen]
  have hcolors : s.chosenColor o = s'.chosenColor (o.withFlag .noConfig) := by
    rw [Surroundings.chosenColor, Surroundings.chosenColor, hsettings, hcolor]
    rfl
  rw [run_ending_eq_ofRead, run_ending_eq_ofRead, hsettings, hcolors, hreport]
  rfl

/-- What leaves a run that ignores a file differs from what leaves one that looks for none by a
warning in front. -/
lemma printedInMemory_run (hconfig : o.noConfig = false) (color : Bool) :
    let p := (run o s).printedInMemory o.level color
    let p' := (run (o.withFlag .noConfig) s').printedInMemory (o.withFlag .noConfig).level color
    p.output = p'.output ∧ p.exitCode = p'.exitCode ∧
      (o.verbose = false → o.quiet = false →
        p.diagnostics = (if color then "\x1b[33m WARN\x1b[0m " else " WARN ") ++
          Note.shown ("Ignoring " ++ file.path ++ ": " ++ reason) ++ "\n" ++ p'.diagnostics) := by
  intro p p'
  have hend : (run o s).ending = (run (o.withFlag .noConfig) s').ending :=
    h.run_ending_eq hfile hreport hcolor
  refine ⟨congrArg (·.inMemory.output) hend, congrArg (·.inMemory.exitCode) hend,
    fun hverbose hquiet => ?_⟩
  have hnone : Note.upTo (o.withFlag .noConfig).level (run (o.withFlag .noConfig) s').notes = [] :=
    upTo_level_notes hverbose hquiet
  simp only [p, p', Outcome.printedInMemory, upTo_level_notes hverbose hquiet,
    h.warnings_surroundings hfile hconfig, hnone, hend, Note.lines_singleton, Note.lines_nil,
    Note.line_warn, String.empty_append]

end IsIgnored

end SettingsFile

/-- A run does not warn if it looks for no settings file, or finds none, or reads the one it
finds. -/
lemma Surroundings.warnings_eq_nil_iff {s : Surroundings} : s.warnings o = [] ↔
    o.noConfig = true ∨ ∀ file, s.settings = some file →
      ∃ settings, Settings.ofFile file = .ok settings := by
  rw [Surroundings.warnings, Surroundings.settingsFile?]
  by_cases hconfig : o.noConfig = true
  · simp [hconfig]
  · rcases s.settings with _ | file
    · simp [hconfig]
    · rcases hfile : Settings.ofFile file with e | settings <;>
        simp [hconfig, SettingsFile.warnings, hfile]

namespace Disk

/-! ### Runs that meet a broken file -/

/-- Whether the nearest settings file of a report is broken. -/
structure HasBrokenSettings (d : Disk) (report path : String) (bytes : ByteArray) : Prop where
  nearest : d.findSettings? report = some path
  file : d.lookUp path = .ok (.file bytes)
  breaks : Settings.Breaks bytes

variable {d : Disk} {noColor : Option String} {path : String} {bytes : ByteArray}

lemma HasBrokenSettings.settingsFile? {report : String}
    (h : d.HasBrokenSettings report path bytes) :
    d.settingsFile? report = some (d.settingsFile path) ∧
      ∃ reason, (d.settingsFile path).IsIgnored reason := by
  have herror : Settings.ofFile (d.settingsFile path) =
      .error (Settings.whyIgnored d.refusal path bytes) := by
    rw [ofFile_settingsFile h.file, Settings.ofBytes?_eq_none_iff.mpr h.breaks]
  exact ⟨by rw [Disk.settingsFile?, h.nearest, Option.map_some], _,
    SettingsFile.isIgnored_iff.mpr ⟨_, herror, rfl⟩⟩

/-- Nothing of a broken file is used, and nothing of another file. -/
lemma HasBrokenSettings.usedSettings (h : d.HasBrokenSettings o.report path bytes) :
    d.usedSettings o = {} := by
  obtain ⟨hfile, reason, hreason⟩ := h.settingsFile?
  obtain ⟨e, he, -⟩ := SettingsFile.isIgnored_iff.mp hreason
  simp [Disk.usedSettings, settings?, hfile, he, Except.toOption]

lemma HasBrokenSettings.warnings (h : d.HasBrokenSettings o.report path bytes)
    (hconfig : o.noConfig = false) : ∃ reason, (d.settingsFile path).IsIgnored reason ∧
      (d.surroundings noColor o).warnings o = [⟨.warn, "Ignoring " ++ path ++ ": " ++ reason⟩] := by
  obtain ⟨hfile, reason, hreason⟩ := h.settingsFile?
  have hsettings : (d.surroundings noColor o).settings = some (d.settingsFile path) := hfile
  exact ⟨reason, hreason, hreason.warnings_surroundings hsettings hconfig⟩

/-- If the nearest settings file is not broken, or none is looked for, there is no warning. -/
lemma warnings_eq_nil
    (h : o.noConfig = true ∨ ∀ path bytes, ¬ d.HasBrokenSettings o.report path bytes) :
    (d.surroundings noColor o).warnings o = [] := by
  refine Surroundings.warnings_eq_nil_iff.mpr (h.imp_right fun hnone file hfile => ?_)
  obtain ⟨path, hnearest, rfl⟩ := Option.map_eq_some_iff.mp hfile
  obtain ⟨bytes, hfile⟩ := isFile_iff.mp (List.find?_some hnearest)
  rcases hbytes : Settings.ofBytes? bytes with _ | settings
  · exact absurd ⟨hnearest, hfile, Settings.ofBytes?_eq_none_iff.mp hbytes⟩ (hnone path bytes)
  · exact ⟨settings, by simp [ofFile_settingsFile hfile, hbytes]⟩

lemma ite_asksNoColor (colored plain : String) :
    (if (!asksNoColor noColor) = true then colored else plain) =
      if noColor = none ∨ noColor = some "" then colored else plain := by
  simp [← asksNoColor_eq_false_iff]

/-- The default width always fits into memory. -/
lemma performInMemory_eq_perform {arguments : List String} (h : Options.parse arguments = .ok o)
    (hused : d.usedSettings o = {}) :
    d.performInMemory noColor arguments = d.perform noColor arguments := by
  obtain ⟨-, hcode, hsame, -⟩ := d.performInMemory_breaks_off noColor h
  refine hsame fun h101 => ?_
  obtain ⟨-, text, -, line, -, hwide⟩ := hcode.mp h101
  have hdefault : ({} : Settings).columnWidth ≤ longestRow := by decide
  rw [hused, Page.padding_eq] at hwide
  omega

/-- **A broken settings file is ignored as a whole.**  Let the nearest settings file of a run be
broken, for whatever cause.  Then the option that leaves settings files out may be added anywhere
in front of two dashes alone, and with it the program prints the same and exits with the same code;
this holds even on another tree, as long as the report reads the same, so no other settings file
takes the place of the broken one.  What is told differs, at the usual level, by one warning in
front, which names the file and the reason.  The page of such a run always fits into memory.  The
same is true in any surroundings in which the settings file is ignored, whatever the fault. -/
theorem broken_settings_ignored (d : Disk) (noColor : Option String) {arguments : List String}
    {o : Options} (h : Options.parse arguments = .ok o) (hconfig : o.noConfig = false)
    {path : String} {bytes : ByteArray} (hbroken : d.HasBrokenSettings o.report path bytes) :
    d.usedSettings o = {} ∧
      d.performInMemory noColor arguments = d.perform noColor arguments ∧
      (∀ before after, arguments = before ++ after → "--" ∉ before →
        Options.parse (before ++ "--no-config" :: after) = .ok (o.withFlag .noConfig)) ∧
      (∀ (d' : Disk) (arguments' : List String),
        Options.parse arguments' = .ok (o.withFlag .noConfig) →
        d'.read o.report = d.read o.report →
        let p := d.performInMemory noColor arguments
        let p' := d'.performInMemory noColor arguments'
        p.output = p'.output ∧ p.exitCode = p'.exitCode ∧
          (o.verbose = false → o.quiet = false →
            ∃ reason, (d.settingsFile path).IsIgnored reason ∧
              p.diagnostics =
                (if noColor = none ∨ noColor = some "" then "\x1b[33m WARN\x1b[0m "
                  else " WARN ") ++ Note.shown ("Ignoring " ++ path ++ ": " ++ reason) ++ "\n" ++
                    p'.diagnostics)) ∧
      (∀ text : String, (∀ c ∈ text.toList, ¬ Note.IsControl c) → Note.shown text = text) ∧
      ∀ (s : Surroundings) (file : SettingsFile) (reason : String), s.settings = some file →
        file.IsIgnored reason →
        let p := (FindingsDigest.run o s).printedInMemory o.level (!s.noColor)
        let p' := (FindingsDigest.run (o.withFlag .noConfig) s).printedInMemory
          (o.withFlag .noConfig).level (!s.noColor)
        p.output = p'.output ∧ p.exitCode = p'.exitCode ∧
          (o.verbose = false → o.quiet = false →
            p.diagnostics = (if !s.noColor then "\x1b[33m WARN\x1b[0m " else " WARN ") ++
              Note.shown ("Ignoring " ++ file.path ++ ": " ++ reason) ++ "\n" ++
                p'.diagnostics) := by
  obtain ⟨hfile, reason, hreason⟩ := hbroken.settingsFile?
  refine ⟨hbroken.usedSettings, performInMemory_eq_perform h hbroken.usedSettings,
    fun before after harguments hdashes => ?_, fun d' arguments' h' hread => ?_,
    fun text => Note.shown_eq_self,
    fun s file reason hs h => h.printedInMemory_run hs rfl rfl hconfig _⟩
  · have hspelling : "--no-config" ∈ Options.spellings .noConfig := by simp [Options.spellings]
    exact Options.parse_insert (harguments ▸ h) hdashes hspelling hconfig (Options.parse_eq_ok h).2
  · have hsettings : (d.surroundings noColor o).settings = some (d.settingsFile path) := hfile
    have hreport : (d'.surroundings noColor (o.withFlag .noConfig)).report =
        (d.surroundings noColor o).report := hread
    obtain ⟨houtput, hexit, htold⟩ := hreason.printedInMemory_run hsettings hreport rfl hconfig
      (!asksNoColor noColor)
    rw [performInMemory, performInMemory, h, h']
    refine ⟨houtput, hexit, fun hverbose hquiet => ⟨reason, hreason, ?_⟩⟩
    rw [← ite_asksNoColor]
    exact htold hverbose hquiet

/-- What the TOML reader says of the second setting below. -/
def wrongWidth : String :=
  "TOML parse error at line 1, column 18\n  |\n1 | output = [false, -1]\n" ++
    "  |                  ^^\ninvalid value: integer `-1`, expected usize\n"

/-- Two reports beside settings of which the second is wrong, below settings that are right. -/
def brokenExample : Disk :=
  ⟨⟨[(["w"], .directory), (["w", "r"], .file "a:1:x\nb:2\n".toUTF8),
    (["w", "s"], .file "a:1:x\n".toUTF8),
    (["w", ".misra-summary.toml"], .file "output = [false, -1]".toUTF8),
    ([".misra-summary.toml"], .file "output.column_width = 20".toUTF8)]⟩, ["w"],
    fun _ => wrongWidth⟩

lemma wellFormed_brokenExample : brokenExample.WellFormed :=
  ⟨⟨by decide, by decide⟩, by decide⟩

lemma hasBrokenSettings_brokenExample {report : String}
    (hstart : Settings.searchStart report = ".") :
    brokenExample.HasBrokenSettings report "/w/.misra-summary.toml"
      "output = [false, -1]".toUTF8 := by
  have hd := wellFormed_brokenExample
  have hfile : brokenExample.tree.fileIn? ["w"] Settings.fileName =
      some "output = [false, -1]".toUTF8 :=
    (hd.tree.fileIn?_eq_some_iff Settings.isName_fileName).mpr ⟨by decide, Or.inl rfl⟩
  have hpath : FileTree.absolutePath ["w", Settings.fileName] = "/w/.misra-summary.toml" := by
    decide
  have hnearest := (findSettings?_of_file_here hd hstart hfile).1
  have hlookUp := (lookUp_absolutePath_eq_file_iff hd.tree hd.here.isPlace
    Settings.isName_fileName).mpr hfile
  rw [← hpath]
  exact ⟨hnearest, hlookUp, Settings.ofBytes?_eq_none_iff.mp (by decide +kernel)⟩

/-- The file is a text, so only the TOML reader can refuse it. -/
lemma isIgnored_brokenExample {reason : String}
    (h : (brokenExample.settingsFile "/w/.misra-summary.toml").IsIgnored reason) :
    reason = "could not parse " ++ "/w/.misra-summary.toml" ++ ": " ++ wrongWidth := by
  have hbroken : brokenExample.HasBrokenSettings "s" "/w/.misra-summary.toml"
      "output = [false, -1]".toUTF8 := hasBrokenSettings_brokenExample (by decide)
  have hread : brokenExample.read "/w/.misra-summary.toml" = .ok "output = [false, -1]" :=
    (read_eq_ok_iff _ _ _).mpr ⟨_, hbroken.file, fromUTF8?_toUTF8 _⟩
  cases h with
  | unreadable hfault h => cases hread.symm.trans hfault
  | invalid htext hnone => rfl

/-- The warning about it, as it is written. -/
def wrongWidthWarning : String :=
  "\x1b[33m WARN\x1b[0m Ignoring /w/.misra-summary.toml: could not parse " ++
    "/w/.misra-summary.toml: TOML parse error at line 1, column 18\n  |\n" ++
    "1 | output = [false, -1]\n  |                  ^^\n" ++
    "invalid value: integer `-1`, expected usize\n\n"

lemma shown_brokenExample :
    "\x1b[33m WARN\x1b[0m " ++ Note.shown ("Ignoring " ++ "/w/.misra-summary.toml" ++ ": " ++
        ("could not parse " ++ "/w/.misra-summary.toml" ++ ": " ++ wrongWidth)) ++ "\n" =
      wrongWidthWarning := by
  have hfile : Note.shown ("Ignoring " ++ "/w/.misra-summary.toml" ++ ": ") =
      "Ignoring " ++ "/w/.misra-summary.toml" ++ ": " := by decide +kernel
  have hreason : Note.shown ("could not parse " ++ "/w/.misra-summary.toml" ++ ": ") =
      "could not parse " ++ "/w/.misra-summary.toml" ++ ": " := by decide +kernel
  have hwords : Note.shown wrongWidth = wrongWidth := by decide +kernel
  rw [Note.shown_append, Note.shown_append (_ ++ ": "), hfile, hreason, hwords]
  decide +kernel

/-- The first setting would be right, but the page has colors all the same. -/
theorem broken_settings_ignored_with_good_color :
    Options.parse ["--", "s"] = .ok ⟨"s", false, false, false, false⟩ ∧
      brokenExample.HasBrokenSettings "s" "/w/.misra-summary.toml" "output = [false, -1]".toUTF8 ∧
      brokenExample.PrintsColors none ⟨"s", false, false, false, false⟩ ∧
      (brokenExample.performInMemory none ["--", "s"]).exitCode = 127 ∧
      (brokenExample.performInMemory none ["--", "s"]).output =
        (brokenExample.performInMemory none ["--no-config", "--", "s"]).output ∧
      (brokenExample.performInMemory none ["--", "s"]).diagnostics = wrongWidthWarning := by
  have hparse : Options.parse ["--", "s"] = .ok ⟨"s", false, false, false, false⟩ := rfl
  have hbroken : brokenExample.HasBrokenSettings "s" "/w/.misra-summary.toml"
      "output = [false, -1]".toUTF8 := hasBrokenSettings_brokenExample (by decide)
  have hfile : brokenExample.lookUp "s" = .ok (.file "a:1:x\n".toUTF8) :=
    lookUp_name wellFormed_brokenExample (by decide) rfl
  have hread : brokenExample.read "s" = .ok "a:1:x\n" :=
    (read_eq_ok_iff _ _ _).mpr ⟨_, hfile, fromUTF8?_toUTF8 _⟩
  have hexit : (brokenExample.perform none ["--", "s"]).exitCode = 127 :=
    (brokenExample.perform_endsAs none hparse).found_iff.mpr
      ⟨_, hread, by decide, by decide +kernel⟩
  have hexit' : (brokenExample.perform none ["--no-config", "--", "s"]).exitCode = 127 :=
    (brokenExample.perform_endsAs none rfl).found_iff.mpr
      ⟨_, hread, by decide, by decide +kernel⟩
  obtain ⟨hused, hmemory, hinsert, hsame, -⟩ :=
    broken_settings_ignored brokenExample none hparse rfl hbroken
  obtain ⟨houtput, -, htold⟩ :=
    hsame brokenExample ["--no-config", "--", "s"] (hinsert [] ["--", "s"] rfl (by simp)) rfl
  obtain ⟨reason, hreason, hdiagnostics⟩ := htold rfl rfl
  obtain rfl := isIgnored_brokenExample hreason
  rw [hmemory] at houtput hdiagnostics ⊢
  refine ⟨hparse, hbroken, ⟨by rw [hused], rfl, Or.inl rfl⟩, hexit, houtput, ?_⟩
  have hsilent : (brokenExample.performInMemory none ["--no-config", "--", "s"]).diagnostics =
      "" := by
    have hparse' : Options.parse ["--no-config", "--", "s"] =
        .ok ⟨"s", false, false, false, true⟩ := rfl
    have hcomplaint : brokenExample.complaint none ⟨"s", false, false, false, true⟩ = "" := by
      rw [complaint, Ending.complaint_eq_empty_iff, ← perform_exitCode hparse', hexit']
      decide
    rw [performInMemory_eq_perform hparse' rfl, perform_diagnostics hparse', log_usual rfl rfl,
      hcomplaint]
    rfl
  rw [hdiagnostics, hsilent, String.append_empty]
  exact shown_brokenExample

end Disk

end FindingsDigest
