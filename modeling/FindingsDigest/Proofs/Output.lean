/-
# What standard output hangs on

A run that prints a page is told by three things: the bytes of the report, the width of the
column and whether there are colors.  The width and one say on the colors come from the settings
that the search finds, or from the defaults; an option and the environment may switch the colors
off.  Nothing else leaves a trace on standard output or in the exit code, so two runs that agree
on the three print the same.

The end of a run is written as a function of the three and of the path that a failure names
(`Ending.ofRead`).  Every run is shown to end in this way, whatever tree, options and environment
it has (`run_ending`), and the path only matters to what is told on failure.
-/
import FindingsDigest.Proofs.Run
import FindingsDigest.Proofs.SettingsSearch

namespace FindingsDigest

namespace Ending

/-- The end of a run, given what reading the report at a path came to, the width and whether there
are colors. -/
def ofRead (path : String) (read : Except Fault String) (width : ℕ) (color : Bool) : Ending :=
  match read with
  | .error fault => .failed (.unreadable path fault)
  | .ok text =>
    match (Report.ofText path text).digest with
    | .error m => .failed (.malformed m)
    | .ok digest => .printed (Page.ofDigest width digest) color digest.hasFindings

variable {path : String} {read : Except Fault String} {width : ℕ} {color : Bool}

/-- The path is only told on failure: it changes neither what is printed nor the exit code. -/
lemma output_and_exitCode_ofRead (path path' : String) :
    (ofRead path' read width color).output = (ofRead path read width color).output ∧
      (ofRead path' read width color).exitCode = (ofRead path read width color).exitCode := by
  rcases read with fault | text
  · exact ⟨rfl, rfl⟩
  · have hpath : (Report.ofText path' text).digest = (Report.ofText path text).digest := rfl
    simp only [ofRead, hpath, and_self]

/-- An end with another exit code than 1 prints the page of the digest. -/
lemma exists_digest_of_exitCode
    (h : (ofRead path read width color).exitCode = 0 ∨
      (ofRead path read width color).exitCode = 127) :
    ∃ text digest, read = .ok text ∧ (Report.ofText path text).digest = .ok digest ∧
      (ofRead path read width color).output = (Page.ofDigest width digest).text color := by
  rcases read with fault | text
  · simp [ofRead, exitCode] at h
  · rcases hdigest : (Report.ofText path text).digest with m | digest
    · simp [ofRead, hdigest, exitCode] at h
    · exact ⟨text, digest, rfl, hdigest, by simp only [ofRead, hdigest, output]⟩

end Ending

/-- A run ends as its report, its settings and its colors tell. -/
lemma run_ending_eq_ofRead (o : Options) (s : Surroundings) : (run o s).ending =
    .ofRead o.report s.report (s.chosenSettings o).columnWidth (s.chosenColor o) := by
  unfold run Ending.ofRead
  rcases s.report with fault | text
  · rfl
  · rcases hdigest : (Report.ofText o.report text).digest with m | digest <;>
      simp only [hdigest]

namespace Disk

/-- The settings of a run: those that the search finds, unless it is left out, or the defaults. -/
def usedSettings (d : Disk) (o : Options) : Settings :=
  if o.noConfig then {} else (d.settings? o.report).getD {}

/-- Whether a run prints with colors: the settings, the options and the environment must all allow
it. -/
def PrintsColors (d : Disk) (noColor : Option String) (o : Options) : Prop :=
  (d.usedSettings o).color = true ∧ o.noColor = false ∧ (noColor = none ∨ noColor = some "")

instance (d : Disk) (noColor : Option String) (o : Options) :
    Decidable (d.PrintsColors noColor o) :=
  inferInstanceAs (Decidable (_ ∧ _))

variable {d : Disk} {noColor : Option String} {o : Options}

lemma chosenSettings_surroundings :
    (d.surroundings noColor o).chosenSettings o = d.usedSettings o := by
  unfold Surroundings.chosenSettings Surroundings.settingsFile? usedSettings settings? surroundings
  by_cases hconfig : o.noConfig = true
  · simp [hconfig]
  · rcases hfile : d.settingsFile? o.report with _ | file <;> simp [hconfig, SettingsFile.chosen]

lemma asksNoColor_eq_false_iff :
    asksNoColor noColor = false ↔ noColor = none ∨ noColor = some "" := by
  rcases noColor with _ | value <;> simp [asksNoColor]

lemma chosenColor_surroundings :
    (d.surroundings noColor o).chosenColor o = decide (d.PrintsColors noColor o) := by
  rw [Surroundings.chosenColor, chosenSettings_surroundings, Bool.eq_iff_iff]
  simp [PrintsColors, surroundings, ← asksNoColor_eq_false_iff, and_assoc]

/-- A run ends as its report, the width and the colors tell. -/
lemma run_ending : (d.run noColor o).ending =
    .ofRead o.report (d.read o.report) (d.usedSettings o).columnWidth
      (decide (d.PrintsColors noColor o)) := by
  rw [run, run_ending_eq_ofRead, chosenSettings_surroundings, chosenColor_surroundings]
  rfl

lemma perform_exitCode {arguments : List String} (h : Options.parse arguments = .ok o) :
    (d.perform noColor arguments).exitCode = (d.run noColor o).ending.exitCode := by
  rw [perform, h]
  rfl

lemma perform_output {arguments : List String} (h : Options.parse arguments = .ok o) :
    (d.perform noColor arguments).output = (d.run noColor o).ending.output := by
  rw [perform, h]
  rfl

/-- **Standard output hangs on the report and its look alone.**  A run that exits with 0 or 127
prints the page of the digest of its report, to the width that the settings give, and with colors
just if settings, options and environment allow them.  So two runs that read the same bytes, print
to the same width and agree on the colors print the same and exit with the same code, whatever
their trees, working directories, paths, options and environments are. -/
theorem output_told_by_report_and_look (d : Disk) (noColor : Option String)
    {arguments : List String} {o : Options} (h : Options.parse arguments = .ok o) :
    let p := d.perform noColor arguments
    (p.exitCode = 0 ∨ p.exitCode = 127 → ∃ bytes text digest,
      d.lookUp o.report = .ok (.file bytes) ∧ String.fromUTF8? bytes = some text ∧
        (Report.ofText o.report text).digest = .ok digest ∧
        p.output = (Page.ofDigest (d.usedSettings o).columnWidth digest).text
          (decide (d.PrintsColors noColor o))) ∧
      ∀ (d' : Disk) (noColor' : Option String) (arguments' : List String) (o' : Options)
        (bytes : ByteArray), Options.parse arguments' = .ok o' →
        d.lookUp o.report = .ok (.file bytes) → d'.lookUp o'.report = .ok (.file bytes) →
        (d'.usedSettings o').columnWidth = (d.usedSettings o).columnWidth →
        (d'.PrintsColors noColor' o' ↔ d.PrintsColors noColor o) →
        let p' := d'.perform noColor' arguments'
        p'.output = p.output ∧ p'.exitCode = p.exitCode := by
  intro p
  refine ⟨fun hexit => ?_,
    fun d' noColor' arguments' o' bytes h' hbytes hbytes' hwidth hcolors => ?_⟩
  · rw [perform_exitCode h, run_ending] at hexit
    obtain ⟨text, digest, hread, hdigest, hpage⟩ := Ending.exists_digest_of_exitCode hexit
    obtain ⟨bytes, hbytes, hutf8⟩ := (d.read_eq_ok_iff o.report text).mp hread
    exact ⟨bytes, text, digest, hbytes, hutf8, hdigest, by rw [perform_output h, run_ending, hpage]⟩
  · have hread : d'.read o'.report = d.read o.report := by
      rw [read_of_lookUp hbytes, read_of_lookUp hbytes']
    have hend : (d'.run noColor' o').ending =
        .ofRead o'.report (d.read o.report) (d.usedSettings o).columnWidth
          (decide (d.PrintsColors noColor o)) := by
      rw [run_ending, hread, hwidth, decide_eq_decide.mpr hcolors]
    intro p'
    rw [perform_output h, perform_output h', perform_exitCode h, perform_exitCode h', hend,
      run_ending]
    exact Ending.output_and_exitCode_ofRead o.report o'.report

/-- A report in the working directory, with settings without colors beside it. -/
def grayExample : Disk :=
  ⟨⟨[(["r"], .file "a:1:x\n".toUTF8),
    ([".misra-summary.toml"], .file "output.color = false".toUTF8)]⟩, [],
    fun _ => "TOML parse error"⟩

/-- The same report by another name, deeper in a tree, beside settings that are broken. -/
def unsetExample : Disk :=
  ⟨⟨[(["s"], .directory), (["s", "t"], .file "a:1:x\n".toUTF8),
    (["s", ".misra-summary.toml"], .file "output".toUTF8)]⟩, ["s"],
    fun _ => "TOML parse error"⟩

/-- Colors switched off by the settings in one run and by an option in the other. -/
theorem output_of_gray_and_unset :
    Options.parse ["r"] = .ok ⟨"r", false, false, false, false⟩ ∧
      (grayExample.perform none ["r"]).exitCode = 127 ∧
      (∃ digest, (Report.ofText "r" "a:1:x\n").digest = .ok digest ∧
        (grayExample.perform none ["r"]).output = (Page.ofDigest 75 digest).text false) ∧
      (unsetExample.perform (some "") ["-v", "--no-color", "--", "t"]).output =
        (grayExample.perform none ["r"]).output ∧
      (unsetExample.perform (some "") ["-v", "--no-color", "--", "t"]).exitCode =
        (grayExample.perform none ["r"]).exitCode := by
  have hgray : grayExample.WellFormed := ⟨⟨by decide, by decide⟩, by decide⟩
  have hunset : unsetExample.WellFormed := ⟨⟨by decide, by decide⟩, by decide⟩
  have hparse : Options.parse ["r"] = .ok ⟨"r", false, false, false, false⟩ := rfl
  have hparse' : Options.parse ["-v", "--no-color", "--", "t"] =
      .ok ⟨"t", true, false, true, false⟩ := rfl
  have hreport : grayExample.lookUp "r" = .ok (.file "a:1:x\n".toUTF8) :=
    lookUp_name hgray (by decide) rfl
  have hreport' : unsetExample.lookUp "t" = .ok (.file "a:1:x\n".toUTF8) :=
    lookUp_name hunset (by decide) rfl
  have hfile : grayExample.tree.fileIn? [] Settings.fileName =
      some "output.color = false".toUTF8 :=
    (hgray.tree.fileIn?_eq_some_iff Settings.isName_fileName).mpr ⟨by decide, Or.inl rfl⟩
  have hfile' : unsetExample.tree.fileIn? ["s"] Settings.fileName = some "output".toUTF8 :=
    (hunset.tree.fileIn?_eq_some_iff Settings.isName_fileName).mpr ⟨by decide, Or.inl rfl⟩
  have hused : grayExample.usedSettings ⟨"r", false, false, false, false⟩ = ⟨false, 75⟩ := by
    have hsettings : grayExample.settings? "r" = some ⟨false, 75⟩ :=
      (findSettings?_of_file_here hgray (by decide) hfile).2.trans (by decide +kernel)
    rw [usedSettings, hsettings]
    rfl
  have hused' : unsetExample.usedSettings ⟨"t", true, false, true, false⟩ = ⟨true, 75⟩ := by
    have hsettings : unsetExample.settings? "t" = none :=
      (findSettings?_of_file_here hunset (by decide) hfile').2.trans (by decide +kernel)
    rw [usedSettings, hsettings]
    rfl
  have hread : grayExample.read "r" = .ok "a:1:x\n" :=
    (read_eq_ok_iff _ _ _).mpr ⟨_, hreport, fromUTF8?_toUTF8 _⟩
  have hexit : (grayExample.perform none ["r"]).exitCode = 127 :=
    (grayExample.perform_endsAs none hparse).found_iff.mpr
      ⟨_, hread, by decide, by decide +kernel⟩
  have hcolors : ¬ grayExample.PrintsColors none ⟨"r", false, false, false, false⟩ := by
    simp [PrintsColors, hused]
  have hcolors' : ¬ unsetExample.PrintsColors (some "") ⟨"t", true, false, true, false⟩ := by
    simp [PrintsColors]
  obtain ⟨hpage, hsame⟩ := output_told_by_report_and_look grayExample none hparse
  obtain ⟨bytes, text, digest, hbytes, hutf8, hdigest, hout⟩ := hpage (Or.inr hexit)
  obtain rfl : text = "a:1:x\n" := by
    have := (read_eq_ok_iff grayExample "r" text).mpr ⟨bytes, hbytes, hutf8⟩
    simpa using this.symm.trans hread
  refine ⟨hparse, hexit, ⟨digest, hdigest, by simpa [hused, hcolors] using hout⟩, ?_⟩
  exact hsame unsetExample (some "") _ _ _ hparse' hreport hreport' (by rw [hused, hused'])
    (iff_of_false hcolors' hcolors)

end Disk

end FindingsDigest
