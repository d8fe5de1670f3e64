/-
# More and less of the log

The options that make a run tell more or less change nothing but the level up to which its notes
are written (`run_withFlag`).  So the logs of the quiet, the usual and the verbose run are parts of
one another, in the same order, and what follows them is the same.  The quiet log is empty, and the
usual one has at most a warning about a broken settings file.

What follows the log is the final error of a run that fails, and nothing if a run prints its page to
the end.  But if the page breaks off, then that is told, and so a quiet run that does not fail is
not always silent.
-/
import FindingsDigest.Proofs.BrokenSettings

namespace FindingsDigest

open Record (colons field)

namespace Options

variable {o : Options}

lemma level_withFlag_quiet (hverbose : o.verbose = false) : (o.withFlag .quiet).level = .error := by
  simp [level, withFlag, hverbose]

lemma level_withFlag_verbose : (o.withFlag .verbose).level = .debug := rfl

end Options

namespace Disk

variable {d : Disk} {noColor : Option String} {o : Options}

/-- A run makes the same notes and comes to the same end, however much of its notes is written. -/
lemma run_withFlag {f : Flag} (h : f = .quiet ∨ f = .verbose) :
    d.run noColor (o.withFlag f) = d.run noColor o := by
  rcases h with rfl | rfl <;> rfl

/-- What leaves a run: its log, and with it what its end tells. -/
lemma performInMemory_eq {arguments : List String} (h : Options.parse arguments = .ok o) :
    d.performInMemory noColor arguments =
      ⟨(d.run noColor o).ending.inMemory.exitCode, (d.run noColor o).ending.inMemory.output,
        Note.lines (!asksNoColor noColor) (d.log noColor o) ++
          (d.run noColor o).ending.inMemory.diagnostics⟩ := by
  rw [performInMemory, h]
  rfl

lemma performInMemory_withFlag {f : Flag} (hf : f = .quiet ∨ f = .verbose)
    {arguments : List String} (h : Options.parse arguments = .ok (o.withFlag f)) :
    d.performInMemory noColor arguments =
      ⟨(d.run noColor o).ending.inMemory.exitCode, (d.run noColor o).ending.inMemory.output,
        Note.lines (!asksNoColor noColor) (d.log noColor (o.withFlag f)) ++
          (d.run noColor o).ending.inMemory.diagnostics⟩ := by
  rw [performInMemory_eq h, run_withFlag hf]

lemma log_quiet (hverbose : o.verbose = false) : d.log noColor (o.withFlag .quiet) = [] := by
  rw [log, Options.level_withFlag_quiet hverbose]
  exact upTo_error_notes

lemma log_sublist_verbose (hverbose : o.verbose = false) (hquiet : o.quiet = false) :
    (d.log noColor o).Sublist (d.log noColor (o.withFlag .verbose)) := by
  have hlevel : o.level = .warn := by simp [Options.level, hverbose, hquiet]
  rw [log, log, run_withFlag (Or.inr rfl), hlevel, Options.level_withFlag_verbose]
  exact Note.upTo_sublist_upTo (by decide) _

lemma lines_eq_join (notes : List Note) :
    Note.lines (!asksNoColor noColor) notes = String.join (notes.map fun n =>
      (if noColor = none ∨ noColor = some "" then n.level.opening ++ n.level.label ++ "\x1b[0m"
        else n.level.label) ++ " " ++ Note.shown n.text ++ "\n") := by
  simp only [Note.lines, ← ite_asksNoColor]
  rfl

/-- What a run tells behind its log: the final error if it fails, that its page breaks off if it
does, and else nothing. -/
lemma told_by_exitCode (d : Disk) (noColor : Option String) {arguments : List String}
    (h : Options.parse arguments = .ok o) :
    let last := (d.run noColor o).ending.inMemory
    (last.exitCode = 1 → FinalError o.report (d.read o.report) last.diagnostics) ∧
      (last.exitCode = 101 → last.diagnostics = "capacity overflow\n") ∧
      (last.exitCode ≠ 1 → last.exitCode ≠ 101 → last.diagnostics = "") := by
  intro last
  obtain ⟨hbroken, hwhole⟩ := (d.run noColor o).ending.diagnostics_inMemory
  refine ⟨fun hone => ?_, hbroken, fun hone h101 => ?_⟩
  · have hlast : last = _ := hwhole fun h101 => absurd (hone.symm.trans h101) (by decide)
    rw [hlast] at hone ⊢
    rw [← perform_exitCode h] at hone
    obtain ⟨told, htold⟩ := (d.perform_endsAs noColor h).failed_iff.mp hone
    obtain ⟨f, hf, rfl⟩ := finalError_iff.mp htold
    have hend : (d.run noColor o).ending = .failed f := run_ending_of_fails hf
    rw [hend]
    exact htold
  · have hlast : last = _ := hwhole h101
    rw [hlast] at hone ⊢
    exact (Ending.complaint_eq_empty_iff _).mpr hone

lemma finalError_brokenExample : FinalError "r" (brokenExample.read "r")
    "Error: malformed report line 2: expected `file:line:rule`, got 2 field(s) in \"b:2\"\n" := by
  have hfile : brokenExample.lookUp "r" = .ok (.file "a:1:x\nb:2\n".toUTF8) :=
    lookUp_name wellFormed_brokenExample (by decide) rfl
  have hread : brokenExample.read "r" = .ok "a:1:x\nb:2\n" :=
    (read_eq_ok_iff _ _ _).mpr ⟨_, hfile, fromUTF8?_toUTF8 _⟩
  have hlines : Text.linesOf "a:1:x\nb:2\n" = ["a:1:x"] ++ "b:2" :: [] := by decide +kernel
  rw [hread]
  exact finalError_second_line ⟨_, _, _, hlines, by decide, by decide, by decide⟩

/-- What a run on the first of the two reports finds around it. -/
lemma surroundings_brokenExample {o : Options} (h : o.report = "r") :
    brokenExample.surroundings none o =
      ⟨some ⟨"/w/.misra-summary.toml", .ok "output = [false, -1]", fun _ => wrongWidth⟩,
        .ok "a:1:x\nb:2\n", false⟩ := by
  have hbroken : brokenExample.HasBrokenSettings "r" "/w/.misra-summary.toml"
      "output = [false, -1]".toUTF8 := hasBrokenSettings_brokenExample (by decide)
  have hsettings : brokenExample.read "/w/.misra-summary.toml" = .ok "output = [false, -1]" :=
    (read_eq_ok_iff _ _ _).mpr ⟨_, hbroken.file, fromUTF8?_toUTF8 _⟩
  have hfile : brokenExample.lookUp "r" = .ok (.file "a:1:x\nb:2\n".toUTF8) :=
    lookUp_name wellFormed_brokenExample (by decide) rfl
  have hread : brokenExample.read "r" = .ok "a:1:x\nb:2\n" :=
    (read_eq_ok_iff _ _ _).mpr ⟨_, hfile, fromUTF8?_toUTF8 _⟩
  rw [surroundings, h, hbroken.settingsFile?.1, settingsFile, hsettings, hread]
  rfl

/-- All that such a run notes. -/
def wrongWidthNotes : List Note :=
  [⟨.info, "misra-summary v0.2.0"⟩, ⟨.debug, "Found config: /w/.misra-summary.toml"⟩] ++
    ⟨.warn, "Ignoring " ++ "/w/.misra-summary.toml" ++ ": " ++
      ("could not parse " ++ "/w/.misra-summary.toml" ++ ": " ++ wrongWidth)⟩ ::
    [⟨.debug, "color output: true"⟩, ⟨.info, "Read 2 lines from r"⟩,
      ⟨.debug, "analyzing r (2 lines)"⟩, ⟨.debug, "0 duplicate lines skipped"⟩]

lemma log_verbose_brokenExample :
    brokenExample.log none ((⟨"r", false, false, false, false⟩ : Options).withFlag .verbose) =
      wrongWidthNotes := by
  rw [log, run, surroundings_brokenExample rfl]
  decide +kernel

lemma lines_wrongWidthNotes : Note.lines true wrongWidthNotes =
    String.join ["\x1b[32m INFO\x1b[0m misra-summary v0.2.0\n",
      "\x1b[34mDEBUG\x1b[0m Found config: /w/.misra-summary.toml\n", wrongWidthWarning,
      "\x1b[34mDEBUG\x1b[0m color output: true\n", "\x1b[32m INFO\x1b[0m Read 2 lines from r\n",
      "\x1b[34mDEBUG\x1b[0m analyzing r (2 lines)\n",
      "\x1b[34mDEBUG\x1b[0m 0 duplicate lines skipped\n"] := by
  refine congrArg String.join ?_
  -- the warning is the one that is shown above
  have hwarning : Note.line true ⟨.warn, "Ignoring " ++ "/w/.misra-summary.toml" ++ ": " ++
      ("could not parse " ++ "/w/.misra-summary.toml" ++ ": " ++ wrongWidth)⟩ =
        wrongWidthWarning := (Note.line_warn true _).trans shown_brokenExample
  have hfront : [(⟨.info, "misra-summary v0.2.0"⟩ : Note),
      ⟨.debug, "Found config: /w/.misra-summary.toml"⟩].map (Note.line true) =
        ["\x1b[32m INFO\x1b[0m misra-summary v0.2.0\n",
          "\x1b[34mDEBUG\x1b[0m Found config: /w/.misra-summary.toml\n"] := by decide +kernel
  have hback : [(⟨.debug, "color output: true"⟩ : Note), ⟨.info, "Read 2 lines from r"⟩,
      ⟨.debug, "analyzing r (2 lines)"⟩, ⟨.debug, "0 duplicate lines skipped"⟩].map
        (Note.line true) =
        ["\x1b[34mDEBUG\x1b[0m color output: true\n",
          "\x1b[32m INFO\x1b[0m Read 2 lines from r\n",
          "\x1b[34mDEBUG\x1b[0m analyzing r (2 lines)\n",
          "\x1b[34mDEBUG\x1b[0m 0 duplicate lines skipped\n"] := by decide +kernel
  rw [wrongWidthNotes, List.map_append, hfront, List.map_cons, hwarning, hback]
  rfl

/-- A report in the working directory, with settings beside it that ask for the widest column. -/
def wideExample : Disk :=
  ⟨⟨[(["r"], .file "a:1:x\n".toUTF8),
    ([".misra-summary.toml"], .file "output.column_width = 18446744073709551615".toUTF8)]⟩, [],
    fun _ => "TOML parse error"⟩

lemma exitCode_wideExample {arguments : List String} {o : Options}
    (h : Options.parse arguments = .ok o) (hreport : o.report = "r")
    (hconfig : o.noConfig = false) :
    (wideExample.performInMemory none arguments).exitCode = 101 := by
  have hwell : wideExample.WellFormed := ⟨⟨by decide, by decide⟩, by decide⟩
  have hlookUp : wideExample.lookUp "r" = .ok (.file "a:1:x\n".toUTF8) :=
    lookUp_name hwell (by decide) rfl
  have hread : wideExample.read "r" = .ok "a:1:x\n" :=
    (read_eq_ok_iff _ _ _).mpr ⟨_, hlookUp, fromUTF8?_toUTF8 _⟩
  have hfile : wideExample.tree.fileIn? [] Settings.fileName =
      some "output.column_width = 18446744073709551615".toUTF8 :=
    (hwell.tree.fileIn?_eq_some_iff Settings.isName_fileName).mpr ⟨by decide, Or.inl rfl⟩
  have hsettings : wideExample.settings? "r" = some ⟨true, UInt64.size - 1⟩ :=
    (findSettings?_of_file_here hwell (by decide) hfile).2.trans (by decide +kernel)
  have hused : wideExample.usedSettings o = ⟨true, UInt64.size - 1⟩ := by
    rw [usedSettings, hconfig, hreport, hsettings]
    rfl
  rw [performInMemory_exitCode_eq_101_iff h, hused, hreport]
  exact ⟨_, hread, by decide +kernel, by decide +kernel⟩

end Disk

end FindingsDigest
