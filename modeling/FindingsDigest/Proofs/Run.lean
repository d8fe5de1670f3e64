/-
# How a run ends

A run ends in one of three ways, and what reading the report came to decides which: an empty
text is clean, a text whose lines all have two colons has findings, and everything else is a
failure.  A failure prints nothing on standard output, whatever stood in front of the malformed
line, and closes the diagnostics with its final error, which is written out in `FinalError`; the
other two always print something.

All this is proved for any surroundings of a run (`run_endsAs`), so the settings file, the
options and the environment have no say in it.  The program on a tree of files is one case.

The page is a text of any length here; that it fits into memory, and that standard output takes
all of it, is taken for granted.
-/
import FindingsDigest.Proofs.Digest
import FindingsDigest.Run

namespace FindingsDigest

open Record (colons)
open Report (IsFirstMalformed)

/-! ### Pages are never empty -/

/-- The text of a page that ends a line somewhere is not empty. -/
lemma Page.text_ne_empty {page : Page} (h : Piece.lineEnd ∈ page) (color : Bool) :
    page.text color ≠ "" := by
  intro hempty
  have hmem : '\n' ∈ page.chars color :=
    List.mem_flatMap.mpr ⟨.lineEnd, h, List.mem_singleton_self _⟩
  rw [Page.text, String.ofList_eq_empty_iff] at hempty
  rw [hempty] at hmem
  exact List.not_mem_nil hmem

lemma Page.lineEnd_mem_ofDigest (width : ℕ) (d : Digest) : Piece.lineEnd ∈ ofDigest width d := by
  cases d with
  | clean => simp [ofDigest]
  | findings c => simp [ofDigest, ofCatalogue, head]

/-! ### The failures of a run -/

/-- The failure that a run must end in, given what reading the report at a path came to: the
fault, or the first malformed line. -/
inductive Fails (path : String) : Except Fault String → Failure → Prop where
  | unreadable (fault : Fault) : Fails path (.error fault) (.unreadable path fault)
  | malformed {text : String} {m : Malformed} (h : IsFirstMalformed m (Text.linesOf text)) :
    Fails path (.ok text) (.malformed m)

/-- The words of a fault. -/
inductive Fault.Says : Fault → String → Prop where
  | refused (description : String) (number : ℕ) :
    Says (.refused description number) (description ++ " (os error " ++ toString number ++ ")")
  | nulInPath : Says .nulInPath "file name contained an unexpected NUL byte"
  | notText : Says .notText "stream did not contain valid UTF-8"

lemma Fault.says_iff {fault : Fault} {words : String} :
    fault.Says words ↔ fault.message = words := by
  constructor
  · rintro (_ | _ | _) <;> rfl
  · rintro rfl
    cases fault with
    | refused description number => exact .refused description number
    | nulInPath => exact .nulInPath
    | notText => exact .notText

/-- The final error that a run must tell, given what reading the report at a path came to: why it
cannot be read, or what is wrong with its first malformed line. -/
inductive FinalError (path : String) : Except Fault String → String → Prop where
  | unreadable {fault : Fault} {words : String} (h : fault.Says words) :
    FinalError path (.error fault)
      ("Error: failed to read report " ++ path ++ "\n\nCaused by:\n    " ++ words ++ "\n")
  | malformed {text content : String} {lineNo fields : ℕ}
    (h : IsFirstMalformed ⟨lineNo, content, fields⟩ (Text.linesOf text)) :
    FinalError path (.ok text)
      ("Error: malformed report line " ++ toString lineNo ++
        ": expected `file:line:rule`, got " ++ toString fields ++ " field(s) in " ++
        Text.quoted content ++ "\n")

namespace Failure

lemma explanation_unreadable (path : String) (fault : Fault) :
    (unreadable path fault).explanation =
      "Error: failed to read report " ++ path ++ "\n\nCaused by:\n    " ++ fault.message ++
        "\n" := by
  have hparts : (unreadable path fault).explanation =
      "Error: " ++ ("failed to read report " ++ path) ++ "\n\nCaused by:\n    " ++ fault.message ++
        "\n" := rfl
  apply String.toList_inj.mp
  rw [hparts]
  simp

lemma explanation_malformed (lineNo fields : ℕ) (content : String) :
    (malformed ⟨lineNo, content, fields⟩).explanation =
      "Error: malformed report line " ++ toString lineNo ++
        ": expected `file:line:rule`, got " ++ toString fields ++ " field(s) in " ++
        Text.quoted content ++ "\n" := by
  have hparts : (malformed ⟨lineNo, content, fields⟩).explanation =
      "Error: " ++ ("malformed report line " ++ toString lineNo ++
        ": expected `file:line:rule`, got " ++ toString fields ++ " field(s) in " ++
        Text.quoted content) ++ "\n" := rfl
  apply String.toList_inj.mp
  rw [hparts]
  simp

end Failure

/-- The final error is the text of the failure. -/
lemma finalError_iff {path told : String} {read : Except Fault String} :
    FinalError path read told ↔ ∃ f, Fails path read f ∧ f.explanation = told := by
  constructor
  · intro h
    cases h with
    | unreadable h =>
      obtain rfl := Fault.says_iff.mp h
      exact ⟨_, .unreadable _, Failure.explanation_unreadable path _⟩
    | malformed hm => exact ⟨_, .malformed hm, Failure.explanation_malformed _ _ _⟩
  · rintro ⟨f, hf, rfl⟩
    cases hf with
    | unreadable fault =>
      exact Failure.explanation_unreadable path fault ▸ .unreadable (Fault.says_iff.mpr rfl)
    | malformed hm => exact Failure.explanation_malformed _ _ _ ▸ .malformed hm

lemma exists_fails_iff (path : String) (read : Except Fault String) :
    (∃ f, Fails path read f) ↔ ∃ told, FinalError path read told := by
  simp [finalError_iff]

/-- A report is empty, or it has findings, or it fails. -/
lemma read_cases (path : String) (read : Except Fault String) :
    read = .ok "" ∨
      (∃ text, read = .ok text ∧ text ≠ "" ∧ ∀ line ∈ Text.linesOf text, 2 ≤ colons line) ∨
      ∃ f, Fails path read f := by
  rcases read with fault | text
  · exact Or.inr (Or.inr ⟨_, .unreadable fault⟩)
  · rcases Report.forall_or_exists_isFirstMalformed (Text.linesOf text) with hcolons | ⟨m, hm⟩
    · by_cases htext : text = ""
      · exact Or.inl (htext ▸ rfl)
      · exact Or.inr (Or.inl ⟨text, rfl, htext, hcolons⟩)
    · exact Or.inr (Or.inr ⟨_, .malformed hm⟩)

/-! ### The three ends -/

variable {o : Options} {s : Surroundings}

lemma run_ending_of_digest {text : String} {d : Digest} (hread : s.report = .ok text)
    (hdigest : (Report.ofText o.report text).digest = .ok d) :
    (run o s).ending = .printed (Page.ofDigest (s.chosenSettings o).columnWidth d)
      (s.chosenColor o) d.hasFindings := by
  simp only [run, hread, hdigest]

lemma run_ending_of_fails {f : Failure} (h : Fails o.report s.report f) :
    (run o s).ending = .failed f := by
  generalize hread : s.report = read at h
  cases h with
  | unreadable fault => simp only [run, hread]
  | malformed hm => simp only [run, hread, Report.digest_of_isFirstMalformed hm]

/-- There is one final error at most. -/
lemma FinalError.unique {path told told' : String} {read : Except Fault String}
    (h : FinalError path read told) (h' : FinalError path read told') : told = told' := by
  obtain ⟨f, hf, rfl⟩ := finalError_iff.mp h
  obtain ⟨f', hf', rfl⟩ := finalError_iff.mp h'
  -- a run that reads this ends in both failures
  have hend := run_ending_of_fails (o := ⟨path, false, false, false, false⟩)
    (s := ⟨none, read, false⟩) hf
  rw [run_ending_of_fails hf'] at hend
  rw [Ending.failed.inj hend]

/-- What leaves a run that prints the page of a digest. -/
lemma printed_of_digest {text : String} {d : Digest} (hread : s.report = .ok text)
    (hdigest : (Report.ofText o.report text).digest = .ok d) (level : Level) (color : Bool) :
    ((run o s).printed level color).exitCode = (if d.hasFindings then 127 else 0) ∧
      ((run o s).printed level color).output ≠ "" := by
  simp only [Outcome.printed, run_ending_of_digest hread hdigest, Ending.exitCode, Ending.output]
  exact ⟨trivial, Page.text_ne_empty (Page.lineEnd_mem_ofDigest _ _) _⟩

/-- What leaves a run that fails: nothing on standard output, and the failure last. -/
lemma printed_of_fails {f : Failure} (h : Fails o.report s.report f) (level : Level)
    (color : Bool) :
    ((run o s).printed level color).exitCode = 1 ∧
      ((run o s).printed level color).output = "" ∧
      ((run o s).printed level color).diagnostics =
        Note.lines color (Note.upTo level (run o s).notes) ++ f.explanation := by
  simp only [Outcome.printed, run_ending_of_fails h, Ending.exitCode, Ending.output,
    Ending.complaint, and_self]

/-- How what leaves the program hangs on what reading the report at a path came to. -/
structure EndsAs (path : String) (read : Except Fault String) (p : Printed) : Prop where
  clean_iff : p.exitCode = 0 ↔ read = .ok ""
  found_iff : p.exitCode = 127 ↔
    ∃ text, read = .ok text ∧ text ≠ "" ∧ ∀ line ∈ Text.linesOf text, 2 ≤ colons line
  failed_iff : p.exitCode = 1 ↔ ∃ told, FinalError path read told
  output_iff : p.output = "" ↔ p.exitCode = 1
  diagnostics_eq : ∀ told, FinalError path read told → ∃ log, p.diagnostics = log ++ told

/-- If three cases have three exit codes and one of them holds, then the code tells which. -/
lemma exitCode_iff_of_cases {clean found failed : Prop} {code : UInt8}
    (hcases : clean ∨ found ∨ failed) (hclean : clean → code = 0) (hfound : found → code = 127)
    (hfailed : failed → code = 1) :
    (code = 0 ↔ clean) ∧ (code = 127 ↔ found) ∧ (code = 1 ↔ failed) := by
  rcases hcases with h | h | h
  · obtain rfl := hclean h
    exact ⟨iff_of_true rfl h, iff_of_false (by decide) fun hf => absurd (hfound hf) (by decide),
      iff_of_false (by decide) fun hf => absurd (hfailed hf) (by decide)⟩
  · obtain rfl := hfound h
    exact ⟨iff_of_false (by decide) fun hc => absurd (hclean hc) (by decide), iff_of_true rfl h,
      iff_of_false (by decide) fun hf => absurd (hfailed hf) (by decide)⟩
  · obtain rfl := hfailed h
    exact ⟨iff_of_false (by decide) fun hc => absurd (hclean hc) (by decide),
      iff_of_false (by decide) fun hf => absurd (hfound hf) (by decide), iff_of_true rfl h⟩

/-- A run ends as reading its report decides, in whatever surroundings. -/
lemma run_endsAs (o : Options) (s : Surroundings) (level : Level) (color : Bool) :
    EndsAs o.report s.report ((run o s).printed level color) := by
  have hcases := read_cases o.report s.report
  have hclean : s.report = .ok "" → ((run o s).printed level color).exitCode = 0 ∧
      ((run o s).printed level color).output ≠ "" := fun h => printed_of_digest h rfl level color
  have hfound : (∃ text, s.report = .ok text ∧ text ≠ "" ∧
      ∀ line ∈ Text.linesOf text, 2 ≤ colons line) →
      ((run o s).printed level color).exitCode = 127 ∧
        ((run o s).printed level color).output ≠ "" := by
    rintro ⟨text, hread, htext, hcolons⟩
    have hne : Text.linesOf text ≠ [] := fun h => htext ((Text.linesOf_eq_nil_iff text).mp h)
    exact printed_of_digest hread (Report.digest_of_two_le_colons hne hcolons o.report) level color
  have hfailed : (∃ f, Fails o.report s.report f) →
      ((run o s).printed level color).exitCode = 1 ∧
        ((run o s).printed level color).output = "" := by
    rintro ⟨f, hf⟩
    exact ⟨(printed_of_fails hf level color).1, (printed_of_fails hf level color).2.1⟩
  obtain ⟨hzero, hviolations, hone⟩ := exitCode_iff_of_cases hcases (fun h => (hclean h).1)
    (fun h => (hfound h).1) fun h => (hfailed h).1
  refine ⟨hzero, hviolations, hone.trans (exists_fails_iff o.report s.report), ?_, ?_⟩
  swap
  · intro told htold
    obtain ⟨f, hf, rfl⟩ := finalError_iff.mp htold
    exact ⟨_, (printed_of_fails hf level color).2.2⟩
  -- an empty output rules out the two ends that print
  rw [hone]
  refine ⟨fun hempty => ?_, fun h => (hfailed h).2⟩
  rcases hcases with h | h | h
  · exact absurd hempty (hclean h).2
  · exact absurd hempty (hfound h).2
  · exact h

/-- What reading a report came to decides the exit code alone. -/
lemma EndsAs.exitCode_eq {path path' : String} {read : Except Fault String} {p p' : Printed}
    (h : EndsAs path read p) (h' : EndsAs path' read p') : p'.exitCode = p.exitCode := by
  rcases read_cases path read with hclean | hfound | ⟨f, hf⟩
  · rw [h.clean_iff.mpr hclean, h'.clean_iff.mpr hclean]
  · rw [h.found_iff.mpr hfound, h'.found_iff.mpr hfound]
  · have hf' : ∃ f', Fails path' read f' := by
      cases hf with
      | unreadable fault => exact ⟨_, .unreadable fault⟩
      | malformed hm => exact ⟨_, .malformed hm⟩
    rw [h.failed_iff.mpr ((exists_fails_iff _ _).mp ⟨f, hf⟩),
      h'.failed_iff.mpr ((exists_fails_iff _ _).mp hf')]

/-! ### The program on a tree of files -/

namespace Disk

/-- Reading gives a text exactly if the path leads to a file with that text in UTF-8. -/
lemma read_eq_ok_iff (d : Disk) (path text : String) :
    d.read path = .ok text ↔
      ∃ bytes, d.lookUp path = .ok (.file bytes) ∧ String.fromUTF8? bytes = some text := by
  unfold read
  rcases d.lookUp path with fault | ⟨bytes⟩ | _ | target
  case ok.file =>
    rcases hfound : String.fromUTF8? bytes with _ | found
    all_goals simp [bind, Except.bind, pure, Except.pure, hfound]
  all_goals
    refine iff_of_false nofun ?_
    rintro ⟨bytes, h, -⟩
    cases h

lemma fromUTF8?_toUTF8 (text : String) : String.fromUTF8? text.toUTF8 = some text :=
  dif_pos text.isValidUTF8

/-- The empty text has no bytes, and no bytes are the empty text. -/
lemma size_eq_zero_iff {bytes : ByteArray} {text : String}
    (h : String.fromUTF8? bytes = some text) : bytes.size = 0 ↔ text = "" := by
  unfold String.fromUTF8? at h
  split at h
  · cases h
    rw [← String.utf8ByteSize_eq_zero_iff]
    rfl
  · cases h

lemma read_eq_ok_empty_iff (d : Disk) (path : String) :
    d.read path = .ok "" ↔ ∃ bytes, d.lookUp path = .ok (.file bytes) ∧ bytes.size = 0 := by
  rw [read_eq_ok_iff]
  refine exists_congr fun bytes => and_congr_right fun _ => ⟨fun h => ?_, fun h => ?_⟩
  · exact (size_eq_zero_iff h).mpr rfl
  · rw [ByteArray.size_eq_zero_iff.mp h]
    rfl

lemma perform_endsAs (d : Disk) (noColor : Option String) {arguments : List String} {o : Options}
    (h : Options.parse arguments = .ok o) :
    EndsAs o.report (d.read o.report) (d.perform noColor arguments) := by
  rw [perform, h]
  exact run_endsAs o (d.surroundings noColor o) o.level (!asksNoColor noColor)

/-- **The report alone decides how a run ends.**  On every tree of files and for every command
line that leads to a run, the exit code is 0 if the report is a file without bytes, 127 if it is
a text whose lines all have two colons, and 1 otherwise.  Standard output is empty in the last
case only, and then the diagnostics end with the final error: why the report cannot be read, or
what is wrong with its first malformed line.  Two runs that read the same have the same exit code,
whatever settings files, options and environment they have; and a run hangs on its report in this
way whatever else is found around it. -/
theorem exitCode_told_by_report (d : Disk) (noColor : Option String) {arguments : List String}
    {o : Options} (h : Options.parse arguments = .ok o) :
    let p := d.perform noColor arguments
    (p.exitCode = 0 ∨ p.exitCode = 127 ∨ p.exitCode = 1) ∧
      (p.exitCode = 0 ↔
        ∃ bytes, d.lookUp o.report = .ok (.file bytes) ∧ bytes.size = 0) ∧
      (p.exitCode = 127 ↔
        ∃ bytes text, d.lookUp o.report = .ok (.file bytes) ∧
          String.fromUTF8? bytes = some text ∧ bytes.size ≠ 0 ∧
          ∀ line ∈ Text.linesOf text, 2 ≤ colons line) ∧
      (p.exitCode = 1 ↔ ∃ told, FinalError o.report (d.read o.report) told) ∧
      (p.output = "" ↔ p.exitCode = 1) ∧
      (∀ told, FinalError o.report (d.read o.report) told → ∃ log, p.diagnostics = log ++ told) ∧
      (∀ (d' : Disk) (noColor' : Option String) (arguments' : List String) (o' : Options),
        Options.parse arguments' = .ok o' → d'.read o'.report = d.read o.report →
        (d'.perform noColor' arguments').exitCode = p.exitCode) ∧
      ∀ s : Surroundings,
        EndsAs o.report s.report ((FindingsDigest.run o s).printed o.level (!s.noColor)) := by
  have hends := d.perform_endsAs noColor h
  refine ⟨?_, hends.clean_iff.trans (d.read_eq_ok_empty_iff o.report),
    hends.found_iff.trans ⟨?_, ?_⟩, hends.failed_iff, hends.output_iff, hends.diagnostics_eq, ?_,
    fun s => run_endsAs o s o.level (!s.noColor)⟩
  · rcases read_cases o.report (d.read o.report) with hclean | hfound | hfailed
    · exact Or.inl (hends.clean_iff.mpr hclean)
    · exact Or.inr (Or.inl (hends.found_iff.mpr hfound))
    · exact Or.inr (Or.inr (hends.failed_iff.mpr ((exists_fails_iff _ _).mp hfailed)))
  · rintro ⟨text, hread, htext, hcolons⟩
    obtain ⟨bytes, hfile, hutf8⟩ := (d.read_eq_ok_iff o.report text).mp hread
    exact ⟨bytes, text, hfile, hutf8, fun h => htext ((size_eq_zero_iff hutf8).mp h), hcolons⟩
  · rintro ⟨bytes, text, hfile, hutf8, hsize, hcolons⟩
    exact ⟨text, (d.read_eq_ok_iff o.report text).mpr ⟨bytes, hfile, hutf8⟩,
      fun h => hsize ((size_eq_zero_iff hutf8).mpr h), hcolons⟩
  · intro d' noColor' arguments' o' h' hread
    have hends' := d'.perform_endsAs noColor' h'
    rw [hread] at hends'
    exact hends.exitCode_eq hends'

/-- A tree with a report whose second line has one colon, and a settings file beside it. -/
def malformedExample : Disk :=
  ⟨⟨[(["r"], .file "a:1:x\nb:2\na:1:x\n".toUTF8),
    ([".misra-summary.toml"], .file "[output]\ncolumn_width = 20\n".toUTF8)]⟩, [],
    fun _ => "TOML parse error"⟩

/-- There is no other report beside it. -/
lemma read_malformedExample :
    malformedExample.read "r" = .ok "a:1:x\nb:2\na:1:x\n" ∧
      malformedExample.read "s" = .error (.refused "No such file or directory" 2) := by
  have hsteps : FileTree.steps "r" = ["r"] := rfl
  have hsteps' : FileTree.steps "s" = ["s"] := rfl
  have hwhere : malformedExample.tree.resolve malformedExample.here "r" = .ok ["r"] := by
    simp +decide [FileTree.resolve, FileTree.resolveWithin, FileTree.origin, hsteps,
      FileTree.follow, FileTree.entry?, malformedExample]
  have hnowhere : malformedExample.tree.resolve malformedExample.here "s" = .error .notFound := by
    simp +decide [FileTree.resolve, FileTree.resolveWithin, FileTree.origin, hsteps',
      FileTree.follow, FileTree.entry?, malformedExample]
  constructor
  · have hfile : malformedExample.lookUp "r" = .ok (.file "a:1:x\nb:2\na:1:x\n".toUTF8) := by
      rw [lookUp, if_neg (by decide), if_neg (by decide), hwhere]
      rfl
    exact (read_eq_ok_iff _ _ _).mpr ⟨_, hfile, fromUTF8?_toUTF8 _⟩
  · rw [read, lookUp, if_neg (by decide), if_neg (by decide), hnowhere]
    rfl

/-- The final error about a second line with two fields, in one piece. -/
lemma finalError_second_line {path text : String}
    (h : IsFirstMalformed ⟨2, "b:2", 2⟩ (Text.linesOf text)) : FinalError path (.ok text)
      "Error: malformed report line 2: expected `file:line:rule`, got 2 field(s) in \"b:2\"\n" := by
  have htold : "Error: malformed report line " ++ toString 2 ++
      ": expected `file:line:rule`, got " ++ toString 2 ++ " field(s) in " ++ Text.quoted "b:2" ++
      "\n" =
      "Error: malformed report line 2: expected `file:line:rule`, got 2 field(s) in \"b:2\"\n" := by
    decide +kernel
  exact htold ▸ .malformed h

lemma finalError_malformedExample :
    FinalError "r" (malformedExample.read "r")
        "Error: malformed report line 2: expected `file:line:rule`, got 2 field(s) in \"b:2\"\n" ∧
      FinalError "s" (malformedExample.read "s") ("Error: failed to read report s\n\n" ++
        "Caused by:\n    No such file or directory (os error 2)\n") := by
  have hlines : Text.linesOf "a:1:x\nb:2\na:1:x\n" = ["a:1:x"] ++ "b:2" :: ["a:1:x"] := by
    decide +kernel
  have htold : "Error: failed to read report " ++ "s" ++ "\n\nCaused by:\n    " ++
      ("No such file or directory" ++ " (os error " ++ toString 2 ++ ")") ++ "\n" =
      "Error: failed to read report s\n\n" ++
        "Caused by:\n    No such file or directory (os error 2)\n" := by
    decide +kernel
  rw [read_malformedExample.1, read_malformedExample.2, ← htold]
  exact ⟨finalError_second_line ⟨_, _, _, hlines, by decide, by decide, by decide⟩,
    .unreadable (.refused _ _)⟩

/-- A malformed line behind a well-formed one, with settings found and everything logged; and a
report that is missing. -/
theorem exitCode_of_malformed_second_line :
    Options.parse ["-v", "r"] = .ok ⟨"r", true, false, false, false⟩ ∧
      (malformedExample.perform none ["-v", "r"]).exitCode = 1 ∧
      (malformedExample.perform none ["-v", "r"]).output = "" ∧
      (∃ log, (malformedExample.perform none ["-v", "r"]).diagnostics = log ++
        "Error: malformed report line 2: expected `file:line:rule`, got 2 field(s) in \"b:2\"\n") ∧
      Options.parse ["s"] = .ok ⟨"s", false, false, false, false⟩ ∧
      (malformedExample.perform none ["s"]).exitCode = 1 ∧
      (malformedExample.perform none ["s"]).output = "" ∧
      ∃ log, (malformedExample.perform none ["s"]).diagnostics = log ++
        ("Error: failed to read report s\n\n" ++
          "Caused by:\n    No such file or directory (os error 2)\n") := by
  have hparse : Options.parse ["-v", "r"] = .ok ⟨"r", true, false, false, false⟩ := rfl
  have hparse' : Options.parse ["s"] = .ok ⟨"s", false, false, false, false⟩ := rfl
  obtain ⟨htold, htold'⟩ := finalError_malformedExample
  obtain ⟨-, -, -, hone, hout, hlast, -⟩ := malformedExample.exitCode_told_by_report none hparse
  obtain ⟨-, -, -, hone', hout', hlast', -⟩ := malformedExample.exitCode_told_by_report none hparse'
  have hcode := hone.mpr ⟨_, htold⟩
  have hcode' := hone'.mpr ⟨_, htold'⟩
  exact ⟨hparse, hcode, hout.mpr hcode, hlast _ htold, hparse', hcode', hout'.mpr hcode',
    hlast' _ htold'⟩

end Disk

end FindingsDigest
