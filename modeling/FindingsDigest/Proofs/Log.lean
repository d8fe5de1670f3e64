/-
# The log of a run

A run notes what it does, and the level that its options choose decides which notes are written.
Of all notes only one is a warning, that a settings file is ignored, and none is an error.  So a
run that shows errors only writes nothing, and one that shows warnings writes at most that one
note (`upTo_error_notes`, `upTo_warn_notes`).  What follows the log is told by the end of the run
alone.

A text without the controls that a terminal acts on is written as it is (`Note.shown_eq_self`).
-/
import FindingsDigest.Run
import Mathlib.Data.List.Basic

namespace FindingsDigest

namespace Note

/-! ### Lines of the log -/

/-- Whether a character is a control that a terminal acts on. -/
def IsControl (c : Char) : Prop :=
  c ∈ ['\x1b', '\x07', '\x08', '\x0c', '\x7f'] ∨ 0x80 ≤ c.toNat ∧ c.toNat ≤ 0x9f

instance : DecidablePred IsControl := fun c =>
  inferInstanceAs (Decidable (c ∈ ['\x1b', '\x07', '\x08', '\x0c', '\x7f'] ∨
    0x80 ≤ c.toNat ∧ c.toNat ≤ 0x9f))

lemma showChar_of_not_isControl {c : Char} (h : ¬ IsControl c) : showChar c = [c] := by
  simp only [IsControl, List.mem_cons, List.not_mem_nil, or_false, not_or] at h
  obtain ⟨⟨hescape, hbell, hback, hform, hdelete⟩, hrange⟩ := h
  simp only [showChar, hescape, hbell, hback, hform, hdelete, if_false, Bool.and_eq_true,
    decide_eq_true_eq, hrange]

lemma shown_eq_self {text : String} (h : ∀ c ∈ text.toList, ¬ IsControl c) :
    shown text = text := by
  have hchars : text.toList.flatMap showChar = text.toList.flatMap fun c => [c] :=
    List.flatMap_congr fun c hc => showChar_of_not_isControl (h c hc)
  rw [shown, hchars, List.flatMap_singleton', String.ofList_toList]

lemma shown_append (text more : String) : shown (text ++ more) = shown text ++ shown more := by
  apply String.toList_inj.mp
  simp [shown]

lemma line_warn (color : Bool) (text : String) : line color ⟨.warn, text⟩ =
    (if color then "\x1b[33m WARN\x1b[0m " else " WARN ") ++ shown text ++ "\n" := by
  cases color <;> rfl

/-! ### Notes up to a level -/

lemma upTo_append (level : Level) (notes more : List Note) :
    upTo level (notes ++ more) = upTo level notes ++ upTo level more :=
  List.filter_append ..

@[simp]
lemma lines_nil (color : Bool) : lines color [] = "" := rfl

@[simp]
lemma lines_singleton (color : Bool) (n : Note) : lines color [n] = n.line color := by
  simp [lines]

/-- The higher the level, the more is shown. -/
lemma upTo_sublist_upTo {level level' : Level} (h : level.rank ≤ level'.rank) (notes : List Note) :
    (upTo level notes).Sublist (upTo level' notes) := by
  refine List.monotone_filter_right notes fun n hn => ?_
  simp only [decide_eq_true_eq] at hn ⊢
  exact Nat.le_trans hn h

end Note

/-- The warnings about a settings file: that it is ignored, if it gives no settings. -/
def SettingsFile.warnings (file : SettingsFile) : List Note :=
  match Settings.ofFile file with
  | .ok _ => []
  | .error e => [⟨.warn, "Ignoring " ++ file.path ++ ": " ++ e.explanation⟩]

/-- The warnings of a run. -/
def Surroundings.warnings (s : Surroundings) (o : Options) : List Note :=
  ((s.settingsFile? o).map SettingsFile.warnings).getD []

variable {o : Options} {s : Surroundings}

lemma SettingsFile.upTo_warn_notes (file : SettingsFile) :
    Note.upTo .warn file.notes = file.warnings := by
  unfold notes warnings
  rcases Settings.ofFile file with e | settings <;> rfl

lemma Surroundings.upTo_warn_openingNotes :
    Note.upTo .warn (s.openingNotes o) = s.warnings o := by
  have hversion : Note.upTo .warn [⟨.info, "misra-summary v" ++ Options.programVersion⟩] = [] := rfl
  have hcolor : Note.upTo .warn [⟨.debug, "color output: " ++ toString (s.chosenColor o)⟩] = [] :=
    rfl
  rw [openingNotes, warnings, Note.upTo_append, Note.upTo_append, hversion, hcolor,
    List.nil_append, List.append_nil]
  rcases s.settingsFile? o with _ | file
  · rfl
  · exact file.upTo_warn_notes

lemma Report.upTo_warn_readingNotes (r : Report) : Note.upTo .warn r.readingNotes = [] := rfl

lemma Report.upTo_warn_digestNotes (r : Report) (result : Except Malformed Digest) :
    Note.upTo .warn (r.digestNotes result) = [] := by
  rcases result with m | (_ | c) <;> rfl

/-- Up to warnings a run writes that a settings file is ignored, and nothing else. -/
lemma upTo_warn_notes : Note.upTo .warn (run o s).notes = s.warnings o := by
  unfold run
  rcases s.report with fault | text
  · exact Surroundings.upTo_warn_openingNotes
  · have hnotes : Note.upTo .warn (s.openingNotes o ++ (Report.ofText o.report text).readingNotes ++
        (Report.ofText o.report text).digestNotes (Report.ofText o.report text).digest) =
          s.warnings o := by
      rw [Note.upTo_append, Note.upTo_append, Surroundings.upTo_warn_openingNotes,
        Report.upTo_warn_readingNotes, Report.upTo_warn_digestNotes, List.append_nil,
        List.append_nil]
    rcases hdigest : (Report.ofText o.report text).digest with m | digest <;>
      simpa [hdigest] using hnotes

/-- A run that is neither quiet nor verbose writes its warnings. -/
lemma upTo_level_notes (hverbose : o.verbose = false) (hquiet : o.quiet = false) :
    Note.upTo o.level (run o s).notes = s.warnings o := by
  have hlevel : o.level = .warn := by simp [Options.level, hverbose, hquiet]
  rw [hlevel, upTo_warn_notes]

lemma SettingsFile.level_of_mem_warnings {file : SettingsFile} {n : Note} (h : n ∈ file.warnings) :
    n.level = .warn := by
  unfold warnings at h
  split at h
  · exact absurd h List.not_mem_nil
  · rw [List.mem_singleton.mp h]

lemma Surroundings.level_of_mem_warnings {n : Note} (h : n ∈ s.warnings o) : n.level = .warn := by
  unfold warnings at h
  rcases hfile : s.settingsFile? o with _ | file
  · simp [hfile] at h
  · exact SettingsFile.level_of_mem_warnings (by simpa [hfile] using h)

/-- A run notes no errors. -/
lemma upTo_error_notes : Note.upTo .error (run o s).notes = [] := by
  have hsub := Note.upTo_sublist_upTo (show Level.error.rank ≤ Level.warn.rank by decide)
    (run o s).notes
  rw [upTo_warn_notes] at hsub
  refine List.eq_nil_iff_forall_not_mem.mpr fun n hn => ?_
  have hrank := (List.mem_filter.mp hn).2
  simp [Surroundings.level_of_mem_warnings (hsub.subset hn), Level.rank] at hrank

/-- Nothing is told at the end of a run just if it does not fail. -/
lemma Ending.complaint_eq_empty_iff (e : Ending) : e.complaint = "" ↔ e.exitCode ≠ 1 := by
  cases e with
  | printed page color found => cases found <;> simp [complaint, exitCode]
  | failed f =>
    have hne : f.explanation ≠ "" := by
      unfold Failure.explanation
      split <;> simp
    simp [complaint, exitCode, hne]

namespace Disk

/-- The notes that a run writes. -/
def log (d : Disk) (noColor : Option String) (o : Options) : List Note :=
  Note.upTo o.level (d.run noColor o).notes

/-- What a run tells behind its log. -/
def complaint (d : Disk) (noColor : Option String) (o : Options) : String :=
  (d.run noColor o).ending.complaint

variable {d : Disk} {noColor : Option String}

lemma log_usual (hverbose : o.verbose = false) (hquiet : o.quiet = false) :
    d.log noColor o = (d.surroundings noColor o).warnings o :=
  upTo_level_notes hverbose hquiet

lemma perform_diagnostics {arguments : List String} (h : Options.parse arguments = .ok o) :
    (d.perform noColor arguments).diagnostics =
      Note.lines (!asksNoColor noColor) (d.log noColor o) ++ d.complaint noColor o := by
  rw [perform, h]
  rfl

end Disk

end FindingsDigest
