/-
# Pages that break off

The settings take every width that 64 bits can hold, and the file name of a finding is padded to
it.  But a row of blanks in memory has at most `longestRow` of them, which is half of that.  So
there are settings and reports, each of them accepted, whose page cannot be made.

Which pages these are can be told from the width and the file names alone: with the word in front
of it, which has five characters, a file name must come up to the width within `longestRow` blanks
(`padding_le_longestRow_iff`).  A page that cannot be made breaks off at the first finding that
asks for more.  This is shown line by line: a line that can be made goes to what is printed in
front (`IsMade.make_append_of_error`), and a line that cannot be made leaves nothing of itself
(`make_recordLine_append`); the rest is an induction on the records of a catalogue.

A run of the program breaks off with its page, and does else what it would do without an end to
memory (`Disk.performInMemory_breaks_off`).
-/
import FindingsDigest.Memory
import FindingsDigest.Proofs.Colors
import FindingsDigest.Proofs.Output

namespace FindingsDigest

/-! ### The widths that settings take -/

namespace Settings

lemma lt_of_width?_eq_some {fallback n : ℕ} {v : Option Toml.Value}
    (hfallback : fallback < UInt64.size) (h : width? fallback v = some n) : n < UInt64.size := by
  rcases v with _ | v
  · cases h
    exact hfallback
  · cases v with
    | integer m =>
      simp only [width?, Option.ite_none_right_eq_some, Bool.and_eq_true, decide_eq_true_eq] at h
      obtain ⟨⟨hnonneg, hlt⟩, hn⟩ := h
      cases hn
      omega
    | _ => cases h

lemma columnWidth_lt_of_ofValues? {color width : Option Toml.Value} {s : Settings}
    (h : ofValues? color width = some s) : s.columnWidth < UInt64.size := by
  obtain ⟨b, -, h⟩ := Option.bind_eq_some_iff.mp h
  obtain ⟨n, hn, h⟩ := Option.bind_eq_some_iff.mp h
  cases h
  exact lt_of_width?_eq_some (by decide) hn

lemma columnWidth_lt_of_ofOutput? {v : Toml.Value} {s : Settings} (h : ofOutput? v = some s) :
    s.columnWidth < UInt64.size := by
  cases v with
  | table origin es =>
    simp only [ofOutput?, Option.ite_none_right_eq_some] at h
    exact columnWidth_lt_of_ofValues? h.2
  | array items => exact columnWidth_lt_of_ofValues? h
  | moment =>
    cases h
    decide
  | _ => cases h

lemma columnWidth_lt_of_ofEntries? {es : Toml.Entries} {s : Settings}
    (h : ofEntries? es = some s) : s.columnWidth < UInt64.size := by
  simp only [ofEntries?, Option.ite_none_right_eq_some] at h
  obtain ⟨-, h⟩ := h
  split at h
  · cases h
    decide
  · exact columnWidth_lt_of_ofOutput? h

lemma columnWidth_lt_of_ofText? {toml : String} {s : Settings} (h : ofText? toml = some s) :
    s.columnWidth < UInt64.size := by
  obtain ⟨es, -, h⟩ := Option.bind_eq_some_iff.mp h
  exact columnWidth_lt_of_ofEntries? h

end Settings

namespace Page

/-! ### Pages that are made -/

/-- A file name is padded together with the word in front of it. -/
lemma padding_eq (width : ℕ) (file : String) :
    padding width file = width - (5 + file.length) := by
  have hword : "File ".length = 5 := by decide
  rw [padding, hword]

lemma padding_le_longestRow_iff (width : ℕ) (file : String) :
    padding width file ≤ longestRow ↔ width ≤ longestRow + 5 + file.length := by
  rw [padding_eq]
  omega

@[simp]
lemma fits_colored (role : Role) (text : String) : (Piece.colored role text).fits = true := rfl

@[simp]
lemma fits_blanks (count : ℕ) : (Piece.blanks count).fits = decide (count ≤ longestRow) := rfl

@[simp]
lemma fits_lineEnd : Piece.lineEnd.fits = true := rfl

lemma make_of_fits {page : Page} (h : ∀ p ∈ page, p.fits) : page.make = .ok page := by
  rw [make, if_pos (List.all_eq_true.mpr h)]

lemma wholeLines_isPrefix (page : Page) : page.wholeLines <+: page := by
  have h := List.reverse_prefix.mpr (List.dropWhile_suffix (l := page.reverse) (· ≠ .lineEnd))
  rwa [List.reverse_reverse] at h

/-- A page that breaks off is printed from its beginning. -/
lemma written_prefix_of_make {page : Page} {broken : BrokenOff} (h : page.make = .error broken) :
    broken.written <+: page := by
  rw [make] at h
  split at h
  · cases h
  · cases h
    refine (wholeLines_isPrefix _).trans ?_
    exact List.takeWhile_prefix _

/-- Whether a page can be made and has come to the end of a line. -/
structure IsMade (page : Page) : Prop where
  fits : ∀ p ∈ page, p.fits
  wholeLines_eq : page.wholeLines = page

namespace IsMade

variable {front : Page} (h : IsMade front)
include h

/-- Made lines stay in front of what ends behind them. -/
lemma wholeLines_append (page : Page) :
    wholeLines (front ++ page) = front ++ wholeLines page := by
  have hfront : front.reverse.dropWhile (· ≠ .lineEnd) = front.reverse :=
    List.reverse_eq_iff.mp h.wholeLines_eq
  rw [wholeLines, wholeLines, List.reverse_append, List.dropWhile_append, hfront]
  split
  · next hnone =>
    rw [List.isEmpty_iff.mp hnone]
    simp
  · simp

/-- Made lines are printed, even if the page breaks off behind them. -/
lemma make_append_of_error {page : Page} {broken : BrokenOff} (hpage : page.make = .error broken) :
    make (front ++ page) = .error ⟨front ++ broken.written⟩ := by
  have hfront : front.all Piece.fits = true := List.all_eq_true.mpr h.fits
  rw [make] at hpage ⊢
  rw [List.all_append, hfront, Bool.true_and]
  split at hpage
  · cases hpage
  · next hfits =>
    obtain rfl := Except.error.inj hpage
    rw [if_neg hfits, List.takeWhile_append_of_pos h.fits, h.wholeLines_append]

end IsMade

/-! ### The lines of records -/

lemma fits_recordLine_iff {width : ℕ} {r : Record} :
    (∀ p ∈ recordLine width r, p.fits) ↔ padding width r.file ≤ longestRow := by
  have hone : 1 ≤ longestRow := by decide
  simp [recordLine, findingLine, hone]

lemma isMade_recordLine {width : ℕ} {r : Record} (h : padding width r.file ≤ longestRow) :
    IsMade (recordLine width r) := by
  refine ⟨fits_recordLine_iff.mpr h, ?_⟩
  rw [wholeLines, recordLine, List.reverse_append]
  simp

/-- Of a line that cannot be made nothing is printed. -/
lemma make_recordLine_append {width : ℕ} {r : Record} (h : longestRow < padding width r.file)
    (page : Page) : make (recordLine width r ++ page) = .error ⟨[]⟩ := by
  have hwide : ¬ (recordLine width r ++ page).all Piece.fits := by
    intro hall
    have hfits := fun p hp => List.all_eq_true.mp hall p (List.mem_append_left page hp)
    exact absurd (fits_recordLine_iff.mp hfits) (Nat.not_le_of_lt h)
  have hfront : (recordLine width r ++ page).takeWhile Piece.fits =
      [.colored .alert "File ", .colored .highlight r.file] := by
    simp [recordLine, findingLine, List.takeWhile_cons, Nat.not_le_of_lt h]
  rw [make, if_neg hwide, hfront]
  rfl

/-- The lines of records are printed up to the first record that is too wide. -/
lemma make_flatMap_recordLine_append {width : ℕ} {records : List Record}
    (h : ∃ r ∈ records, longestRow < padding width r.file) (page : Page) :
    make (records.flatMap (recordLine width) ++ page) =
      .error ⟨(records.takeWhile (padding width ·.file ≤ longestRow)).flatMap
        (recordLine width)⟩ := by
  induction records with
  | nil => simp at h
  | cons r records ih =>
    rw [List.flatMap_cons, List.append_assoc]
    by_cases hr : padding width r.file ≤ longestRow
    · have hlater : ∃ r ∈ records, longestRow < padding width r.file := by
        simpa [Nat.not_lt_of_le hr] using h
      rw [(isMade_recordLine hr).make_append_of_error (ih hlater)]
      simp [hr]
    · rw [make_recordLine_append (Nat.lt_of_not_le hr)]
      simp [hr]

/-- The page of a catalogue breaks off at its first record that is too wide. -/
lemma make_ofCatalogue_of_wide {width : ℕ} {c : Catalogue}
    (h : ∃ r ∈ c.records, longestRow < padding width r.file) :
    (ofCatalogue width c).make = .error ⟨head ++
      (c.records.takeWhile (padding width ·.file ≤ longestRow)).flatMap (recordLine width)⟩ := by
  have hhead : IsMade head := ⟨by decide, by decide⟩
  rw [ofCatalogue_eq, List.append_assoc]
  exact hhead.make_append_of_error (make_flatMap_recordLine_append h foot)

lemma make_ofCatalogue_of_narrow {width : ℕ} {c : Catalogue}
    (h : ∀ r ∈ c.records, padding width r.file ≤ longestRow) :
    (ofCatalogue width c).make = .ok (ofCatalogue width c) := by
  have hhead : ∀ p ∈ head, p.fits := by decide
  have hfoot : ∀ p ∈ foot, p.fits := by decide
  refine make_of_fits fun p hp => ?_
  rw [ofCatalogue_eq, List.mem_append, List.mem_append, List.mem_flatMap] at hp
  rcases hp with (hp | ⟨r, hr, hp⟩) | hp
  · exact hhead p hp
  · exact fits_recordLine_iff.mpr (h r hr) p hp
  · exact hfoot p hp

lemma exists_make_ofCatalogue_eq_error_iff {width : ℕ} {c : Catalogue} :
    (∃ broken, (ofCatalogue width c).make = .error broken) ↔
      ∃ r ∈ c.records, longestRow < padding width r.file := by
  constructor
  · rintro ⟨broken, hbroken⟩
    by_contra hnone
    rw [make_ofCatalogue_of_narrow (by simpa using hnone)] at hbroken
    cases hbroken
  · exact fun h => ⟨_, make_ofCatalogue_of_wide h⟩

/-- The page of a digest is made just if no file name in it asks for too many blanks. -/
lemma exists_make_ofDigest_eq_ok_iff {width : ℕ} {d : Digest} :
    (∃ page, (ofDigest width d).make = .ok page) ↔
      ∀ r ∈ d.catalogue.records, width ≤ longestRow + 5 + r.file.length := by
  cases d with
  | clean => exact iff_of_true ⟨_, rfl⟩ fun r hr => absurd hr List.not_mem_nil
  | findings c =>
    simp only [← padding_le_longestRow_iff]
    constructor
    · rintro ⟨page, hpage⟩ r hr
      by_contra hwide
      obtain ⟨broken, hbroken⟩ :=
        exists_make_ofCatalogue_eq_error_iff.mpr ⟨r, hr, Nat.lt_of_not_le hwide⟩
      cases hpage.symm.trans hbroken
    · exact fun hnarrow => ⟨_, make_ofCatalogue_of_narrow hnarrow⟩

end Page

namespace Report

open Record (field ofLine)

/-- The files of the records in a digest are the first fields of the lines. -/
lemma exists_mem_records_iff {path text : String} {c : Catalogue}
    (h : (ofText path text).digest = .ok (.findings c)) (P : String → Prop) :
    (∃ r ∈ c.records, P r.file) ↔ ∃ line ∈ Text.linesOf text, P (field line 0) := by
  obtain ⟨-, -, rfl⟩ := (digest_eq_findings_iff path text c).mp h
  simp [(Catalogue.holds_ofRecords _).records_eq, Record.mem_byGroup, List.mem_eraseDups, ofLine]

end Report

namespace Page

open Record (field)

/-- The page of a report breaks off if a line of the report is on a file that is too wide. -/
lemma exists_make_eq_error_iff_of_report {path text : String} {c : Catalogue}
    (h : (Report.ofText path text).digest = .ok (.findings c)) (width : ℕ) :
    (∃ broken, (ofDigest width (.findings c)).make = .error broken) ↔
      ∃ line ∈ Text.linesOf text, longestRow < padding width (field line 0) :=
  exists_make_ofCatalogue_eq_error_iff.trans
    (Report.exists_mem_records_iff h fun file => longestRow < padding width file)

end Page

/-! ### Runs whose page breaks off -/

open Page (padding)
open Record (colons field)

/-- Whether a report that was read has a line on a file that is too wide. -/
def TooWide (read : Except Fault String) (width : ℕ) : Prop :=
  ∃ text, read = .ok text ∧ ∃ line ∈ Text.linesOf text, longestRow < padding width (field line 0)

/-- Whether an end prints a page that cannot be made. -/
def Ending.BreaksOff (e : Ending) : Prop :=
  ∃ page colored found broken, e = .printed page colored found ∧ page.make = .error broken

namespace Ending

lemma exitCode_ne_101 (e : Ending) : e.exitCode ≠ 101 := by
  cases e with
  | printed page colored found => cases found <;> simp [exitCode]
  | failed f => simp [exitCode]

/-- Only a page of findings can break off, and it does so if a file is too wide. -/
lemma breaksOff_ofRead_iff (path : String) (read : Except Fault String) (width : ℕ)
    (color : Bool) : (ofRead path read width color).BreaksOff ↔
      (ofRead path read width color).exitCode = 127 ∧ TooWide read width := by
  rcases read with fault | text
  · simp [ofRead, BreaksOff, TooWide]
  · rcases hdigest : (Report.ofText path text).digest with m | (_ | c)
    · simp [ofRead, hdigest, BreaksOff, exitCode]
    · have hclean : (Page.ofDigest width .clean).make = .ok (Page.ofDigest width .clean) := rfl
      simp [ofRead, hdigest, BreaksOff, exitCode, Digest.hasFindings, hclean]
    · have hmake := Page.exists_make_eq_error_iff_of_report hdigest width
      simp [ofRead, hdigest, BreaksOff, exitCode, Digest.hasFindings, TooWide, hmake]

lemma inMemory_of_not_breaksOff {e : Ending} (h : ¬ e.BreaksOff) :
    e.inMemory = ⟨e.exitCode, e.output, e.complaint⟩ := by
  unfold inMemory
  split
  · rfl
  · next page colored found =>
    split
    · rfl
    · next broken hmake => exact absurd ⟨page, colored, found, broken, rfl, hmake⟩ h

lemma inMemory_of_breaksOff {e : Ending} (h : e.BreaksOff) :
    e.inMemory.exitCode = 101 ∧ e.inMemory.output.toList <+: e.output.toList ∧
      e.complaint = "" ∧ e.inMemory.diagnostics = "capacity overflow\n" := by
  obtain ⟨page, colored, found, broken, rfl, hmake⟩ := h
  obtain ⟨rest, rfl⟩ := Page.written_prefix_of_make hmake
  have hmessage : broken.message ++ "\n" = "capacity overflow\n" := rfl
  simp [inMemory, hmake, output, complaint, Page.text, hmessage]

/-- What is told behind the log is told by the exit code. -/
lemma diagnostics_inMemory (e : Ending) :
    (e.inMemory.exitCode = 101 → e.inMemory.diagnostics = "capacity overflow\n") ∧
      (e.inMemory.exitCode ≠ 101 → e.inMemory = ⟨e.exitCode, e.output, e.complaint⟩) := by
  by_cases hbreaks : e.BreaksOff
  · obtain ⟨hcode, -, -, htold⟩ := inMemory_of_breaksOff hbreaks
    exact ⟨fun _ => htold, fun hne => absurd hcode hne⟩
  · rw [inMemory_of_not_breaksOff hbreaks]
    exact ⟨fun hcode => absurd hcode e.exitCode_ne_101, fun _ => rfl⟩

end Ending

namespace Outcome

variable {r : Outcome}

lemma printedInMemory_of_not_breaksOff (h : ¬ r.ending.BreaksOff) (level : Level) (color : Bool) :
    r.printedInMemory level color = r.printed level color := by
  rw [printedInMemory, Ending.inMemory_of_not_breaksOff h]
  rfl

lemma printedInMemory_of_breaksOff (h : r.ending.BreaksOff) (level : Level) (color : Bool) :
    (r.printedInMemory level color).exitCode = 101 ∧
      (r.printedInMemory level color).output.toList <+: (r.printed level color).output.toList ∧
      (r.printedInMemory level color).diagnostics =
        (r.printed level color).diagnostics ++ "capacity overflow\n" := by
  obtain ⟨hcode, houtput, hcomplaint, htold⟩ := Ending.inMemory_of_breaksOff h
  refine ⟨hcode, houtput, ?_⟩
  rw [printedInMemory, printed, htold, hcomplaint, String.append_empty]

end Outcome

namespace Disk

/-- **Runs whose page breaks off.**  A run that would print findings breaks off just if a line of
its report is on a file that is too wide for the settings.  Its exit code is then none with which
a run comes to its end, and what it has printed is the beginning of the page; that it broke off is
told after the log.  All other runs do as they would without an end to memory. -/
theorem performInMemory_breaks_off (d : Disk) (noColor : Option String) {arguments : List String}
    {o : Options} (h : Options.parse arguments = .ok o) :
    let p := d.perform noColor arguments
    let p' := d.performInMemory noColor arguments
    p.exitCode ≠ 101 ∧
      (p'.exitCode = 101 ↔
        p.exitCode = 127 ∧ TooWide (d.read o.report) (d.usedSettings o).columnWidth) ∧
      (p'.exitCode ≠ 101 → p' = p) ∧
      (p'.exitCode = 101 → p'.output.toList <+: p.output.toList ∧
        p'.diagnostics = p.diagnostics ++ "capacity overflow\n") := by
  intro p p'
  have hp : p = (d.run noColor o).printed o.level (!asksNoColor noColor) := by
    simp only [p, perform, h]
  have hp' : p' = (d.run noColor o).printedInMemory o.level (!asksNoColor noColor) := by
    simp only [p', performInMemory, h]
  have hcode : p.exitCode ≠ 101 := hp ▸ (d.run noColor o).ending.exitCode_ne_101
  have hiff : (d.run noColor o).ending.BreaksOff ↔
      p.exitCode = 127 ∧ TooWide (d.read o.report) (d.usedSettings o).columnWidth := by
    rw [run_ending, Ending.breaksOff_ofRead_iff, ← run_ending, hp]
    rfl
  refine ⟨hcode, ?_⟩
  rw [← hiff]
  by_cases hbreaks : (d.run noColor o).ending.BreaksOff
  · obtain ⟨h101, hrest⟩ := Outcome.printedInMemory_of_breaksOff hbreaks o.level
      (!asksNoColor noColor)
    rw [← hp'] at h101
    rw [← hp, ← hp'] at hrest
    exact ⟨iff_of_true h101 hbreaks, fun hne => absurd h101 hne, fun _ => hrest⟩
  · have hsame : p' = p := by
      rw [hp', hp, Outcome.printedInMemory_of_not_breaksOff hbreaks]
    rw [hsame]
    exact ⟨iff_of_false hcode hbreaks, fun _ => rfl, fun h101 => absurd h101 hcode⟩

/-- A run breaks off if it has findings, and one of its lines is on a file that is too wide for the
settings. -/
lemma performInMemory_exitCode_eq_101_iff {d : Disk} {noColor : Option String}
    {arguments : List String} {o : Options} (h : Options.parse arguments = .ok o) :
    (d.performInMemory noColor arguments).exitCode = 101 ↔
      ∃ text, d.read o.report = .ok text ∧ (∀ line ∈ Text.linesOf text, 2 ≤ colons line) ∧
        ∃ line ∈ Text.linesOf text,
          longestRow + 5 + (field line 0).length < (d.usedSettings o).columnWidth := by
  have hwide : ∀ line, longestRow < padding (d.usedSettings o).columnWidth (field line 0) ↔
      longestRow + 5 + (field line 0).length < (d.usedSettings o).columnWidth := by
    intro line
    rw [Page.padding_eq]
    omega
  obtain ⟨-, hcode, -⟩ := d.performInMemory_breaks_off noColor h
  rw [hcode, (d.perform_endsAs noColor h).found_iff]
  constructor
  · rintro ⟨⟨text, hread, -, hcolons⟩, text', hread', line, hline, hlong⟩
    obtain rfl : text = text' := Except.ok.inj (hread.symm.trans hread')
    exact ⟨text, hread, hcolons, line, hline, (hwide line).mp hlong⟩
  · rintro ⟨text, hread, hcolons, line, hline, hlong⟩
    have hne : text ≠ "" := by
      rintro rfl
      simp [(Text.linesOf_eq_nil_iff "").mpr rfl] at hline
    exact ⟨⟨text, hread, hne, hcolons⟩, text, hread, line, hline, (hwide line).mpr hlong⟩

end Disk

end FindingsDigest
