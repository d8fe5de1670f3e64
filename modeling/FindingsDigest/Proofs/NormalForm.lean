/-
# The normal form of a report

A catalogue can be written out as a report again: one line `file:line:rule` for each finding, in
the order of its listing.  Digesting this report gives the files in the same order, each with its
findings, but of equal findings only the first is left: two lines of the first report may differ
behind the third field and record the same finding, and this difference is not written out.  After
that nothing more is lost, so what is written out once is in normal form.

Reading a line undoes writing a record (`ofLine_spelled`), because no field of a report holds a
colon or a character of a line ending, and equal lines come from equal records.  So the sieve
holds back just the repeated records, and the records that are left, which stand one group after
the other, group as before (`grouped_normal`).
-/
import FindingsDigest.Proofs.Equality
import FindingsDigest.Proofs.LineEndings

namespace FindingsDigest

namespace Record

/-! ### Writing a record as a line -/

/-- A record as a report line. -/
def spelled (r : Record) : String :=
  r.file ++ ":" ++ r.finding.line ++ ":" ++ r.finding.rule

/-- Whether the parts of a record can be told from its line, and the line from its neighbours. -/
def Writable (r : Record) : Prop :=
  ∀ part ∈ r.parts, ':' ∉ part.toList ∧ Text.IsOneLine part.toList

lemma toList_spelled (r : Record) :
    r.spelled.toList = [':'].intercalate (r.parts.map String.toList) := by
  simp [spelled, parts, List.intercalate]

namespace Writable

variable {r : Record} (h : r.Writable)

include h

lemma isOneLine_spelled : Text.IsOneLine r.spelled.toList := by
  have hfile := (h r.file (by simp [parts])).2
  have hline := (h r.finding.line (by simp [parts])).2
  have hrule := (h r.finding.rule (by simp [parts])).2
  simp only [Text.IsOneLine] at hfile hline hrule ⊢
  simp [spelled, hfile, hline, hrule]

lemma fields_spelled : fields r.spelled = r.parts := by
  have hcolon : ∀ chars ∈ r.parts.map String.toList, ':' ∉ chars := by
    intro chars hchars
    obtain ⟨part, hpart, rfl⟩ := List.mem_map.mp hchars
    exact (h part hpart).1
  rw [fields, toList_spelled, List.splitOn_intercalate ':' hcolon (by simp [parts]), List.map_map]
  simp [Function.comp_def]

lemma colons_spelled : colons r.spelled = 2 := by
  have hlen : (r.spelled.toList.splitOn ':').length = colons r.spelled + 1 := length_splitOn _ _
  have hfields := congrArg List.length h.fields_spelled
  rw [fields, List.length_map, hlen] at hfields
  simpa [parts] using hfields

/-- Reading undoes writing. -/
lemma ofLine_spelled : ofLine r.spelled = r := by
  simp [ofLine, findingOf, field, h.fields_spelled, parts]

end Writable

/-- Writing undoes reading if there is nothing behind the third field. -/
lemma spelled_ofLine {line : String} (h : colons line = 2) : (ofLine line).spelled = line := by
  have hfields : fields line = (ofLine line).parts := by
    have hlen : (fields line).length = 3 := by
      rw [fields, List.length_map, length_splitOn]
      exact congrArg (· + 1) h
    have htake := take_three_fields (Nat.le_of_eq h.symm)
    rwa [List.take_of_length_le (Nat.le_of_eq hlen)] at htake
  apply String.toList_inj.mp
  rw [toList_spelled, ← hfields, fields, List.map_map]
  simp [Function.comp_def, List.intercalate_splitOn]

/-- What is read off a line of a report can be written. -/
lemma writable_ofLine {text line : String} (hline : line ∈ Text.linesOf text) :
    (ofLine line).Writable := by
  intro part hpart
  simp only [parts, ofLine, findingOf, List.mem_cons, List.not_mem_nil, or_false] at hpart
  rcases hpart with rfl | rfl | rfl
  · exact not_mem_field hline 0
  · exact not_mem_field hline 1
  · exact not_mem_field hline 2

/-! ### The different records, group by group -/

/-- The different records of a row, one group after the other. -/
def normal (records : List Record) : List Record :=
  (byGroup records).eraseDups

lemma mem_normal {records : List Record} {r : Record} : r ∈ normal records ↔ r ∈ records := by
  rw [normal, List.mem_eraseDups, mem_byGroup]

lemma normal_ne_nil {records : List Record} (h : records ≠ []) : normal records ≠ [] := by
  obtain ⟨r, hr⟩ := List.exists_mem_of_ne_nil records h
  exact List.ne_nil_of_mem (mem_normal.mpr hr)

lemma files_eraseDups (records : List Record) : files records.eraseDups = files records :=
  eraseDups_map_eraseDups file records

lemma findingsIn_eraseDups (records : List Record) (file : String) :
    findingsIn records.eraseDups file = (findingsIn records file).eraseDups := by
  rw [findingsIn, findingsIn, filter_eraseDups, eraseDups_map]
  -- records of one file are equal if their findings are
  rintro ⟨f, finding⟩ hr ⟨f', finding'⟩ hr' rfl
  obtain rfl : f = file := by simpa using List.of_mem_filter hr
  obtain rfl : f' = f := by simpa using List.of_mem_filter hr'
  rfl

lemma grouped_eraseDups (records : List Record) :
    grouped records.eraseDups = (grouped records).map fun g => (g.1, g.2.eraseDups) := by
  rw [grouped, grouped, files_eraseDups, List.map_map]
  exact List.map_congr_left fun file _ => by rw [findingsIn_eraseDups, Function.comp_apply]

lemma grouped_normal (records : List Record) :
    grouped (normal records) = (grouped records).map fun g => (g.1, g.2.eraseDups) := by
  rw [normal, grouped_eraseDups, grouped_byGroup]

/-- Once is enough. -/
lemma grouped_normal_normal (records : List Record) :
    grouped (normal (normal records)) = grouped (normal records) := by
  simp only [grouped_normal, List.map_map]
  exact List.map_congr_left fun g _ => by simp [eraseDups_eraseDups]

end Record

namespace Catalogue

open Record (normal)

/-! ### Writing a catalogue as a report -/

/-- The report that a catalogue gives: a line for each finding, in the order of the listing. -/
def text (c : Catalogue) : String :=
  String.join (c.records.map fun r => r.spelled ++ "\n")

lemma linesOf_text {c : Catalogue} (h : ∀ r ∈ c.records, r.Writable) :
    Text.linesOf c.text = c.records.map Record.spelled := by
  have htext : c.text = Text.ofLines (c.records.map Record.spelled) := by
    rw [text, Text.ofLines, List.map_map]
    rfl
  rw [htext, Text.linesOf_ofLines]
  intro l hl
  obtain ⟨r, hr, rfl⟩ := List.mem_map.mp hl
  exact (h r hr).isOneLine_spelled

end Catalogue

namespace Report

open Record (colons normal ofLine)
open Text (linesOf)

/-- The digest of a catalogue that is written out holds its different records. -/
lemma digest_text {records : List Record} (hne : records ≠ []) (h : ∀ r ∈ records, r.Writable)
    (path : String) : (ofText path (Catalogue.ofRecords records).text).digest =
      .ok (.findings (.ofRecords (normal records))) := by
  have hrecords := (Catalogue.holds_ofRecords records).records_eq
  have hw : ∀ r ∈ Record.byGroup records, r.Writable := fun r hr => h r (Record.mem_byGroup.mp hr)
  have hlines : linesOf (Catalogue.ofRecords records).text =
      (Record.byGroup records).map Record.spelled := by
    rw [Catalogue.linesOf_text (hrecords ▸ hw), hrecords]
  have hnonempty : linesOf (Catalogue.ofRecords records).text ≠ [] := by
    obtain ⟨r, hr⟩ := List.exists_mem_of_ne_nil records hne
    rw [hlines]
    exact List.ne_nil_of_mem (List.mem_map_of_mem (Record.mem_byGroup.mpr hr))
  have hcolons : ∀ line ∈ linesOf (Catalogue.ofRecords records).text, 2 ≤ colons line := by
    rw [hlines]
    intro line hline
    obtain ⟨r, hr, rfl⟩ := List.mem_map.mp hline
    exact Nat.le_of_eq (hw r hr).colons_spelled.symm
  -- equal lines record equal findings, so the sieve holds back repeated records and no others
  have hinj : ∀ r ∈ Record.byGroup records, ∀ s ∈ Record.byGroup records,
      r.spelled = s.spelled → r = s := by
    intro r hr s hs heq
    rw [← (hw r hr).ofLine_spelled, heq, (hw s hs).ofLine_spelled]
  have hread : ((linesOf (Catalogue.ofRecords records).text).eraseDups.map ofLine) =
      normal records := by
    rw [hlines, eraseDups_map hinj, List.map_map, normal]
    conv_rhs => rw [← List.map_id (List.eraseDups _)]
    exact List.map_congr_left fun r hr => (hw r (List.mem_eraseDups.mp hr)).ofLine_spelled
  rw [digest_of_two_le_colons hnonempty hcolons, hread]

/-- Different lines without further fields record different findings. -/
lemma eraseDups_map_ofLine {lines : List String} (h : ∀ line ∈ lines, colons line = 2) :
    (lines.eraseDups.map ofLine).eraseDups = lines.eraseDups.map ofLine := by
  rw [eraseDups_map, eraseDups_eraseDups]
  intro line hline line' hline' heq
  rw [List.mem_eraseDups] at hline hline'
  rw [← Record.spelled_ofLine (h line hline), heq, Record.spelled_ofLine (h line' hline')]

/-- **The normal form of a report.**  If the catalogue of a report is written out, the digest of
what was written is a catalogue with the same files in the same order, each with its findings,
of equal ones only the first.  Writing that catalogue out and digesting again gives an equal one.
If no line of the report has more than three fields, the first of the two is already equal to the
catalogue of the report. -/
theorem digest_text_of_digest (path : String) {text : String} {c : Catalogue}
    (h : (ofText path text).digest = .ok (.findings c)) :
    ∃ d, (ofText path c.text).digest = .ok (.findings d) ∧
      d.toList = c.toList.map (fun g => (g.1, g.2.eraseDups)) ∧
      (∃ e, (ofText path d.text).digest = .ok (.findings e) ∧ (e == d) = true) ∧
      ((∀ line ∈ linesOf text, colons line = 2) → (d == c) = true) := by
  obtain ⟨hne, -, rfl⟩ := (digest_eq_findings_iff path text c).mp h
  have hrecords : ((linesOf text).eraseDups.map ofLine) ≠ [] := by
    obtain ⟨line, hline⟩ := List.exists_mem_of_ne_nil _ hne
    exact List.ne_nil_of_mem (List.mem_map_of_mem (List.mem_eraseDups.mpr hline))
  have hw : ∀ r ∈ (linesOf text).eraseDups.map ofLine, r.Writable := by
    intro r hr
    obtain ⟨line, hline, rfl⟩ := List.mem_map.mp hr
    exact Record.writable_ofLine (List.mem_eraseDups.mp hline)
  have htwice := digest_text (Record.normal_ne_nil hrecords)
    (fun r hr => hw r (Record.mem_normal.mp hr)) path
  refine ⟨_, digest_text hrecords hw path, ?_, ⟨_, htwice, ?_⟩, fun hcolons => ?_⟩
  · rw [(Catalogue.holds_ofRecords _).toList_eq, (Catalogue.holds_ofRecords _).toList_eq,
      Record.grouped_normal]
  · rw [Catalogue.beq_ofRecords_iff, Record.grouped_normal_normal]
  · rw [Catalogue.beq_ofRecords_iff, Record.grouped_normal, ← Record.grouped_eraseDups,
      eraseDups_map_ofLine hcolons]

/-- Two lines differ only behind the third field, and one of their records is lost; if nothing
stands behind the third field, only the order of the lines changes. -/
theorem digest_text_with_and_without_fourth_field :
    (∃ c d, (ofText "report" "b:1:x\na:2:y\nb:1:x:z\n").digest = .ok (.findings c) ∧
      c.text = "b:1:x\nb:1:x\na:2:y\n" ∧
      (ofText "report" "b:1:x\nb:1:x\na:2:y\n").digest = .ok (.findings d) ∧
      d.toList = [("b", [⟨"1", "x"⟩]), ("a", [⟨"2", "y"⟩])]) ∧
    ∃ c d, (ofText "report" "b:1:x\na:2:y\rb:3:z").digest = .ok (.findings c) ∧
      (ofText "report" c.text).digest = .ok (.findings d) ∧ (d == c) = true := by
  constructor
  · have hne : linesOf "b:1:x\na:2:y\nb:1:x:z\n" ≠ [] := by decide +kernel
    have hc := digest_of_two_le_colons hne (by decide +kernel) "report"
    obtain ⟨d, hd, hlist, -⟩ := digest_text_of_digest "report" hc
    have htext : Catalogue.text (.ofRecords
        ((linesOf "b:1:x\na:2:y\nb:1:x:z\n").eraseDups.map ofLine)) =
          "b:1:x\nb:1:x\na:2:y\n" := by decide +kernel
    exact ⟨_, d, hc, htext, htext ▸ hd, hlist.trans (by decide +kernel)⟩
  · have hne : linesOf "b:1:x\na:2:y\rb:3:z" ≠ [] := by decide +kernel
    have hc := digest_of_two_le_colons hne (by decide +kernel) "report"
    obtain ⟨d, hd, -, -, hsame⟩ := digest_text_of_digest "report" hc
    exact ⟨_, d, hc, hd, hsame (by decide +kernel)⟩

end Report

end FindingsDigest
