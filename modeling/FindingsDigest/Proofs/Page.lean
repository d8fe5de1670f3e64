/-
# The rows of a plain page

Without colors the page of a catalogue is a row of lines: four above the findings, one for each
finding, and three below.  If the catalogue is the digest of a report, then the lines of the
findings can be told from the report: they are made from its distinct lines, which a stable
sort has brought together by file.

The sort is nowhere in the program, which only writes one group after the other; that this
comes to a stable sort is `flatMap_filter_eq_mergeSort`, and `records_ofLines` says it of the
records.  That each finding keeps to one line needs the lines of the report once more: no field
holds a line feed since no line does.

The page can be made just if every line of the report leaves it a row of blanks that fits into
memory.  If not, then what is printed are the rows in front of the first line that does not, and
these are told by the same sorted lines.
-/
import FindingsDigest.Proofs.Alignment

namespace FindingsDigest

namespace Page

open Record (field fields not_mem_fields ofLine)

/-! ### The rows of a page -/

/-- Rows as one text, each with a line feed at its end. -/
def joinRows (rows : List String) : String :=
  String.join (rows.map (· ++ "\n"))

lemma joinRows_append (rows rows' : List String) :
    joinRows (rows ++ rows') = joinRows rows ++ joinRows rows' := by
  apply String.toList_inj.mp
  simp [joinRows, String.toList_join]

lemma text_head : head.text false = joinRows [divider, "", title, ""] := by
  apply String.toList_inj.mp
  simp [text, joinRows, head, chars, Piece.chars]

lemma text_foot : foot.text false = joinRows ["", "", divider] := by
  apply String.toList_inj.mp
  simp [text, joinRows, foot, chars, Piece.chars]

/-! ### The rows of a report -/

/-- The place of a line's file: where a line with the same file first stands. -/
def filePlace (lines : List String) (line : String) : ℕ :=
  (lines.map (field · 0)).idxOf (field line 0)

/-- The distinct lines of a report, sorted by the places of their files; lines of one file keep
their order. -/
def byFile (lines : List String) : List String :=
  lines.eraseDups.mergeSort fun a b => filePlace lines a ≤ filePlace lines b

/-- The row that the first three fields of a line give. -/
def lineRow (width : ℕ) (line : String) : String :=
  (findingLine width (field line 0) ⟨field line 1, field line 2⟩).text false

lemma mem_byFile {lines : List String} {line : String} : line ∈ byFile lines ↔ line ∈ lines := by
  rw [byFile, List.mem_mergeSort, List.mem_eraseDups]

/-- The sort brings the distinct lines together by file. -/
lemma byFile_eq_flatMap (lines : List String) :
    byFile lines = (lines.map (field · 0)).eraseDups.flatMap fun file =>
      lines.eraseDups.filter (field · 0 = file) :=
  (flatMap_filter_eq_mergeSort (pairwise_idxOf_eraseDups _) fun _ hline =>
    List.mem_eraseDups.mpr (List.mem_map_of_mem (List.mem_eraseDups.mp hline))).symm

/-- The records on distinct lines come out of a catalogue in the order of these lines sorted by
file. -/
lemma records_ofLines (lines : List String) :
    (Catalogue.ofRecords (lines.eraseDups.map ofLine)).records = (byFile lines).map ofLine := by
  rw [(Catalogue.holds_ofRecords _).records_eq, Record.byGroup, Report.files_map_ofLine,
    byFile_eq_flatMap, List.map_flatMap]
  refine congrArg (List.flatMap · _) (funext fun file => ?_)
  rw [List.filter_map]
  rfl

lemma size_ofLines (lines : List String) :
    (Catalogue.ofRecords (lines.eraseDups.map ofLine)).size = (byFile lines).length := by
  rw [(Catalogue.holds_ofRecords _).size_eq, List.length_map, byFile, List.length_mergeSort]

/-- The lines of records on lines, as one text. -/
lemma text_flatMap_ofLine (width : ℕ) (lines : List String) :
    text false ((lines.map ofLine).flatMap (recordLine width)) =
      joinRows (lines.map (lineRow width)) := by
  rw [text_flatMap_recordLine, joinRows, List.map_map, List.map_map]
  rfl

/-- The records whose lines are printed are those on the lines in front of the first one that is
too wide. -/
lemma printedRecords_ofLines (width : ℕ) (lines : List String) :
    printedRecords width (.ofRecords (lines.eraseDups.map ofLine)) =
      ((byFile lines).takeWhile fun line => width ≤ longestRow + 5 + (field line 0).length).map
        ofLine := by
  have hfits : (fun r : Record => decide (padding width r.file ≤ longestRow)) ∘ ofLine =
      fun line => decide (width ≤ longestRow + 5 + (field line 0).length) := by
    funext line
    rw [Function.comp_apply, decide_eq_decide, padding_le_longestRow_iff, ofLine]
  rw [printedRecords, records_ofLines, List.takeWhile_map, hfits]

lemma narrow_ofLines_iff (width : ℕ) (lines : List String) :
    (∀ r ∈ (Catalogue.ofRecords (lines.eraseDups.map ofLine)).records,
      padding width r.file ≤ longestRow) ↔
        ∀ line ∈ lines, width ≤ longestRow + 5 + (field line 0).length := by
  simp only [records_ofLines, List.forall_mem_map, mem_byFile, padding_le_longestRow_iff]
  rfl

/-- The page of a report in which every line fits. -/
lemma text_ofCatalogue_ofLines (width : ℕ) (lines : List String) :
    (ofCatalogue width (.ofRecords (lines.eraseDups.map ofLine))).text false =
      joinRows ([divider, "", title, ""] ++ (byFile lines).map (lineRow width) ++
        ["", "", divider]) := by
  rw [ofCatalogue_eq, records_ofLines, text_append, text_append, text_head, text_foot,
    text_flatMap_ofLine, joinRows_append, joinRows_append]

/-- What is printed of the page of a report in which some line does not fit. -/
lemma text_front_ofLines (width : ℕ) (lines : List String) :
    (head ++ (printedRecords width (.ofRecords (lines.eraseDups.map ofLine))).flatMap
      (recordLine width)).text false =
        joinRows ([divider, "", title, ""] ++ ((byFile lines).takeWhile fun line =>
          width ≤ longestRow + 5 + (field line 0).length).map (lineRow width)) := by
  rw [printedRecords_ofLines, text_append, text_head, text_flatMap_ofLine, joinRows_append]

/-- No field of a report's line holds a line feed, so the row of a line is one line. -/
lemma lineFeed_not_mem_lineRow (width : ℕ) {text line : String}
    (hline : line ∈ Text.linesOf text) : '\n' ∉ (lineRow width line).toList := by
  have hfield : ∀ i, '\n' ∉ (field line i).toList := fun i => (Record.not_mem_field hline i).2.2
  simp [lineRow, findingLine, Page.text, chars, Piece.chars, hfield]

end Page

end FindingsDigest
