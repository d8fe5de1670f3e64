/-
# The digest against the lines of the report

The digest of a report is described by the lines of its text alone.  If every line has two
colons, the digest is the catalogue of the records on the distinct lines; otherwise it is the
error of the first line that has not.

Both follow a report through the three loops behind `Report.digest`.  The sieve lets a line
pass at its first occurrence and with its position in the whole report
(`firstOccurrences_append`), so what stands in front of the first malformed line passes without
an error, and the malformed line itself, which cannot have occurred before, passes with its own
position.  What the distinct lines come to is then said by `Catalogue.holds_ofRecords`.

The main statements are `digest_groups_distinct_lines` and `digest_fails_at_first_malformed`.
-/
import FindingsDigest.Digest
import FindingsDigest.Proofs.Catalogue
import FindingsDigest.Proofs.Distinct
import FindingsDigest.Proofs.Record

namespace FindingsDigest

namespace Report

open Record (colons field fields findingOf ofLine)

/-! ### Gathering numbered lines -/

lemma gather_append (c : Catalogue) (l l' : List (ℕ × String)) :
    gather c (l ++ l') = gather c l >>= (gather · l') :=
  List.foldlM_append

lemma gather_cons_of_ok {c : Catalogue} {line : ℕ × String} {r : Record}
    (h : Record.parse line.1 line.2 = .ok r) (rest : List (ℕ × String)) :
    gather c (line :: rest) = gather (c.add r) rest := by
  rw [gather, List.foldlM_cons, h]
  rfl

lemma gather_cons_of_error {c : Catalogue} {line : ℕ × String} {m : Malformed}
    (h : Record.parse line.1 line.2 = .error m) (rest : List (ℕ × String)) :
    gather c (line :: rest) = .error m := by
  rw [gather, List.foldlM_cons, h]
  rfl

/-- Lines with two colons are all entered. -/
lemma gather_of_two_le_colons {numbered : List (ℕ × String)}
    (hcolons : ∀ l ∈ numbered, 2 ≤ colons l.2) (hfeed : ∀ l ∈ numbered, '\n' ∉ l.2.toList)
    (c : Catalogue) :
    gather c numbered = .ok ((numbered.map fun l => ofLine l.2).foldl Catalogue.add c) := by
  induction numbered generalizing c with
  | nil => rfl
  | cons l rest ih =>
    rw [gather_cons_of_ok (Record.parse_of_two_le_colons (hcolons l List.mem_cons_self)
        (hfeed l List.mem_cons_self) l.1) rest,
      ih (fun k hk => hcolons k (List.mem_cons_of_mem l hk))
        (fun k hk => hfeed k (List.mem_cons_of_mem l hk)), List.map_cons, List.foldl_cons]

/-- The numbered first occurrences of lines with two colons give the records of the distinct
lines. -/
lemma gather_firstOccurrences {lines : List String} (hcolons : ∀ l ∈ lines, 2 ≤ colons l)
    (hfeed : ∀ l ∈ lines, '\n' ∉ l.toList) :
    gather .empty (firstOccurrences lines) =
      .ok (Catalogue.ofRecords (lines.eraseDups.map ofLine)) := by
  rw [gather_of_two_le_colons (fun l hl => hcolons _ (mem_of_mem_firstOccurrences hl))
    (fun l hl => hfeed _ (mem_of_mem_firstOccurrences hl)), ← map_snd_firstOccurrences,
    List.map_map]
  rfl

/-! ### The first malformed line -/

/-- What is told of the first line with fewer than two colons: its position in the report,
repeated lines counted, the line, and the number of its fields. -/
def IsFirstMalformed (m : Malformed) (lines : List String) : Prop :=
  ∃ before line after, lines = before ++ line :: after ∧ (∀ l ∈ before, 2 ≤ colons l) ∧
    colons line < 2 ∧ m = ⟨before.length + 1, line, colons line + 1⟩

/-- Either all lines are well-formed, or one of them is the first that is not. -/
lemma forall_or_exists_isFirstMalformed (lines : List String) :
    (∀ l ∈ lines, 2 ≤ colons l) ∨ ∃ m, IsFirstMalformed m lines := by
  rcases hfind : lines.find? (colons · < 2) with _ | line
  · refine Or.inl fun l hl => ?_
    have := List.find?_eq_none.mp hfind l hl
    rw [decide_eq_true_eq] at this
    omega
  · obtain ⟨hline, before, after, hlines, hbefore⟩ := List.find?_eq_some_iff_append.mp hfind
    refine Or.inr ⟨_, before, line, after, hlines, fun l hl => ?_, of_decide_eq_true hline, rfl⟩
    have := hbefore l hl
    rw [Bool.not_eq_true', decide_eq_false_iff_not] at this
    omega

lemma IsFirstMalformed.exists_mem {m : Malformed} {lines : List String}
    (h : IsFirstMalformed m lines) : ∃ line ∈ lines, colons line < 2 := by
  obtain ⟨before, line, after, rfl, -, hline, -⟩ := h
  exact ⟨line, by simp, hline⟩

lemma gather_of_isFirstMalformed {m : Malformed} {lines : List String}
    (h : IsFirstMalformed m lines) (hfeed : ∀ l ∈ lines, '\n' ∉ l.toList) :
    gather .empty (firstOccurrences lines) = .error m := by
  obtain ⟨before, line, after, rfl, hbefore, hline, rfl⟩ := h
  -- lines before it are well-formed, so this one is not a repetition and passes the sieve
  have hnew : line ∉ before := fun hmem => absurd (hbefore line hmem) (Nat.not_le_of_lt hline)
  obtain ⟨rest, hrest⟩ := exists_firstOccurrences_append_cons hnew after
  rw [hrest, gather_append,
    gather_firstOccurrences hbefore fun l hl => hfeed l (List.mem_append_left _ hl)]
  exact gather_cons_of_error (Record.parse_of_colons_lt_two hline _) rest

/-! ### The digest of a text -/

lemma digest_eq_gather {path text : String} (hne : Text.linesOf text ≠ []) :
    (ofText path text).digest =
      .findings <$> gather .empty (firstOccurrences (Text.linesOf text)) := by
  have hempty : (ofText path text).lines.isEmpty = false := List.isEmpty_eq_false_iff.mpr hne
  rw [digest, hempty]
  rfl

lemma digest_of_two_le_colons {text : String} (hne : Text.linesOf text ≠ [])
    (hcolons : ∀ line ∈ Text.linesOf text, 2 ≤ colons line) (path : String) :
    (ofText path text).digest =
      .ok (.findings (.ofRecords ((Text.linesOf text).eraseDups.map ofLine))) := by
  rw [digest_eq_gather hne,
    gather_firstOccurrences hcolons fun line hline => (Text.isOneLine_of_mem_linesOf hline).2]
  rfl

lemma digest_of_isFirstMalformed {text : String} {m : Malformed}
    (h : IsFirstMalformed m (Text.linesOf text)) (path : String) :
    (ofText path text).digest = .error m := by
  obtain ⟨line, hline, -⟩ := h.exists_mem
  rw [digest_eq_gather (List.ne_nil_of_mem hline),
    gather_of_isFirstMalformed h fun l hl => (Text.isOneLine_of_mem_linesOf hl).2]
  rfl

/-- The three ends of digesting a text: it is empty, it has a first malformed line, or all of its
lines are entered. -/
lemma digest_cases (path text : String) :
    (text = "" ∧ (ofText path text).digest = .ok .clean) ∨
      (∃ m, IsFirstMalformed m (Text.linesOf text) ∧ (ofText path text).digest = .error m) ∨
      (Text.linesOf text ≠ [] ∧ (∀ line ∈ Text.linesOf text, 2 ≤ colons line) ∧
        (ofText path text).digest =
          .ok (.findings (.ofRecords ((Text.linesOf text).eraseDups.map ofLine)))) := by
  rcases forall_or_exists_isFirstMalformed (Text.linesOf text) with hcolons | ⟨m, hm⟩
  · by_cases hne : Text.linesOf text = []
    · obtain rfl := (Text.linesOf_eq_nil_iff text).mp hne
      exact Or.inl ⟨rfl, rfl⟩
    · exact Or.inr (Or.inr ⟨hne, hcolons, digest_of_two_le_colons hne hcolons path⟩)
  · exact Or.inr (Or.inl ⟨m, hm, digest_of_isFirstMalformed hm path⟩)

/-! ### A well-formed report -/

lemma files_map_ofLine (lines : List String) :
    Record.files (lines.eraseDups.map ofLine) = (lines.map (field · 0)).eraseDups := by
  rw [Record.files, List.map_map]
  exact eraseDups_map_eraseDups (field · 0) lines

lemma findingsIn_map_ofLine (lines : List String) (file : String) :
    Record.findingsIn (lines.map ofLine) file =
      (lines.filter (field · 0 = file)).map findingOf := by
  rw [Record.findingsIn, List.filter_map, List.map_map]
  rfl

/-- A finding occurs once for every line that records it. -/
lemma count_findingsIn_map_ofLine {lines : List String} (hcolons : ∀ l ∈ lines, 2 ≤ colons l)
    (file number rule : String) :
    (Record.findingsIn (lines.map ofLine) file).count ⟨number, rule⟩ =
      lines.countP fun line => (fields line).take 3 = [file, number, rule] := by
  rw [findingsIn_map_ofLine, List.count_eq_countP, List.countP_map, List.countP_filter]
  refine List.countP_congr fun line hline => ?_
  rw [Record.take_three_fields (hcolons line hline)]
  simp [findingOf, and_comm]

/-- **The catalogue of a well-formed report.**  If a report has a line and every line has two
colons, its digest is a catalogue.  The files are the distinct first fields of the lines, in
the order of first appearance; the findings of a file are the second and third fields of the
distinct lines that begin with it, in the order of the report.  So there is exactly one finding
for each distinct line. -/
theorem digest_groups_distinct_lines (path text : String) (hne : Text.linesOf text ≠ [])
    (hcolons : ∀ line ∈ Text.linesOf text, 2 ≤ colons line) :
    let lines := Text.linesOf text
    ∃ c, (ofText path text).digest = .ok (.findings c) ∧
      c.toList.map Prod.fst = (lines.map (field · 0)).eraseDups ∧
      (∀ g ∈ c.toList, c.get? g.1 = some g.2) ∧
      (∀ file, c.get? file =
        if file ∈ lines.map (field · 0) then
          some ((lines.eraseDups.filter (field · 0 = file)).map findingOf)
        else none) ∧
      c.size = lines.eraseDups.length ∧
      ∀ file number rule, ((c.get? file).getD []).count ⟨number, rule⟩ =
        lines.eraseDups.countP fun line => (fields line).take 3 = [file, number, rule] := by
  intro lines
  have h := Catalogue.holds_ofRecords (lines.eraseDups.map ofLine)
  refine ⟨_, digest_of_two_le_colons hne hcolons path, ?_, fun g hg => h.get?_of_mem_toList hg,
    fun file => ?_, ?_, fun file number rule => ?_⟩
  · rw [h.map_fst_toList, files_map_ofLine]
  · rw [h.get?_eq, files_map_ofLine, findingsIn_map_ofLine]
    exact if_congr List.mem_eraseDups rfl rfl
  · rw [h.size_eq, List.length_map]
  · rw [h.getD_get?]
    exact count_findingsIn_map_ofLine
      (fun line hline => hcolons line (List.mem_eraseDups.mp hline)) file number rule

/-- Two files take turns, one line is repeated, and one line differs from another only behind the
third field. -/
theorem digest_groups_interleaved_lines :
    ∃ c, (ofText "report" "b:1:x\na:2:y\r\nb:1:x:z\ra:2:y").digest = .ok (.findings c) ∧
      c.toList.map Prod.fst = ["b", "a"] ∧ c.get? "b" = some [⟨"1", "x"⟩, ⟨"1", "x"⟩] ∧
      c.size = 3 := by
  obtain ⟨c, hdigest, hfiles, -, hget, hsize, -⟩ := digest_groups_distinct_lines "report"
    "b:1:x\na:2:y\r\nb:1:x:z\ra:2:y" (by decide +kernel) (by decide +kernel)
  exact ⟨c, hdigest, hfiles.trans (by decide +kernel), (hget "b").trans (by decide +kernel),
    hsize.trans (by decide +kernel)⟩

/-- A digest with findings comes from lines that all have two colons. -/
lemma digest_eq_findings_iff (path text : String) (c : Catalogue) :
    (ofText path text).digest = .ok (.findings c) ↔
      Text.linesOf text ≠ [] ∧ (∀ line ∈ Text.linesOf text, 2 ≤ colons line) ∧
        c = .ofRecords ((Text.linesOf text).eraseDups.map ofLine) := by
  constructor
  · intro hc
    rcases digest_cases path text with ⟨-, hdigest⟩ | ⟨m, -, hdigest⟩ | ⟨hne, hcolons, hdigest⟩ <;>
      rw [hdigest] at hc
    · cases hc
    · cases hc
    · cases hc
      exact ⟨hne, hcolons, rfl⟩
  · rintro ⟨hne, hcolons, rfl⟩
    exact digest_of_two_le_colons hne hcolons path

/-! ### A malformed report -/

lemma digest_eq_error_iff (path text : String) (m : Malformed) :
    (ofText path text).digest = .error m ↔ IsFirstMalformed m (Text.linesOf text) := by
  refine ⟨fun hm => ?_, fun hm => digest_of_isFirstMalformed hm path⟩
  rcases digest_cases path text with ⟨-, hdigest⟩ | ⟨m', hm', hdigest⟩ | ⟨-, -, hdigest⟩ <;>
    rw [hdigest] at hm
  · cases hm
  · cases hm
    exact hm'
  · cases hm

/-- The catalogue of a text has a file and a finding. -/
lemma one_le_size_of_ne_nil {lines : List String} (hne : lines ≠ []) :
    1 ≤ (Catalogue.ofRecords (lines.eraseDups.map ofLine)).fileCount ∧
      1 ≤ (Catalogue.ofRecords (lines.eraseDups.map ofLine)).size := by
  obtain ⟨line, hline⟩ := List.exists_mem_of_ne_nil lines hne
  have hmem : ofLine line ∈ lines.eraseDups.map ofLine :=
    List.mem_map_of_mem (List.mem_eraseDups.mpr hline)
  have h := Catalogue.holds_ofRecords (lines.eraseDups.map ofLine)
  rw [h.fileCount_eq, h.size_eq]
  exact ⟨List.length_pos_of_mem (Record.mem_files.mpr ⟨_, hmem, rfl⟩), List.length_pos_of_mem hmem⟩

/-- **The error of a malformed report.**  Digesting fails exactly if some line has fewer than
two colons, and then it tells the first such line, with its position in the whole report.  Only
the empty text is clean, and every other text gives an error or a catalogue with a file and a
finding. -/
theorem digest_fails_at_first_malformed (path text : String) :
    let lines := Text.linesOf text
    let result := (ofText path text).digest
    (∀ m, result = .error m ↔ IsFirstMalformed m lines) ∧
      ((∃ m, result = .error m) ↔ ∃ line ∈ lines, colons line < 2) ∧
      (∀ m, result = .error m → m.fields = 1 ∨ m.fields = 2) ∧
      (result = .ok .clean ↔ text = "") ∧
      (text ≠ "" → (∃ m, result = .error m) ∨
        ∃ c, result = .ok (.findings c) ∧ 1 ≤ c.fileCount ∧ 1 ≤ c.size) := by
  intro lines result
  have herror : ∀ m, result = .error m ↔ IsFirstMalformed m lines := digest_eq_error_iff path text
  refine ⟨herror, ⟨?_, ?_⟩, ?_, ⟨?_, ?_⟩, ?_⟩
  · rintro ⟨m, hm⟩
    exact ((herror m).mp hm).exists_mem
  · rintro ⟨line, hline, hcolons⟩
    rcases forall_or_exists_isFirstMalformed lines with hall | ⟨m, hm⟩
    · exact absurd (hall line hline) (Nat.not_le_of_lt hcolons)
    · exact ⟨m, (herror m).mpr hm⟩
  · intro m hm
    obtain ⟨before, line, after, -, -, hline, rfl⟩ := (herror m).mp hm
    change colons line + 1 = 1 ∨ colons line + 1 = 2
    omega
  · intro hclean
    rcases digest_cases path text with ⟨htext, -⟩ | ⟨m, -, hdigest⟩ | ⟨-, -, hdigest⟩
    · exact htext
    · cases hdigest.symm.trans hclean
    · cases hdigest.symm.trans hclean
  · rintro rfl
    rfl
  · intro htext
    rcases digest_cases path text with ⟨hempty, -⟩ | ⟨m, -, hdigest⟩ | ⟨hne, -, hdigest⟩
    · exact absurd hempty htext
    · exact Or.inl ⟨m, hdigest⟩
    · exact Or.inr ⟨_, hdigest, one_le_size_of_ne_nil hne⟩

end Report

end FindingsDigest
