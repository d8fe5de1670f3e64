/-
# Reports whose lines are rearranged

A checker may report the same findings in many ways: it takes the files in another order, goes to
and fro between them, or reports a finding again.  Three laws say how much of this is seen in the
digest.

* The findings of a file hang on the lines of this file alone; lines of other files may be added,
  left out or moved about between them.
* In another order the lines give the same findings in the same files; only the orders of the
  files and of the findings in a file may change.
* A line that repeats one in front of it changes nothing, but that what stands behind it is one
  line further back.

The digest knows a well-formed report only as the catalogue of the records on `lines.eraseDups`,
so each law comes from one on the order of first sight: that it may be taken before or after
lines are left out (`filter_eraseDups`), that other orders show the same elements
(`eraseDups_perm`), and that a repetition is not seen (`eraseDups_insert_old`).
-/
import FindingsDigest.Proofs.Continuation
import Mathlib.Data.Multiset.Defs

namespace FindingsDigest

namespace Record

/-! ### Records in another order -/

lemma files_perm {records records' : List Record} (h : records.Perm records') :
    (files records).Perm (files records') :=
  eraseDups_perm (h.map file)

lemma findingsIn_perm {records records' : List Record} (h : records.Perm records')
    (file : String) : (findingsIn records file).Perm (findingsIn records' file) :=
  (h.filter _).map finding

end Record

namespace Catalogue

/-- Whether two catalogues differ at most in the order of the files and in the orders of the
findings in a file. -/
structure SameUpToOrder (c d : Catalogue) : Prop where
  fileCount_eq : c.fileCount = d.fileCount
  size_eq : c.size = d.size
  mem_files_iff : ∀ file, file ∈ c.toList.map Prod.fst ↔ file ∈ d.toList.map Prod.fst
  findings_eq : ∀ file, (c.get? file).map Multiset.ofList = (d.get? file).map Multiset.ofList

lemma sameUpToOrder_of_perm {records records' : List Record} (h : records.Perm records') :
    (ofRecords records).SameUpToOrder (ofRecords records') := by
  have hc := holds_ofRecords records
  have hd := holds_ofRecords records'
  have hfiles := Record.files_perm h
  refine ⟨?_, ?_, fun file => ?_, fun file => ?_⟩
  · rw [hc.fileCount_eq, hd.fileCount_eq, hfiles.length_eq]
  · rw [hc.size_eq, hd.size_eq, h.length_eq]
  · rw [hc.map_fst_toList, hd.map_fst_toList, hfiles.mem_iff]
  · have hfindings : Multiset.ofList (Record.findingsIn records file) =
        Multiset.ofList (Record.findingsIn records' file) :=
      Multiset.coe_eq_coe.mpr (Record.findingsIn_perm h file)
    rw [hc.get?_eq, hd.get?_eq, apply_ite (Option.map Multiset.ofList),
      apply_ite (Option.map Multiset.ofList), Option.map_some, Option.map_some, hfindings]
    exact if_congr hfiles.mem_iff rfl rfl

end Catalogue

namespace Report

open Record (colons field findingOf ofLine)
open Text (IsOneLine linesOf ofLines)

/-! ### The lines of one file -/

/-- The lines that report on a file, repetitions included. -/
def linesOn (file : String) (lines : List String) : List String :=
  lines.filter (field · 0 = file)

lemma mem_linesOn {file line : String} {lines : List String} :
    line ∈ linesOn file lines ↔ line ∈ lines ∧ field line 0 = file := by
  rw [linesOn, List.mem_filter, decide_eq_true_eq]

lemma linesOn_linesOn (file : String) (lines : List String) :
    linesOn file (linesOn file lines) = linesOn file lines := by
  rw [linesOn, linesOn, List.filter_filter]
  simp

/-- To take the lines on a file and to take the distinct lines may change places. -/
lemma findingsIn_eraseDups_map_ofLine (lines : List String) (file : String) :
    Record.findingsIn (lines.eraseDups.map ofLine) file =
      (linesOn file lines).eraseDups.map findingOf := by
  rw [findingsIn_map_ofLine, filter_eraseDups, linesOn]

lemma get?_ofRecords_map_ofLine (lines : List String) (file : String) :
    (Catalogue.ofRecords (lines.eraseDups.map ofLine)).get? file =
      if file ∈ lines.map (field · 0) then
        some ((linesOn file lines).eraseDups.map findingOf) else none := by
  rw [(Catalogue.holds_ofRecords _).get?_eq, files_map_ofLine, findingsIn_eraseDups_map_ofLine]
  exact if_congr List.mem_eraseDups rfl rfl

/-- A file has lines if it is the first field of one. -/
lemma mem_map_field_iff {lines : List String} {file : String} :
    file ∈ lines.map (field · 0) ↔ linesOn file lines ≠ [] := by
  constructor
  · intro h
    obtain ⟨line, hline, hfile⟩ := List.mem_map.mp h
    exact List.ne_nil_of_mem (mem_linesOn.mpr ⟨hline, hfile⟩)
  · intro h
    obtain ⟨line, hline⟩ := List.exists_mem_of_ne_nil _ h
    obtain ⟨hmem, hfile⟩ := mem_linesOn.mp hline
    exact List.mem_map.mpr ⟨line, hmem, hfile⟩

/-- What the digest of a well-formed report tells of a file that has lines in it. -/
lemma exists_digest_get? (path : String) {text file : String}
    (hcolons : ∀ line ∈ linesOf text, 2 ≤ colons line)
    (hfile : linesOn file (linesOf text) ≠ []) :
    ∃ c, (ofText path text).digest = .ok (.findings c) ∧
      c.get? file = some ((linesOn file (linesOf text)).eraseDups.map findingOf) := by
  have hmem : file ∈ (linesOf text).map (field · 0) := mem_map_field_iff.mpr hfile
  have hne : linesOf text ≠ [] := fun hnil => by simp [hnil] at hmem
  refine ⟨_, digest_of_two_le_colons hne hcolons path, ?_⟩
  rw [get?_ofRecords_map_ofLine, if_pos hmem]

/-- **Files do not interfere.**  In a report whose lines all have two colons, let a file be the
first field of some line.  The digest tells of this file the findings on its distinct lines, and
so does the digest of the report that keeps only the lines on this file.  Any other report whose
lines all have two colons and which has the same lines on the file, in the same order, tells the
same of it, whatever lines it has on other files and wherever they stand.  So grouping the
distinct lines of the report is the same as to take the lines on each file first and their
distinct ones then. -/
theorem get?_of_linesOn (path : String) {text file : String}
    (hcolons : ∀ line ∈ linesOf text, 2 ≤ colons line)
    (hfile : file ∈ (linesOf text).map (field · 0)) :
    let lines := linesOf text
    ∃ c d, (ofText path text).digest = .ok (.findings c) ∧
      linesOf (ofLines (linesOn file lines)) = linesOn file lines ∧
      (ofText path (ofLines (linesOn file lines))).digest = .ok (.findings d) ∧
      c.get? file = d.get? file ∧
      c.get? file = some ((linesOn file lines).eraseDups.map findingOf) ∧
      c.toList = (lines.map (field · 0)).eraseDups.map
        (fun f => (f, (linesOn f lines).eraseDups.map findingOf)) ∧
      ∀ path' text', (∀ line ∈ linesOf text', 2 ≤ colons line) →
        linesOn file (linesOf text') = linesOn file lines →
        ∃ c', (ofText path' text').digest = .ok (.findings c') ∧ c'.get? file = c.get? file := by
  intro lines
  have hne : linesOn file lines ≠ [] := mem_map_field_iff.mp hfile
  have hown : linesOf (ofLines (linesOn file lines)) = linesOn file lines :=
    Text.linesOf_ofLines fun line hline =>
      Text.isOneLine_of_mem_linesOf (mem_linesOn.mp hline).1
  have hsame : ∀ path' text', (∀ line ∈ linesOf text', 2 ≤ colons line) →
      linesOn file (linesOf text') = linesOn file lines →
      ∃ c, (ofText path' text').digest = .ok (.findings c) ∧
        c.get? file = some ((linesOn file lines).eraseDups.map findingOf) := by
    intro path' text' hcolons' heq
    rw [← heq] at hne ⊢
    exact exists_digest_get? path' hcolons' hne
  obtain ⟨c, hc, hget⟩ := hsame path text hcolons rfl
  obtain ⟨d, hd, hget'⟩ := hsame path (ofLines (linesOn file lines))
    (by
      rw [hown]
      exact fun line hline => hcolons line (mem_linesOn.mp hline).1)
    (by rw [hown, linesOn_linesOn])
  refine ⟨c, d, hc, hown, hd, hget.trans hget'.symm, hget, ?_, fun path' text' hcolons' heq => ?_⟩
  · obtain ⟨-, -, rfl⟩ := (digest_eq_findings_iff path text c).mp hc
    rw [(Catalogue.holds_ofRecords _).toList_eq, Record.grouped, files_map_ofLine]
    exact List.map_congr_left fun f _ => by rw [findingsIn_eraseDups_map_ofLine]
  · rw [hget]
    exact hsame path' text' hcolons' heq

/-- Lines on two files take turns and one of them is repeated.  The other report has the same lines
on one of the files, with other endings, and around them lines on other files. -/
theorem get?_of_linesOn_interleaved :
    ∃ c c', (ofText "report" "b:1:x\na:2:y\nb:1:x\nb:3:z\n").digest = .ok (.findings c) ∧
      (ofText "other" "::\rb:1:x\r\nb:1:x\ra:2:y:b\nb:3:z").digest = .ok (.findings c') ∧
      c.get? "b" = some [⟨"1", "x"⟩, ⟨"3", "z"⟩] ∧ c'.get? "b" = c.get? "b" := by
  have hcolons : ∀ line ∈ linesOf "b:1:x\na:2:y\nb:1:x\nb:3:z\n", 2 ≤ colons line := by
    decide +kernel
  have hfile : "b" ∈ (linesOf "b:1:x\na:2:y\nb:1:x\nb:3:z\n").map (field · 0) := by
    decide +kernel
  obtain ⟨c, -, hc, -, -, -, hget, -, hsame⟩ := get?_of_linesOn "report" hcolons hfile
  obtain ⟨c', hc', hget'⟩ := hsame "other" "::\rb:1:x\r\nb:1:x\ra:2:y:b\nb:3:z"
    (by decide +kernel) (by decide +kernel)
  exact ⟨c, c', hc, hc', hget.trans (by decide +kernel), hget'⟩

/-! ### Lines in another order -/

lemma exists_digest_eq_ok_iff (path text : String) :
    (∃ d, (ofText path text).digest = .ok d) ↔ ∀ line ∈ linesOf text, 2 ≤ colons line := by
  constructor
  · rintro ⟨d, hd⟩
    exact (catalogue_of_digest_eq_ok hd).1
  · intro hcolons
    by_cases hne : linesOf text = []
    · obtain rfl := (Text.linesOf_eq_nil_iff text).mp hne
      exact ⟨_, rfl⟩
    · exact ⟨_, digest_of_two_le_colons hne hcolons path⟩

lemma hasFindings_iff {path text : String} {d : Digest} (h : (ofText path text).digest = .ok d) :
    d.hasFindings = true ↔ linesOf text ≠ [] := by
  rcases digest_cases path text with ⟨rfl, hdigest⟩ | ⟨m, -, hdigest⟩ | ⟨hne, -, hdigest⟩ <;>
    cases hdigest.symm.trans h
  · constructor
    · intro hfindings
      cases hfindings
    · exact fun hne => absurd rfl hne
  · exact ⟨fun _ => hne, fun _ => rfl⟩

/-- **The order of the lines.**  Let the lines of two reports, each ended by a line feed, be the
same up to their order.  If one of the reports has a digest, so has the other, and then both or
neither have findings: the same number of files and of findings, the same files, and in every file
the same findings, each as often. -/
theorem digest_perm (path : String) {ls ls' : List String} (hperm : ls.Perm ls')
    (hone : ∀ l ∈ ls, IsOneLine l.toList) :
    let digestOf := fun ls => (ofText path (ofLines ls)).digest
    ((∃ d, digestOf ls = .ok d) ↔ ∃ d', digestOf ls' = .ok d') ∧
      ∀ d d', digestOf ls = .ok d → digestOf ls' = .ok d' →
        d.hasFindings = d'.hasFindings ∧ d.catalogue.SameUpToOrder d'.catalogue := by
  intro digestOf
  have hlines : linesOf (ofLines ls) = ls := Text.linesOf_ofLines hone
  have hlines' : linesOf (ofLines ls') = ls' :=
    Text.linesOf_ofLines fun l hl => hone l (hperm.mem_iff.mpr hl)
  refine ⟨?_, fun d d' hd hd' => ⟨?_, ?_⟩⟩
  · rw [exists_digest_eq_ok_iff, exists_digest_eq_ok_iff, hlines, hlines']
    exact ⟨fun h l hl => h l (hperm.mem_iff.mpr hl), fun h l hl => h l (hperm.mem_iff.mp hl)⟩
  · rw [Bool.eq_iff_iff, hasFindings_iff hd, hasFindings_iff hd', hlines, hlines',
      ← List.length_pos_iff, ← List.length_pos_iff, hperm.length_eq]
  · rw [(catalogue_of_digest_eq_ok hd).2, (catalogue_of_digest_eq_ok hd').2, hlines, hlines']
    exact Catalogue.sameUpToOrder_of_perm ((eraseDups_perm hperm).map ofLine)

/-- The lines are turned around.  One is repeated and one has a fourth field; both orders of the
digest change. -/
theorem digest_perm_reversed :
    ∃ c c', (ofText "report" (ofLines ["b:1:x", "a:2:y", "b:1:x:w", "a:2:y", "b:3:z"])).digest =
        .ok (.findings c) ∧
      (ofText "report" (ofLines ["b:3:z", "a:2:y", "b:1:x:w", "a:2:y", "b:1:x"])).digest =
        .ok (.findings c') ∧
      c.SameUpToOrder c' ∧ c.get? "b" = some [⟨"1", "x"⟩, ⟨"1", "x"⟩, ⟨"3", "z"⟩] ∧
      c'.get? "b" = some [⟨"3", "z"⟩, ⟨"1", "x"⟩, ⟨"1", "x"⟩] := by
  have hperm : ["b:1:x", "a:2:y", "b:1:x:w", "a:2:y", "b:3:z"].Perm
      ["b:3:z", "a:2:y", "b:1:x:w", "a:2:y", "b:1:x"] := by decide
  have hwell : ∀ ls ∈ [["b:1:x", "a:2:y", "b:1:x:w", "a:2:y", "b:3:z"],
      ["b:3:z", "a:2:y", "b:1:x:w", "a:2:y", "b:1:x"]],
      linesOf (ofLines ls) ≠ [] ∧ ∀ line ∈ linesOf (ofLines ls), 2 ≤ colons line := by
    decide +kernel
  obtain ⟨hne, hcolons⟩ := hwell _ List.mem_cons_self
  obtain ⟨hne', hcolons'⟩ := hwell _ (List.mem_cons_of_mem _ List.mem_cons_self)
  have hfirst := digest_of_two_le_colons hne hcolons "report"
  have hsecond := digest_of_two_le_colons hne' hcolons' "report"
  obtain ⟨-, hsame⟩ := digest_perm "report" hperm (by decide)
  exact ⟨_, _, hfirst, hsecond, (hsame _ _ hfirst hsecond).2, by decide +kernel,
    by decide +kernel⟩

/-! ### Repeated lines -/

lemma IsFirstMalformed.lineNo_le {m : Malformed} {lines : List String}
    (h : IsFirstMalformed m lines) : m.lineNo ≤ lines.length := by
  obtain ⟨before, line, after, rfl, -, -, rfl⟩ := h
  change before.length + 1 ≤ _
  rw [List.length_append, List.length_cons]
  omega

/-- A repetition in front of the first malformed line moves it back by one line, and one behind
it leaves it where it is; a repetition is never the first malformed line itself. -/
lemma isFirstMalformed_insert_old {before : List String} {line : String} (hline : line ∈ before)
    (after : List String) :
    (∀ l ∈ before ++ after, 2 ≤ colons l) ∧ (∀ l ∈ before ++ line :: after, 2 ≤ colons l) ∨
      ∃ m, IsFirstMalformed m (before ++ after) ∧ IsFirstMalformed
        { m with lineNo := if m.lineNo < before.length + 1 then m.lineNo else m.lineNo + 1 }
        (before ++ line :: after) := by
  rcases forall_or_exists_isFirstMalformed before with hbefore | ⟨m, hm⟩
  · rcases forall_or_exists_isFirstMalformed after with hafter | ⟨m, hm⟩
    · -- the repeated line is one of those that are well-formed
      have hall : ∀ l ∈ before ++ after, 2 ≤ colons l := by
        intro l hl
        rcases List.mem_append.mp hl with hl | hl
        · exact hbefore l hl
        · exact hafter l hl
      exact Or.inl ⟨hall, fun l hl => hall l ((mem_insert_old hline after l).mp hl)⟩
    · -- the malformed line is behind both `before` and the repetition
      have hbefore' : ∀ l ∈ before ++ [line], 2 ≤ colons l := by
        intro l hl
        have hmem : l ∈ before := by simpa using (mem_insert_old hline [] l).mp hl
        exact hbefore l hmem
      have hlater := hm.append_left hbefore'
      have hplace : ¬ m.lineNo + before.length < before.length + 1 := by
        obtain ⟨front, bad, rest, -, -, -, rfl⟩ := hm
        simp only
        omega
      rw [List.length_append, List.length_singleton, List.append_assoc,
        List.singleton_append] at hlater
      refine Or.inr ⟨_, hm.append_left hbefore, ?_⟩
      rw [if_neg hplace]
      exact hlater
  · refine Or.inr ⟨m, hm.append_right after, ?_⟩
    rw [if_pos (Nat.lt_succ_of_le hm.lineNo_le)]
    exact hm.append_right (line :: after)

/-- Well-formed reports with the same distinct lines have the same digest. -/
lemma digest_eq_of_eraseDups_eq (path : String) {text text' : String} (hne : linesOf text ≠ [])
    (hcolons : ∀ line ∈ linesOf text, 2 ≤ colons line)
    (hcolons' : ∀ line ∈ linesOf text', 2 ≤ colons line)
    (h : (linesOf text').eraseDups = (linesOf text).eraseDups) :
    (ofText path text').digest = (ofText path text).digest := by
  have hne' : linesOf text' ≠ [] := by
    obtain ⟨line, hline⟩ := List.exists_mem_of_ne_nil _ hne
    rw [← List.mem_eraseDups, ← h, List.mem_eraseDups] at hline
    exact List.ne_nil_of_mem hline
  rw [digest_of_two_le_colons hne hcolons, digest_of_two_le_colons hne' hcolons', h]

/-- **Repeated findings change nothing.**  Let a line of a report be repeated at some place behind
it.  If the report has a digest, the longer report has the same.  If the digest fails at a
malformed line, it fails at this line in the longer report too, with the same content and number
of fields; the line is told at its old place if this is in front of the new line, and else one
further back. -/
theorem digest_insert_old (path : String) {text line : String} {before after : List String}
    (hlines : linesOf text = before ++ after) (hline : line ∈ before) :
    let place := before.length + 1
    let digestOf := fun text => (ofText path text).digest
    (∃ text', linesOf text' = before ++ line :: after) ∧
      ∀ text', linesOf text' = before ++ line :: after →
        (∀ d, digestOf text = .ok d → digestOf text' = .ok d) ∧
        ∀ m, digestOf text = .error m → digestOf text' =
          .error { m with lineNo := if m.lineNo < place then m.lineNo else m.lineNo + 1 } := by
  intro place digestOf
  have hone : ∀ l ∈ before ++ line :: after, IsOneLine l.toList := by
    intro l hl
    rw [mem_insert_old hline, ← hlines] at hl
    exact Text.isOneLine_of_mem_linesOf hl
  refine ⟨⟨_, Text.linesOf_ofLines hone⟩, fun text' hlines' => ?_⟩
  have hnext := isFirstMalformed_insert_old hline after
  rw [← hlines, ← hlines'] at hnext
  rcases hnext with ⟨hcolons, hcolons'⟩ | ⟨m, hm, hm'⟩
  · have hne : linesOf text ≠ [] := by
      rw [hlines]
      exact List.ne_nil_of_mem (List.mem_append_left _ hline)
    have hdistinct : (linesOf text').eraseDups = (linesOf text).eraseDups := by
      rw [hlines, hlines', eraseDups_insert_old hline]
    have hsame : digestOf text' = digestOf text :=
      digest_eq_of_eraseDups_eq path hne hcolons hcolons' hdistinct
    have hok : digestOf text = _ := digest_of_two_le_colons hne hcolons path
    rw [hsame]
    refine ⟨fun d hd => hd, fun m hm => ?_⟩
    cases hok.symm.trans hm
  · have herror : digestOf text = .error m := digest_of_isFirstMalformed hm path
    have herror' : digestOf text' = .error _ := digest_of_isFirstMalformed hm' path
    refine ⟨fun d hd => ?_, fun m' hm' => ?_⟩
    · cases herror.symm.trans hd
    · obtain rfl : m = m' := Except.error.inj (herror.symm.trans hm')
      exact herror'

/-- The first line is repeated behind a malformed line, in front of one, and at the end of a report
without one. -/
theorem digest_insert_old_around_malformed :
    (ofText "report" "a:1:x\nb:2\na:1:x\nc").digest = .error ⟨2, "b:2", 2⟩ ∧
      (ofText "report" "a:1:x\na:1:x\nb:2\nc").digest = .error ⟨3, "b:2", 2⟩ ∧
      ∃ d, (ofText "report" "a:1:x\nb:2:y\n").digest = .ok d ∧
        (ofText "report" "a:1:x\nb:2:y\ra:1:x").digest = .ok d := by
  have herror : (ofText "report" "a:1:x\nb:2\nc").digest = .error ⟨2, "b:2", 2⟩ :=
    digest_of_isFirstMalformed
      ⟨["a:1:x"], "b:2", ["c"], by decide +kernel, by decide, by decide, by decide⟩ "report"
  have hne : linesOf "a:1:x\nb:2:y\n" ≠ [] := by decide +kernel
  have hcolons : ∀ line ∈ linesOf "a:1:x\nb:2:y\n", 2 ≤ colons line := by decide +kernel
  have hok := digest_of_two_le_colons hne hcolons "report"
  have hlines : linesOf "a:1:x\nb:2\nc" = ["a:1:x", "b:2"] ++ ["c"] := by decide +kernel
  have hlines' : linesOf "a:1:x\nb:2\nc" = ["a:1:x"] ++ ["b:2", "c"] := by decide +kernel
  have hlines'' : linesOf "a:1:x\nb:2:y\n" = ["a:1:x", "b:2:y"] ++ [] := by decide +kernel
  have honly : "a:1:x" ∈ ["a:1:x"] := List.mem_singleton_self _
  have hfront : ∀ l : String, "a:1:x" ∈ ["a:1:x", l] := fun _ => List.mem_cons_self
  obtain ⟨-, hbehind⟩ := digest_insert_old "report" hlines (hfront "b:2")
  obtain ⟨-, hinFront⟩ := digest_insert_old "report" hlines' honly
  obtain ⟨-, hatEnd⟩ := digest_insert_old "report" hlines'' (hfront "b:2:y")
  exact ⟨(hbehind "a:1:x\nb:2\na:1:x\nc" (by decide +kernel)).2 _ herror,
    (hinFront "a:1:x\na:1:x\nb:2\nc" (by decide +kernel)).2 _ herror,
    _, hok, (hatEnd "a:1:x\nb:2:y\ra:1:x" (by decide +kernel)).1 _ hok⟩

end Report

end FindingsDigest
