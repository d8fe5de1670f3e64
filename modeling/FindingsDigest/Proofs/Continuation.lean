/-
# Reports that are continued

A report often grows: a second text is appended to a first one.  If the first text stops behind
a line ending, the digest of the whole can be told from the digests of the two parts.  An error
of the first part is the error of the whole; an error of the second part is found at its place
behind the lines of the first; and if there is no error, the catalogue of the first part goes on
with the records of those lines of the second part that the first has not.

The lines of the whole are the lines of the parts (`linesOf_append`), and the sieve lets through
of the second part what is not in the first (`firstOccurrences_append`).  So the catalogue only
ever grows at its end: files that were there keep their places, and so do their findings.
-/
import FindingsDigest.Proofs.LineEndings

namespace FindingsDigest

/-! ### Catalogues that are continued -/

namespace Record

lemma files_prefix (records more : List Record) : files records <+: files (records ++ more) := by
  rw [files, files, List.map_append, List.eraseDups_append]
  exact List.prefix_append _ _

lemma findingsIn_prefix (records more : List Record) (file : String) :
    findingsIn records file <+: findingsIn (records ++ more) file := by
  rw [findingsIn_append]
  exact List.prefix_append _ _

end Record

namespace Catalogue

/-- Whether a catalogue begins with all that another one holds: its files stand in front of all
others, and in each of these files its findings do. -/
structure BeginsWith (c d : Catalogue) : Prop where
  files : d.toList.map Prod.fst <+: c.toList.map Prod.fst
  findings : ∀ file fs, d.get? file = some fs → ∃ fs', c.get? file = some fs' ∧ fs <+: fs'

lemma beginsWith_ofRecords_append (records more : List Record) :
    (ofRecords (records ++ more)).BeginsWith (ofRecords records) := by
  have hold := holds_ofRecords records
  have hnew := holds_ofRecords (records ++ more)
  have hfiles := Record.files_prefix records more
  constructor
  · rw [hold.map_fst_toList, hnew.map_fst_toList]
    exact hfiles
  · intro file fs hfs
    rw [hold.get?_eq] at hfs
    split at hfs
    · next hfile =>
      obtain rfl := Option.some.inj hfs
      refine ⟨_, ?_, Record.findingsIn_prefix records more file⟩
      rw [hnew.get?_eq, if_pos (hfiles.subset hfile)]
    · cases hfs

end Catalogue

/-- The catalogue of a digest; that of a clean report is empty. -/
def Digest.catalogue : Digest → Catalogue
  | clean => .empty
  | findings c => c

namespace Report

open Record (colons ofLine)
open Text (IsLineCut linesOf)

/-! ### Errors of a part -/

/-- What comes behind the first malformed line does not matter. -/
lemma IsFirstMalformed.append_right {m : Malformed} {lines : List String}
    (h : IsFirstMalformed m lines) (more : List String) : IsFirstMalformed m (lines ++ more) := by
  obtain ⟨before, line, after, rfl, hbefore, hline, rfl⟩ := h
  exact ⟨before, line, after ++ more, by simp, hbefore, hline, rfl⟩

/-- Well-formed lines in front move the first malformed line back. -/
lemma IsFirstMalformed.append_left {m : Malformed} {more : List String}
    (h : IsFirstMalformed m more) {lines : List String} (hlines : ∀ l ∈ lines, 2 ≤ colons l) :
    IsFirstMalformed { m with lineNo := m.lineNo + lines.length } (lines ++ more) := by
  obtain ⟨before, line, after, rfl, hbefore, hline, rfl⟩ := h
  refine ⟨lines ++ before, line, after, by simp, fun l hl => ?_, hline, ?_⟩
  · rcases List.mem_append.mp hl with hl | hl
    · exact hlines l hl
    · exact hbefore l hl
  · have hlineNo : before.length + 1 + lines.length = (lines ++ before).length + 1 := by
      rw [List.length_append]
      omega
    rw [← hlineNo]

/-! ### Parts without an error -/

/-- A digest comes from well-formed lines and holds the records of the distinct ones. -/
lemma catalogue_of_digest_eq_ok {path text : String} {d : Digest}
    (h : (ofText path text).digest = .ok d) :
    (∀ line ∈ linesOf text, 2 ≤ colons line) ∧
      d.catalogue = .ofRecords ((linesOf text).eraseDups.map ofLine) := by
  rcases digest_cases path text with ⟨rfl, hdigest⟩ | ⟨m, -, hdigest⟩ | ⟨-, hcolons, hdigest⟩ <;>
    cases hdigest.symm.trans h
  · exact ⟨fun line hline => absurd hline List.not_mem_nil, rfl⟩
  · exact ⟨hcolons, rfl⟩

/-- The lines of a continuation that are new, with their positions in it. -/
def newLines (text more : String) : List (ℕ × String) :=
  (firstOccurrences (linesOf more)).filter (·.2 ∉ linesOf text)

lemma eraseDups_append_newLines (text more : String) :
    (linesOf text ++ linesOf more).eraseDups =
      (linesOf text).eraseDups ++ (newLines text more).map Prod.snd := by
  rw [← map_snd_firstOccurrences, firstOccurrences_append, List.map_append, List.map_map,
    map_snd_firstOccurrences]
  rfl

lemma mem_of_mem_newLines {text more : String} {l : ℕ × String} (h : l ∈ newLines text more) :
    l.2 ∈ linesOf more :=
  mem_of_mem_firstOccurrences (List.mem_filter.mp h).1

/-- **The digest of a continued report.**  Let a text be continued by a second one, with no line
and no line ending across the boundary.  An error of the first text is an error of both; an error
of the second is one of both, further back by the number of lines of the first.  Without an error
the digest of both is clean if both are empty, and otherwise it is the catalogue of the first into
which the records on the new lines of the second are entered in their order.  So what the
catalogue of the first holds stands at the beginning of the catalogue of both. -/
theorem digest_append (path : String) {text more : String}
    (hcut : IsLineCut text.toList more.toList) :
    let digestOf := fun text => (ofText path text).digest
    (∀ m, digestOf text = .error m → digestOf (text ++ more) = .error m) ∧
      (∀ d m, digestOf text = .ok d → digestOf more = .error m →
        digestOf (text ++ more) =
          .error { m with lineNo := m.lineNo + (linesOf text).length }) ∧
      ∀ d e, digestOf text = .ok d → digestOf more = .ok e →
        (text = "" ∧ more = "" → digestOf (text ++ more) = .ok .clean) ∧
        (¬ (text = "" ∧ more = "") → ∃ (records : List Record) (c : Catalogue),
          (newLines text more).map (fun l => Record.parse l.1 l.2) = records.map .ok ∧
          c = records.foldl Catalogue.add d.catalogue ∧
          digestOf (text ++ more) = .ok (.findings c) ∧ c.BeginsWith d.catalogue) := by
  intro digestOf
  have hlines : linesOf (text ++ more) = linesOf text ++ linesOf more := Text.linesOf_append hcut
  refine ⟨fun m hm => ?_, fun d m hd hm => ?_, fun d e hd he => ⟨?_, fun hne => ?_⟩⟩
  · refine (digest_eq_error_iff path _ m).mpr ?_
    rw [hlines]
    exact ((digest_eq_error_iff path _ m).mp hm).append_right _
  · refine (digest_eq_error_iff path _ _).mpr ?_
    rw [hlines]
    exact ((digest_eq_error_iff path _ m).mp hm).append_left (catalogue_of_digest_eq_ok hd).1
  · rintro ⟨rfl, rfl⟩
    rfl
  · obtain ⟨htext, hd⟩ := catalogue_of_digest_eq_ok hd
    obtain ⟨hmore, -⟩ := catalogue_of_digest_eq_ok he
    have hparse : ∀ l ∈ newLines text more, Record.parse l.1 l.2 = .ok (ofLine l.2) :=
      fun l hl => Record.parse_of_two_le_colons (hmore _ (mem_of_mem_newLines hl))
        (Text.isOneLine_of_mem_linesOf (mem_of_mem_newLines hl)).2 l.1
    -- the records of both are those of the first, and behind them those on the new lines
    have hrecords : (linesOf (text ++ more)).eraseDups.map ofLine =
        (linesOf text).eraseDups.map ofLine ++ (newLines text more).map (ofLine ·.2) := by
      rw [hlines, eraseDups_append_newLines, List.map_append, List.map_map]
      rfl
    refine ⟨(newLines text more).map (ofLine ·.2), _, ?_, rfl, ?_⟩
    · rw [List.map_map]
      exact List.map_congr_left hparse
    · rw [hd, ← Catalogue.ofRecords_append]
      refine ⟨(digest_eq_findings_iff path _ _).mpr ⟨?_, ?_, by rw [hrecords]⟩,
        Catalogue.beginsWith_ofRecords_append _ _⟩
      · rwa [Ne, Text.linesOf_eq_nil_iff, String.append_eq_empty_iff]
      · rw [hlines]
        intro line hline
        rcases List.mem_append.mp hline with hline | hline
        · exact htext line hline
        · exact hmore line hline

/-- The boundary is a lone carriage return.  Of the second text one line repeats a line of the
first, and a file comes up again; or else its second line is malformed. -/
theorem digest_append_at_return :
    (∃ c, (ofText "report" "b:1:x\na:2:y\rb:1:x\nb:3:z\n").digest = .ok (.findings c) ∧
        c.toList = [("b", [⟨"1", "x"⟩, ⟨"3", "z"⟩]), ("a", [⟨"2", "y"⟩])]) ∧
      (ofText "report" "b:1:x\na:2:y\rb:1:x\na:2\n").digest = .error ⟨4, "a:2", 2⟩ := by
  have hne : linesOf "b:1:x\na:2:y\r" ≠ [] := by decide +kernel
  have hfirst := digest_of_two_le_colons hne (by decide +kernel) "report"
  constructor
  · have hne' : linesOf "b:1:x\nb:3:z\n" ≠ [] := by decide +kernel
    have hsecond := digest_of_two_le_colons hne' (by decide +kernel) "report"
    have hcut : IsLineCut "b:1:x\na:2:y\r".toList "b:1:x\nb:3:z\n".toList := by decide
    obtain ⟨-, -, hboth⟩ := digest_append "report" hcut
    obtain ⟨records, c, hrecords, rfl, hdigest, -⟩ := (hboth _ _ hfirst hsecond).2 (by decide)
    have hnew : (newLines "b:1:x\na:2:y\r" "b:1:x\nb:3:z\n").map
        (fun l => Record.parse l.1 l.2) = [⟨"b", ⟨"3", "z"⟩⟩].map .ok := by decide +kernel
    obtain rfl : [⟨"b", ⟨"3", "z"⟩⟩] = records :=
      List.map_injective_iff.mpr (fun _ _ => Except.ok.inj) (hnew.symm.trans hrecords)
    exact ⟨_, hdigest, by decide +kernel⟩
  · have hsecond : (ofText "report" "b:1:x\na:2\n").digest = .error ⟨2, "a:2", 2⟩ :=
      digest_of_isFirstMalformed
        ⟨["b:1:x"], "a:2", [], by decide +kernel, by decide, by decide, by decide⟩ "report"
    have hcut : IsLineCut "b:1:x\na:2:y\r".toList "b:1:x\na:2\n".toList := by decide
    obtain ⟨-, herror, -⟩ := digest_append "report" hcut
    exact herror _ _ hfirst hsecond

end Report

end FindingsDigest
