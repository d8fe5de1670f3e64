/-
# Line endings carry no meaning

A row of lines can be written down in many ways: each line may end in a line feed, in a carriage
return or in both, and a last line that is not empty may go without an ending.  Whatever is
chosen, reading gives the row of lines back, so the digest of the text is the same.  There is one
exception: a carriage return and a line feed directly behind it are read as one ending, so an
empty line that ends in a line feed cannot follow a line that ends in a carriage return.

Reading undoes writing one line at a time.  A text may be cut behind an ending, unless the cut tears
a carriage return from its line feed (`IsLineCut`), and the lines of the whole are then the lines of
the two parts (`lines_append`).  With this law, only single lines are left to be read.
-/
import FindingsDigest.Proofs.Digest

namespace FindingsDigest

namespace Text

/-! ### Cutting a text between two lines -/

/-- Whether no line and no line ending of `a ++ b` reaches from `a` into `b`. -/
def IsLineCut (a b : List Char) : Prop :=
  a = [] ∨ a.getLast? = some '\n' ∨ a.getLast? = some '\r' ∧ b.head? ≠ some '\n'

instance (a b : List Char) : Decidable (IsLineCut a b) :=
  inferInstanceAs (Decidable (_ ∨ _))

namespace LineScan

lemma afterReturn_step (s : LineScan) {c : Char} (hc : c ≠ '\r') :
    (s.step c).afterReturn = false := by
  rw [step, if_neg hc]
  split
  · split
    · rfl
    · rfl
  · rfl

/-- Directly behind a carriage return no line is open. -/
lemma line_eq_nil_of_afterReturn (text : List Char)
    (h : (text.foldl step {}).afterReturn = true) : (text.foldl step {}).line = [] := by
  rcases List.eq_nil_or_concat text with rfl | ⟨before, c, rfl⟩
  · rfl
  · rw [List.concat_eq_append, List.foldl_append, List.foldl_cons, List.foldl_nil] at h ⊢
    by_cases hc : c = '\r'
    · rw [hc]
      rfl
    · rw [afterReturn_step _ hc] at h
      cases h

/-- At a cut no line is open, and a carriage return waits for no line feed. -/
lemma line_eq_nil_of_isLineCut {a b : List Char} (h : IsLineCut a b) :
    (a.foldl step {}).line = [] ∧
      ((a.foldl step {}).afterReturn = true → b.head? ≠ some '\n') := by
  rcases h with rfl | h | ⟨h, hb⟩
  · exact ⟨rfl, fun h => by cases h⟩
  · obtain ⟨before, rfl⟩ := List.getLast?_eq_some_iff.mp h
    rw [List.foldl_append, List.foldl_cons, List.foldl_nil]
    by_cases hafter : (before.foldl step {}).afterReturn = true
    · simp [step, hafter, line_eq_nil_of_afterReturn before hafter]
    · simp [step, close, hafter]
  · obtain ⟨before, rfl⟩ := List.getLast?_eq_some_iff.mp h
    rw [List.foldl_append, List.foldl_cons, List.foldl_nil]
    exact ⟨rfl, fun _ => hb⟩

/-- Closed lines stand in front of all others. -/
lemma lines_append_closed (s : LineScan) (older : List (List Char)) :
    ({ s with closed := s.closed ++ older } : LineScan).lines = older.reverse ++ s.lines := by
  unfold lines
  split <;> simp

/-- With no line open, the rest of a text is read as a text of its own. -/
lemma lines_foldl_step {s : LineScan} {text : List Char} (hline : s.line = [])
    (hafter : s.afterReturn = true → text.head? ≠ some '\n') :
    (text.foldl step s).lines = s.closed.reverse ++ Text.lines text := by
  obtain ⟨closed, line, afterReturn⟩ := s
  obtain rfl : line = [] := hline
  cases text with
  | nil => simp [lines]
  | cons c rest =>
    -- the first character is not a line feed that would be dropped
    have hstep : step ⟨closed, [], afterReturn⟩ c = step ⟨closed, [], false⟩ c := by
      cases afterReturn with
      | false => rfl
      | true =>
        have hc : c ≠ '\n' := by simpa using hafter rfl
        simp [step, close, hc]
    have hclosed := foldl_step_closed closed {} (c :: rest)
    rw [List.nil_append, List.foldl_cons] at hclosed
    rw [List.foldl_cons, hstep, hclosed, lines_append_closed]
    rfl

end LineScan

/-- The lines of a text are those in front of a cut and those behind it. -/
lemma lines_append {a b : List Char} (h : IsLineCut a b) : lines (a ++ b) = lines a ++ lines b := by
  obtain ⟨hline, hafter⟩ := LineScan.line_eq_nil_of_isLineCut h
  have ha : lines a = (a.foldl LineScan.step {}).closed.reverse := by
    simp [lines, LineScan.lines, hline]
  rw [lines, List.foldl_append, LineScan.lines_foldl_step hline hafter, ha]

lemma linesOf_append {a b : String} (h : IsLineCut a.toList b.toList) :
    linesOf (a ++ b) = linesOf a ++ linesOf b := by
  rw [linesOf, String.toList_append, lines_append h, List.map_append]
  rfl

/-! ### Reading one line -/

instance (line : List Char) : Decidable (IsOneLine line) :=
  inferInstanceAs (Decidable (_ ∧ _))

/-- A text without line endings stays open. -/
lemma LineScan.foldl_step_of_isOneLine {text : List Char} (h : IsOneLine text)
    (closed : List (List Char)) (line : List Char) :
    text.foldl step ⟨closed, line, false⟩ = ⟨closed, text.reverse ++ line, false⟩ := by
  induction text generalizing line with
  | nil => rfl
  | cons c rest ih =>
    simp only [IsOneLine, List.mem_cons, not_or] at h
    have hstep : step ⟨closed, line, false⟩ c = ⟨closed, c :: line, false⟩ := by
      simp [step, Ne.symm h.1.1, Ne.symm h.2.1]
    rw [List.foldl_cons, hstep, ih ⟨h.1.2, h.2.2⟩]
    simp

lemma lines_of_isOneLine {text : List Char} (h : IsOneLine text) (hne : text ≠ []) :
    lines text = [text] := by
  rw [lines, LineScan.foldl_step_of_isOneLine h]
  simp [LineScan.lines, hne]

/-- The ways to end a line. -/
inductive LineEnding where
  /-- A line feed alone. -/
  | feed
  /-- A carriage return alone. -/
  | carriage
  /-- A carriage return and a line feed. -/
  | both
  deriving DecidableEq, Repr

/-- The characters of a line ending. -/
def LineEnding.chars : LineEnding → List Char
  | feed => ['\n']
  | carriage => ['\r']
  | both => ['\r', '\n']

lemma lines_append_ending {line : List Char} (h : IsOneLine line) (e : LineEnding) :
    lines (line ++ e.chars) = [line] := by
  rw [lines, List.foldl_append, LineScan.foldl_step_of_isOneLine h]
  cases e <;> simp [LineEnding.chars, LineScan.step, LineScan.close, LineScan.lines]

/-- A text may be cut behind an ending, unless the rest would complete the ending. -/
lemma isLineCut_append_ending (line : List Char) {e : LineEnding} {rest : List Char}
    (h : e = .carriage → rest.head? ≠ some '\n') : IsLineCut (line ++ e.chars) rest := by
  cases e with
  | feed => exact Or.inr (Or.inl (by simp [LineEnding.chars]))
  | both => exact Or.inr (Or.inl (by simp [LineEnding.chars]))
  | carriage => exact Or.inr (Or.inr ⟨by simp [LineEnding.chars], h rfl⟩)

/-! ### Writing a row of lines -/

/-- A line with the ending that is chosen for it. -/
structure EndedLine where
  line : String
  ending : LineEnding
  deriving DecidableEq, Repr

/-- The characters of a line and its ending. -/
def EndedLine.chars (l : EndedLine) : List Char :=
  l.line.toList ++ l.ending.chars

/-- Whether the line feed of an empty line would be taken for the second half of the ending in
front of it. -/
def EndedLine.Merge (k l : EndedLine) : Prop :=
  k.ending = .carriage ∧ l.line = "" ∧ l.ending = .feed

instance (k l : EndedLine) : Decidable (k.Merge l) :=
  inferInstanceAs (Decidable (_ ∧ _))

/-- The characters of a row of lines.  If `lastOpen`, the ending of the last line is left out,
unless this line is empty. -/
def writtenChars (lastOpen : Bool) : List EndedLine → List Char
  | [] => []
  | [l] => if lastOpen ∧ l.line ≠ "" then l.line.toList else l.chars
  | l :: k :: rest => l.chars ++ writtenChars lastOpen (k :: rest)

/-- The text of a row of lines. -/
def written (lastOpen : Bool) (ls : List EndedLine) : String :=
  String.ofList (writtenChars lastOpen ls)

/-- Whether the lines of a row can be told from its text: no line holds a character of an ending,
and no two endings merge. -/
structure Legible (ls : List EndedLine) : Prop where
  isOneLine : ∀ l ∈ ls, IsOneLine l.line.toList
  not_merge : ls.IsChain fun k l => ¬ k.Merge l

namespace Legible

variable {l k : EndedLine} {rest : List EndedLine}

lemma tail (h : Legible (l :: rest)) : Legible rest where
  isOneLine m hm := h.isOneLine m (List.mem_cons_of_mem l hm)
  not_merge := h.not_merge.of_cons

/-- Behind a carriage return the text does not go on with a line feed. -/
lemma head?_writtenChars (h : Legible (l :: k :: rest)) (hl : l.ending = .carriage)
    (lastOpen : Bool) : (writtenChars lastOpen (k :: rest)).head? ≠ some '\n' := by
  have hfeed : '\n' ∉ k.line.toList := (h.isOneLine k (by simp)).2
  -- the text begins with the line `k`, or with its ending if it is empty
  obtain ⟨more, hmore⟩ : ∃ more, writtenChars lastOpen (k :: rest) = k.line.toList ++ more ∧
      (k.line = "" → more.head? = k.ending.chars.head?) := by
    cases rest with
    | nil =>
      rw [writtenChars]
      split
      · next hopen => exact ⟨[], by simp, fun hk => absurd hk hopen.2⟩
      · exact ⟨k.ending.chars, rfl, fun _ => rfl⟩
    | cons m rest =>
      refine ⟨k.ending.chars ++ writtenChars lastOpen (m :: rest), ?_, fun _ => ?_⟩
      · rw [writtenChars, EndedLine.chars, List.append_assoc]
      · cases k.ending <;> rfl
  rw [hmore.1]
  by_cases hk : k.line = ""
  · have hnot : ¬ l.Merge k := (List.isChain_cons_cons.mp h.not_merge).1
    rw [hk, String.toList_empty, List.nil_append, hmore.2 hk]
    cases hending : k.ending with
    | feed => exact absurd ⟨hl, hk, hending⟩ hnot
    | carriage => simp [LineEnding.chars]
    | both => simp [LineEnding.chars]
  · rcases hchars : k.line.toList with _ | ⟨c, cs⟩
    · exact absurd (String.toList_eq_nil_iff.mp hchars) hk
    · rw [List.cons_append, List.head?_cons, Ne, Option.some.injEq]
      rintro rfl
      simp [hchars] at hfeed

lemma isLineCut (h : Legible (l :: k :: rest)) (lastOpen : Bool) :
    IsLineCut l.chars (writtenChars lastOpen (k :: rest)) :=
  isLineCut_append_ending _ fun hl => h.head?_writtenChars hl lastOpen

end Legible

/-- Reading undoes writing. -/
lemma lines_writtenChars {ls : List EndedLine} (h : Legible ls) (lastOpen : Bool) :
    lines (writtenChars lastOpen ls) = ls.map (·.line.toList) := by
  induction ls with
  | nil => rfl
  | cons l rest ih =>
    have hl : IsOneLine l.line.toList := h.isOneLine l List.mem_cons_self
    cases rest with
    | nil =>
      rw [writtenChars, List.map_singleton]
      split
      · next hopen => exact lines_of_isOneLine hl (by simpa using hopen.2)
      · exact lines_append_ending hl l.ending
    | cons k rest =>
      rw [writtenChars, lines_append (h.isLineCut lastOpen), EndedLine.chars,
        lines_append_ending hl, ih h.tail]
      rfl

lemma linesOf_written {ls : List EndedLine} (h : Legible ls) (lastOpen : Bool) :
    linesOf (written lastOpen ls) = ls.map EndedLine.line := by
  rw [linesOf, written, String.toList_ofList, lines_writtenChars h, List.map_map]
  exact List.map_congr_left fun l _ => String.ofList_toList

/-- The exception: these two endings merge, and one line is lost. -/
example : linesOf (written false [⟨"a", .carriage⟩, ⟨"", .feed⟩]) = ["a"] := by decide +kernel

/-! ### Lines that all end in a line feed -/

/-- The text of a row of lines with a line feed behind each. -/
def ofLines (ls : List String) : String :=
  String.join (ls.map (· ++ "\n"))

lemma writtenChars_false (ls : List EndedLine) :
    writtenChars false ls = ls.flatMap EndedLine.chars := by
  induction ls with
  | nil => rfl
  | cons l rest ih =>
    cases rest with
    | nil => simp [writtenChars]
    | cons k rest => rw [writtenChars, ih, ← List.flatMap_cons]

lemma ofLines_eq_written (ls : List String) :
    ofLines ls = written false (ls.map fun l => ⟨l, .feed⟩) := by
  apply String.toList_inj.mp
  rw [ofLines, written, String.toList_ofList, writtenChars_false, String.toList_join,
    List.flatMap_map, List.flatMap_map]
  simp [EndedLine.chars, LineEnding.chars]

lemma linesOf_ofLines {ls : List String} (h : ∀ l ∈ ls, IsOneLine l.toList) :
    linesOf (ofLines ls) = ls := by
  have hlegible : Legible (ls.map fun l => ⟨l, .feed⟩) := by
    constructor
    · intro l hl
      obtain ⟨line, hline, rfl⟩ := List.mem_map.mp hl
      exact h line hline
    · -- no line ends in a carriage return, so no two endings merge
      refine (List.pairwise_of_forall_mem_list fun k hk l hl => ?_).isChain
      obtain ⟨line, hline, rfl⟩ := List.mem_map.mp hk
      rintro ⟨hcarriage, -⟩
      cases hcarriage
  rw [ofLines_eq_written, linesOf_written hlegible, List.map_map]
  exact List.map_id ls

end Text

namespace Report

open Text (EndedLine Legible linesOf written)

/-- **Line endings carry no meaning.**  However the lines of a row are ended, reading its text
gives the row back; so the number of lines, the distinct lines and the digest, be it a catalogue
or an error, are the same for all texts of the row. -/
theorem digest_written (path : String) {ls : List EndedLine} (h : Legible ls) (lastOpen : Bool) :
    let contents := ls.map EndedLine.line
    let report := ofText path (written lastOpen ls)
    linesOf (written lastOpen ls) = contents ∧
      report.lines.length = contents.length ∧
      report.distinctLines.map Prod.snd = contents.eraseDups ∧
      (∀ c, report.digest = .ok (.findings c) → c.size = contents.eraseDups.length) ∧
      ∀ (ls' : List EndedLine) (lastOpen' : Bool), Legible ls' →
        ls'.map EndedLine.line = contents →
        (ofText path (written lastOpen' ls')).digest = report.digest := by
  intro contents report
  have hlines : linesOf (written lastOpen ls) = contents := Text.linesOf_written h lastOpen
  have hreport : report = ⟨path, contents⟩ := congrArg (Report.mk path) hlines
  refine ⟨hlines, by rw [hreport], ?_, fun c hc => ?_, fun ls' lastOpen' h' hcontents => ?_⟩
  · rw [hreport]
    exact map_snd_firstOccurrences contents
  · obtain ⟨-, -, rfl⟩ := (digest_eq_findings_iff path _ c).mp hc
    rw [(Catalogue.holds_ofRecords _).size_eq, List.length_map, hlines]
  · have hreport' : ofText path (written lastOpen' ls') = ⟨path, contents⟩ :=
      congrArg (Report.mk path) ((Text.linesOf_written h' lastOpen').trans hcontents)
    rw [hreport', hreport]

/-- All three endings in one text, next to each other where lines are empty, and none behind the
last line. -/
theorem digest_written_mixed :
    linesOf "a:1:x\r\n\r\r\n\na:1:x" = ["a:1:x", "", "", "", "a:1:x"] ∧
      (ofText "report" "a:1:x\n\n\n\na:1:x\n").digest =
        (ofText "report" "a:1:x\r\n\r\r\n\na:1:x").digest := by
  have hmixed : Legible [⟨"a:1:x", .both⟩, ⟨"", .carriage⟩, ⟨"", .both⟩, ⟨"", .feed⟩,
      ⟨"a:1:x", .feed⟩] := ⟨by decide, by decide⟩
  have hfeeds : Legible [⟨"a:1:x", .feed⟩, ⟨"", .feed⟩, ⟨"", .feed⟩, ⟨"", .feed⟩,
      ⟨"a:1:x", .feed⟩] := ⟨by decide, by decide⟩
  obtain ⟨hlines, -, -, -, hdigest⟩ := digest_written "report" hmixed true
  have hsame := hdigest _ false hfeeds rfl
  exact ⟨hlines, hsame⟩

end Report

end FindingsDigest
