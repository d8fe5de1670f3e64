/-
# What the scan for lines keeps

Two facts about the lines of a text, each from an invariant of the scan.  No line holds a
character of a line ending, since such characters are dropped wherever they stand.  And only
the empty text has no lines: a character that has been read is in a closed line or in the open
one, or it closed a line, and a line feed is dropped only behind a closed line.
-/
import FindingsDigest.Text.Lines
import Mathlib.Data.List.Induction
import Mathlib.Data.List.Basic

namespace FindingsDigest.Text

/-- Whether a text holds no character of a line ending. -/
def IsOneLine (line : List Char) : Prop :=
  '\r' ∉ line ∧ '\n' ∉ line

namespace LineScan

/-! ### No ending inside a line -/

/-- All lines of a scan are free of line endings. -/
structure EndingFree (s : LineScan) : Prop where
  closed : ∀ l ∈ s.closed, IsOneLine l
  line : IsOneLine s.line

lemma EndingFree.close {s : LineScan} (h : s.EndingFree) (afterReturn : Bool) :
    (s.close afterReturn).EndingFree where
  closed l hl := by
    rcases List.mem_cons.mp hl with rfl | hl
    · simpa [IsOneLine] using h.line
    · exact h.closed l hl
  line := by simp [IsOneLine, LineScan.close]

lemma EndingFree.step {s : LineScan} (h : s.EndingFree) (c : Char) : (s.step c).EndingFree := by
  unfold LineScan.step
  split
  · exact h.close true
  · next hreturn =>
    split
    · split
      · exact ⟨h.closed, h.line⟩
      · exact h.close false
    · next hfeed =>
      refine ⟨h.closed, ?_⟩
      have := h.line
      simp only [IsOneLine, List.mem_cons, not_or] at this ⊢
      exact ⟨⟨Ne.symm hreturn, this.1⟩, Ne.symm hfeed, this.2⟩

lemma endingFree_foldl_step (text : List Char) : (text.foldl LineScan.step {}).EndingFree := by
  induction text using List.reverseRecOn with
  | nil => exact ⟨by simp, by simp [IsOneLine]⟩
  | append_singleton text c ih =>
    rw [List.foldl_append]
    exact ih.step c

/-! ### No text without a line -/

/-- A carriage return closes a line, so behind one there is a closed line. -/
def ReturnCloses (s : LineScan) : Prop :=
  s.afterReturn = true → s.closed ≠ []

/-- Behind a character some line has begun. -/
lemma ReturnCloses.begun_step {s : LineScan} (h : s.ReturnCloses) (c : Char) :
    (s.step c).closed ≠ [] ∨ (s.step c).line ≠ [] ∧ (s.step c).afterReturn = false := by
  unfold LineScan.step LineScan.close
  split
  · exact Or.inl (List.cons_ne_nil _ _)
  · split
    · split
      · -- a dropped line feed: the invariant says that a line was closed
        next hafter => exact Or.inl (h hafter)
      · exact Or.inl (List.cons_ne_nil _ _)
    · exact Or.inr ⟨List.cons_ne_nil _ _, rfl⟩

lemma ReturnCloses.step {s : LineScan} (h : s.ReturnCloses) (c : Char) :
    (s.step c).ReturnCloses := by
  intro hafter
  rcases h.begun_step c with hclosed | ⟨-, hnot⟩
  · exact hclosed
  · simp [hnot] at hafter

lemma returnCloses_foldl_step (text : List Char) :
    (text.foldl LineScan.step {}).ReturnCloses := by
  induction text using List.reverseRecOn with
  | nil => intro h; cases h
  | append_singleton text c ih =>
    rw [List.foldl_append]
    exact ih.step c

lemma lines_eq_nil_iff (s : LineScan) : s.lines = [] ↔ s.closed = [] ∧ s.line = [] := by
  unfold LineScan.lines
  split <;> simp_all

end LineScan

/-! ### The lines of a text -/

lemma isOneLine_of_mem_lines {text line : List Char} (h : line ∈ lines text) :
    IsOneLine line := by
  have hfree := LineScan.endingFree_foldl_step text
  rw [lines, LineScan.lines, List.mem_reverse] at h
  split at h
  · exact hfree.closed line h
  · exact (hfree.close false).closed line h

lemma isOneLine_of_mem_linesOf {text line : String} (h : line ∈ linesOf text) :
    IsOneLine line.toList := by
  obtain ⟨chars, hchars, rfl⟩ := List.mem_map.mp h
  rw [String.toList_ofList]
  exact isOneLine_of_mem_lines hchars

lemma lines_eq_nil_iff (text : List Char) : lines text = [] ↔ text = [] := by
  constructor
  · intro h
    rcases List.eq_nil_or_concat text with rfl | ⟨before, c, rfl⟩
    · rfl
    · -- the last character left a closed line or an open one
      rw [lines, List.concat_eq_append, List.foldl_append, LineScan.lines_eq_nil_iff] at h
      rcases (LineScan.returnCloses_foldl_step before).begun_step c with hclosed | ⟨hline, -⟩
      · exact absurd h.1 hclosed
      · exact absurd h.2 hline
  · rintro rfl
    rfl

lemma linesOf_eq_nil_iff (text : String) : linesOf text = [] ↔ text = "" := by
  rw [linesOf, List.map_eq_nil_iff, lines_eq_nil_iff, String.toList_eq_nil_iff]

end FindingsDigest.Text
