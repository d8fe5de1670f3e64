/-
# Fields of a line

The colons of a line cut it into fields, one more than there are colons.  Reading a record off
a line is described by its fields: with two colons or more the first three fields are the
record, and with fewer the error counts the fields.  Since no line of a report holds a line
feed, dropping line feeds from the rule does nothing there.
-/
import FindingsDigest.Proofs.Lines
import FindingsDigest.Record
import Mathlib.Data.List.Basic
import Mathlib.Data.List.TakeWhile

namespace FindingsDigest

/-! ### Splitting at a separator -/

section Split

variable {α : Type} [BEq α]

lemma length_splitOn (a : α) (xs : List α) : (xs.splitOn a).length = xs.count a + 1 := by
  induction xs with
  | nil => rfl
  | cons x xs ih =>
    rw [List.splitOn_cons_eq_if_modifyHead, List.count_cons]
    split <;> simp [ih]

lemma mem_of_mem_splitOn [LawfulBEq α] {a c : α} {xs piece : List α} (hpiece : piece ∈ xs.splitOn a)
    (hc : c ∈ piece) : c ∈ xs ∧ c ≠ a := by
  induction xs generalizing piece with
  | nil => simp_all
  | cons x xs ih =>
    rw [List.splitOn_cons_eq_if_modifyHead] at hpiece
    split at hpiece
    · -- at a separator an empty piece begins, and the others are those of the rest
      rcases List.mem_cons.mp hpiece with rfl | hpiece
      · simp at hc
      · exact ⟨List.mem_cons_of_mem x (ih hpiece hc).1, (ih hpiece hc).2⟩
    · -- any other element goes in front of the first piece of the rest
      next hx =>
      rw [beq_iff_eq] at hx
      rcases hsplit : xs.splitOn a with _ | ⟨first, rest⟩
      · exact absurd hsplit (List.splitOn_ne_nil a xs)
      · rw [hsplit, List.modifyHead_cons] at hpiece
        rcases List.mem_cons.mp hpiece with rfl | hpiece
        · rcases List.mem_cons.mp hc with rfl | hc
          · exact ⟨List.mem_cons_self, hx⟩
          · have := ih (hsplit ▸ List.mem_cons_self) hc
            exact ⟨List.mem_cons_of_mem x this.1, this.2⟩
        · have := ih (hsplit ▸ List.mem_cons_of_mem first hpiece) hc
          exact ⟨List.mem_cons_of_mem x this.1, this.2⟩

end Split

namespace Record

/-- The number of colons in a line. -/
def colons (line : String) : ℕ :=
  line.toList.count ':'

/-- The fields of a line, which its colons separate. -/
def fields (line : String) : List String :=
  (line.toList.splitOn ':').map String.ofList

/-- One field of a line, the first at 0; a field that is not there is empty. -/
def field (line : String) (i : ℕ) : String :=
  (fields line)[i]?.getD ""

/-- The finding that the second and third field of a line spell. -/
def findingOf (line : String) : Finding :=
  ⟨field line 1, field line 2⟩

/-- The record that the first three fields of a line spell, just as they stand. -/
def ofLine (line : String) : Record :=
  ⟨field line 0, findingOf line⟩

/-- The three parts of a record. -/
def parts (r : Record) : List String :=
  [r.file, r.finding.line, r.finding.rule]

/-- A field is made of characters of its line, and no colon is among them. -/
lemma mem_of_mem_fields {line f : String} {c : Char} (hf : f ∈ fields line)
    (hc : c ∈ f.toList) : c ∈ line.toList ∧ c ≠ ':' := by
  obtain ⟨piece, hpiece, rfl⟩ := List.mem_map.mp hf
  rw [String.toList_ofList] at hc
  exact mem_of_mem_splitOn hpiece hc

/-- No field of a report line holds a colon or a character of a line ending. -/
lemma not_mem_fields {text line f : String} (hline : line ∈ Text.linesOf text)
    (hf : f ∈ fields line) : ':' ∉ f.toList ∧ '\r' ∉ f.toList ∧ '\n' ∉ f.toList := by
  have hone := Text.isOneLine_of_mem_linesOf hline
  exact ⟨fun hc => (mem_of_mem_fields hf hc).2 rfl, fun hc => hone.1 (mem_of_mem_fields hf hc).1,
    fun hc => hone.2 (mem_of_mem_fields hf hc).1⟩

lemma not_mem_field {text line : String} (hline : line ∈ Text.linesOf text) (i : ℕ) :
    ':' ∉ (field line i).toList ∧ '\r' ∉ (field line i).toList ∧ '\n' ∉ (field line i).toList := by
  rw [field]
  rcases hf : (fields line)[i]? with _ | f
  · simp
  · exact not_mem_fields hline (List.mem_of_getElem? hf)

/-- With two colons there are three fields to begin with. -/
lemma exists_splitOn_eq {line : String} (h : 2 ≤ colons line) :
    ∃ file number rule rest, line.toList.splitOn ':' = file :: number :: rule :: rest := by
  have hlen : (line.toList.splitOn ':').length = colons line + 1 := length_splitOn _ _
  rcases hsplit : line.toList.splitOn ':' with _ | ⟨file, _ | ⟨number, _ | ⟨rule, rest⟩⟩⟩
  case cons.cons.cons => exact ⟨file, number, rule, rest, rfl⟩
  all_goals
    rw [hsplit] at hlen
    simp only [List.length_cons, List.length_nil] at hlen
    omega

lemma take_three_fields {line : String} (h : 2 ≤ colons line) :
    (fields line).take 3 = [field line 0, field line 1, field line 2] := by
  obtain ⟨file, number, rule, rest, hsplit⟩ := exists_splitOn_eq h
  simp [field, fields, hsplit]

/-! ### Reading a record -/

lemma dropLineFeeds_eq_self {text : List Char} (h : '\n' ∉ text) : dropLineFeeds text = text := by
  have hdrop : text.reverse.dropWhile (· = '\n') = text.reverse := by
    refine List.dropWhile_eq_self_iff.mpr fun hlen hfirst => h ?_
    rw [← of_decide_eq_true hfirst, ← List.mem_reverse]
    exact List.getElem_mem hlen
  rw [dropLineFeeds, hdrop, List.reverse_reverse]

/-- A line with two colons gives its record, and nothing is stripped from it unless it holds
line feeds. -/
lemma parse_of_two_le_colons {line : String} (h : 2 ≤ colons line) (hfeed : '\n' ∉ line.toList)
    (lineNo : ℕ) : parse lineNo line = .ok (ofLine line) := by
  obtain ⟨file, number, rule, rest, hsplit⟩ := exists_splitOn_eq h
  have hrule : '\n' ∉ rule := fun hmem =>
    hfeed (mem_of_mem_splitOn (hsplit ▸ by simp : rule ∈ line.toList.splitOn ':') hmem).1
  simp [parse, ofLine, findingOf, field, fields, hsplit, dropLineFeeds_eq_self hrule]

/-- A line with fewer colons gives an error that counts its fields. -/
lemma parse_of_colons_lt_two {line : String} (h : colons line < 2) (lineNo : ℕ) :
    parse lineNo line = .error ⟨lineNo, line, colons line + 1⟩ := by
  have hlen : (line.toList.splitOn ':').length = colons line + 1 := length_splitOn _ _
  unfold parse
  split
  · next heq =>
    rw [heq, List.length_cons, List.length_cons, List.length_cons] at hlen
    omega
  · rw [hlen]

end Record

end FindingsDigest
