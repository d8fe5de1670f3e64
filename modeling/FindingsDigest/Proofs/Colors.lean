/-
# Colors change nothing that is shown

A terminal does not show the codes in a text.  It reads the text from left to right; a code begins
at an escape character and ends with the next `m`, and every other character is shown.  This is
`Text.CodeScan`, which keeps the shown characters apart from the codes and knows nothing of pages.

If the findings of a digest hold no escape characters, then reading its page with colors shows just
its page without colors, and the codes that are read open a color and close it in turn.  Both are
proved for one piece at a time: a piece begins and ends outside all codes, and so does a page, or
any beginning of it that is made of whole pieces (`CodeScan.run_page`).  So behind each of these
beginnings every color that was opened has been closed.  Blanks and line ends stand there; what
stands in color is text that belongs to a role.
-/
import FindingsDigest.Proofs.Continuation
import FindingsDigest.Proofs.Equality
import FindingsDigest.Page

namespace FindingsDigest

namespace Text

/-! ### Reading a text with codes -/

/-- The character that begins a code. -/
abbrev escapeChar : Char := '\x1b'

/-- What a terminal has read of a text. -/
structure CodeScan where
  /-- The characters that are shown, the latest first. -/
  shown : List Char := []
  /-- The codes that have ended, the latest first. -/
  codes : List (List Char) := []
  /-- The characters of the open code, the latest first. -/
  code : Option (List Char) := none
  deriving DecidableEq, Repr

namespace CodeScan

/-- Reads one character. -/
def step (s : CodeScan) (c : Char) : CodeScan :=
  match s.code with
  | none =>
    if c = escapeChar then { s with code := some [c] } else { s with shown := c :: s.shown }
  | some code =>
    if c = 'm' then { s with codes := (c :: code).reverse :: s.codes, code := none }
    else { s with code := some (c :: code) }

/-- Reads a text. -/
def run (s : CodeScan) (text : List Char) : CodeScan :=
  text.foldl step s

lemma run_append (s : CodeScan) (text more : List Char) :
    s.run (text ++ more) = (s.run text).run more :=
  List.foldl_append

/-- A text without escape characters is shown as it stands. -/
lemma run_of_not_mem {text : List Char} (h : escapeChar ∉ text) (shown : List Char)
    (codes : List (List Char)) :
    run ⟨shown, codes, none⟩ text = ⟨text.reverse ++ shown, codes, none⟩ := by
  induction text generalizing shown with
  | nil => rfl
  | cons c rest ih =>
    rw [List.mem_cons, not_or] at h
    have hstep : step ⟨shown, codes, none⟩ c = ⟨c :: shown, codes, none⟩ := by
      simp [step, Ne.symm h.1]
    have hrun : run ⟨shown, codes, none⟩ (c :: rest) = run ⟨c :: shown, codes, none⟩ rest := by
      rw [run, List.foldl_cons, hstep]
      rfl
    rw [hrun, ih h.2]
    simp

end CodeScan

/-- A text without its codes. -/
def eraseCodes (text : String) : String :=
  String.ofList (CodeScan.run {} text.toList).shown.reverse

/-- The codes of a text, in their order. -/
def codes (text : String) : List (List Char) :=
  (CodeScan.run {} text.toList).codes.reverse

end Text

open Text (CodeScan escapeChar)

/-! ### Codes that open and close a color in turn -/

/-- Whether codes open a color and close it in turn: an opening comes first, a closing last, and
between an opening and its closing there is no other code. -/
inductive InTurn : List (List Char) → Prop where
  | nil : InTurn []
  | colored (role : Role) {codes : List (List Char)} (h : InTurn codes) :
    InTurn (role.opening.toList :: Role.closing.toList :: codes)

/-- Whether behind a text no color is open, and no code is. -/
structure PenUp (text : List Char) : Prop where
  code_eq_none : (CodeScan.run {} text).code = none
  inTurn : InTurn (CodeScan.run {} text).codes.reverse

/-! ### Pages without escape characters -/

/-- Whether no part of a record holds an escape character. -/
def Record.EscapeFree (r : Record) : Prop :=
  ∀ part ∈ r.parts, escapeChar ∉ part.toList

instance (r : Record) : Decidable r.EscapeFree :=
  inferInstanceAs (Decidable (∀ part ∈ r.parts, escapeChar ∉ part.toList))

/-- Whether no part of a finding in a digest holds an escape character. -/
def Digest.EscapeFree (d : Digest) : Prop :=
  ∀ r ∈ d.catalogue.records, r.EscapeFree

instance (d : Digest) : Decidable d.EscapeFree :=
  inferInstanceAs (Decidable (∀ r ∈ d.catalogue.records, r.EscapeFree))

namespace Piece

/-- Whether a piece has the color of a role. -/
def IsColored : Piece → Prop
  | colored _ _ => True
  | blanks _ => False
  | lineEnd => False

/-- The codes that are drawn around a piece. -/
def codes : Piece → List (List Char)
  | colored role _ => [role.opening.toList, Role.closing.toList]
  | blanks _ => []
  | lineEnd => []

/-- Whether the text of a piece holds no escape character. -/
def EscapeFree (p : Piece) : Prop :=
  escapeChar ∉ p.chars false

instance (p : Piece) : Decidable p.EscapeFree :=
  inferInstanceAs (Decidable (escapeChar ∉ p.chars false))

lemma chars_of_not_isColored {p : Piece} (h : ¬ p.IsColored) : p.chars true = p.chars false := by
  cases p with
  | colored role text => exact absurd trivial h
  | blanks count => rfl
  | lineEnd => rfl

lemma escapeFree_of_not_isColored {p : Piece} (h : ¬ p.IsColored) : p.EscapeFree := by
  cases p with
  | colored role text => exact absurd trivial h
  | blanks count => simp [EscapeFree, chars, escapeChar]
  | lineEnd => decide

end Piece

namespace Page

/-- The line for a record, with its end. -/
def recordLine (width : ℕ) (r : Record) : Page :=
  findingLine width r.file r.finding ++ [.lineEnd]

/-- Between head and foot the page of a catalogue has a line for each record. -/
lemma ofCatalogue_eq (width : ℕ) (c : Catalogue) :
    ofCatalogue width c = head ++ c.records.flatMap (recordLine width) ++ foot := by
  rw [ofCatalogue, Catalogue.records, List.flatMap_assoc]
  have hgroup : ∀ g : String × List Finding, fileLines width g.1 g.2 =
      (g.2.map (⟨g.1, ·⟩)).flatMap (recordLine width) := by
    intro g
    rw [List.flatMap_map]
    rfl
  simp only [hgroup]

lemma escapeFree_recordLine {r : Record} (h : r.EscapeFree) (width : ℕ) :
    ∀ p ∈ recordLine width r, p.EscapeFree := by
  have hfile : escapeChar ∉ r.file.toList := h _ (by simp [Record.parts])
  have hline : escapeChar ∉ r.finding.line.toList := h _ (by simp [Record.parts])
  have hrule : escapeChar ∉ r.finding.rule.toList := h _ (by simp [Record.parts])
  simp [recordLine, findingLine, Piece.EscapeFree, Piece.chars, hfile, hline, hrule, escapeChar]

lemma escapeFree_ofDigest {d : Digest} (h : d.EscapeFree) (width : ℕ) :
    ∀ p ∈ ofDigest width d, p.EscapeFree := by
  cases d with
  | clean =>
    rw [ofDigest]
    decide
  | findings c =>
    have hhead : ∀ p ∈ head, p.EscapeFree := by decide
    have hfoot : ∀ p ∈ foot, p.EscapeFree := by decide
    intro p hp
    rw [ofDigest, ofCatalogue_eq, List.mem_append, List.mem_append, List.mem_flatMap] at hp
    rcases hp with (hp | ⟨r, hr, hp⟩) | hp
    · exact hhead p hp
    · exact escapeFree_recordLine (h r hr) width p hp
    · exact hfoot p hp

/-- The codes that are drawn on a page. -/
def codes (page : Page) : List (List Char) :=
  page.flatMap Piece.codes

lemma inTurn_codes (page : Page) : InTurn page.codes := by
  induction page with
  | nil => exact .nil
  | cons p page ih =>
    cases p with
    | colored role text => exact .colored role ih
    | blanks count => exact ih
    | lineEnd => exact ih

end Page

/-! ### Reading a page -/

namespace Text.CodeScan

lemma run_opening (role : Role) (shown : List Char) (codes : List (List Char)) :
    run ⟨shown, codes, none⟩ role.opening.toList =
      ⟨shown, role.opening.toList :: codes, none⟩ := by
  cases role <;> rfl

lemma run_closing (shown : List Char) (codes : List (List Char)) :
    run ⟨shown, codes, none⟩ Role.closing.toList =
      ⟨shown, Role.closing.toList :: codes, none⟩ :=
  rfl

/-- Reading a piece with colors shows the piece without colors, and ends outside all codes. -/
lemma run_piece {p : Piece} (h : p.EscapeFree) (shown : List Char) (codes : List (List Char)) :
    run ⟨shown, codes, none⟩ (p.chars true) =
      ⟨(p.chars false).reverse ++ shown, p.codes.reverse ++ codes, none⟩ := by
  cases p with
  | colored role text =>
    have htext : escapeChar ∉ text.toList := h
    have hchars : (Piece.colored role text).chars true =
        role.opening.toList ++ text.toList ++ Role.closing.toList := rfl
    rw [hchars, run_append, run_append, run_opening, run_of_not_mem htext, run_closing]
    rfl
  | blanks count => exact run_of_not_mem h shown codes
  | lineEnd => exact run_of_not_mem h shown codes

lemma run_page {page : Page} (h : ∀ p ∈ page, p.EscapeFree) (shown : List Char)
    (codes : List (List Char)) :
    run ⟨shown, codes, none⟩ (page.chars true) =
      ⟨(page.chars false).reverse ++ shown, page.codes.reverse ++ codes, none⟩ := by
  induction page generalizing shown codes with
  | nil => rfl
  | cons p page ih =>
    have hp : p.EscapeFree := h p List.mem_cons_self
    have hpage : ∀ q ∈ page, q.EscapeFree := fun q hq => h q (List.mem_cons_of_mem p hq)
    have hchars : ∀ color, Page.chars color (p :: page) = p.chars color ++ Page.chars color page :=
      fun _ => List.flatMap_cons
    have hcodes : Page.codes (p :: page) = p.codes ++ Page.codes page := List.flatMap_cons
    rw [hchars, hchars, hcodes, run_append, run_piece hp, ih hpage]
    simp

end Text.CodeScan

/-- Behind whole pieces, and some text without codes, no color is open. -/
lemma penUp_chars {page : Page} (h : ∀ p ∈ page, p.EscapeFree) {text : List Char}
    (htext : escapeChar ∉ text) : PenUp (page.chars true ++ text) := by
  have hrun : CodeScan.run {} (page.chars true ++ text) =
      ⟨text.reverse ++ (page.chars false).reverse, page.codes.reverse, none⟩ := by
    rw [CodeScan.run_append, CodeScan.run_page h, CodeScan.run_of_not_mem htext]
    simp
  constructor
  · rw [hrun]
  · rw [hrun, List.reverse_reverse]
    exact page.inTurn_codes

namespace Page

/-- **Colors change nothing that is shown.**  If the findings of a digest hold no escape
characters, then its page with colors, without the codes in it, is its page without colors, and
there are no codes in that.  With colors the codes open a color and close it in turn.  All blanks
that pad or part the pieces and all line ends stand where no color is open, and so does each
character of them. -/
theorem colors_change_nothing_shown {d : Digest} (h : d.EscapeFree) (width : ℕ) :
    let page := ofDigest width d
    Text.eraseCodes (page.text true) = page.text false ∧
      InTurn (Text.codes (page.text true)) ∧
      Text.codes (page.text true) ≠ [] ∧
      (∀ before piece behind, page = before ++ piece :: behind → ¬ piece.IsColored →
        ∀ k, PenUp (chars true before ++ (piece.chars true).take k)) ∧
      escapeChar ∉ (page.text false).toList := by
  intro page
  have hfree : ∀ p ∈ page, p.EscapeFree := escapeFree_ofDigest h width
  have hrun : CodeScan.run {} (page.text true).toList =
      ⟨(page.chars false).reverse, page.codes.reverse, none⟩ := by
    rw [text, String.toList_ofList, CodeScan.run_page hfree, List.append_nil, List.append_nil]
  have hcodes : Text.codes (page.text true) = page.codes := by
    rw [Text.codes, hrun, List.reverse_reverse]
  refine ⟨?_, ?_, ?_, ?_, ?_⟩
  · rw [Text.eraseCodes, hrun, List.reverse_reverse]
    rfl
  · rw [hcodes]
    exact page.inTurn_codes
  · rw [hcodes]
    cases d with
    | clean => simp [page, ofDigest, codes, Piece.codes]
    | findings c => simp [page, ofDigest, ofCatalogue, head, codes, Piece.codes]
  · intro before piece behind hpage hpiece k
    refine penUp_chars (fun p hp => hfree p ?_) fun hmem => ?_
    · rw [hpage]
      exact List.mem_append_left _ hp
    · rw [Piece.chars_of_not_isColored hpiece] at hmem
      exact Piece.escapeFree_of_not_isColored hpiece (List.mem_of_mem_take hmem)
  · rw [text, String.toList_ofList, chars, List.mem_flatMap]
    rintro ⟨p, hp, hmem⟩
    exact hfree p hp hmem

/-- File names and rules that look like codes without their escape character, fields with line
feeds and empty fields; at the line feed behind the head no color is open. -/
theorem colors_of_texts_like_codes :
    let d : Digest := .findings (.ofRecords [⟨"m[91;1m", ⟨"", "\n[0m"⟩⟩, ⟨"", ⟨" m\n", ""⟩⟩])
    let page := ofDigest 7 d
    d.EscapeFree ∧ Text.eraseCodes (page.text true) = page.text false ∧
      InTurn (Text.codes (page.text true)) ∧ PenUp (chars true head.dropLast) := by
  intro d page
  have h : d.EscapeFree := by decide +kernel
  obtain ⟨hshown, hturn, -, hpen, -⟩ := colors_change_nothing_shown h 7
  obtain ⟨behind, hpage⟩ : ∃ behind, page = head.dropLast ++ .lineEnd :: behind := ⟨_, rfl⟩
  have hup := hpen _ _ behind hpage id 0
  rw [List.take_zero, List.append_nil] at hup
  exact ⟨h, hshown, hturn, hup⟩

end Page

end FindingsDigest
