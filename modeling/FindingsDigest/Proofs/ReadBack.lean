/-
# Reading a colored page back

A page with colors loses nothing of its digest, although the texts of the findings stand in it as
they are, and the blanks behind a file name depend on the width.  Every colored piece is marked
off by escape characters, and the findings hold none.  So if a page is cut at its escape
characters, one of the stretches begins with the code of a color just if a piece in that color
begins there, and the rest of the stretch is the text of this piece (`drawnIn_chars`); blanks and
line ends fall into the other stretches, and the width with them.

File names, rules and line numbers have a color of their own, and no other text has it.  They come
in threes, one for each finding, so the records are read off in the order of the listing
(`readBack_chars`), and these determine the catalogue.
-/
import FindingsDigest.Proofs.Colors

namespace FindingsDigest

open Text (escapeChar)

/-! ### Cutting a text at its escape characters -/

/-- What has no separator in it goes in front of the first piece. -/
lemma splitOn_append_of_not_mem {α : Type} [BEq α] [LawfulBEq α] {a : α} {xs : List α}
    (h : a ∉ xs) (ys : List α) :
    (xs ++ ys).splitOn a = (ys.splitOn a).modifyHead (xs ++ ·) := by
  induction xs with
  | nil =>
    rw [List.nil_append]
    cases ys.splitOn a <;> rfl
  | cons x xs ih =>
    rw [List.mem_cons, not_or] at h
    have hx : (x == a) = false := by simpa using Ne.symm h.1
    rw [List.cons_append, List.splitOn_cons_eq_if_modifyHead, hx, ih h.2]
    cases ys.splitOn a <;> rfl

namespace Role

/-- The opening code of a role behind its escape character. -/
def mark (role : Role) : List Char :=
  role.opening.toList.tail

/-- The closing code behind its escape character. -/
def endMark : List Char :=
  closing.toList.tail

lemma toList_opening (role : Role) : role.opening.toList = escapeChar :: role.mark := by
  cases role <;> rfl

lemma toList_closing : closing.toList = escapeChar :: endMark := rfl

lemma escapeChar_not_mem_mark (role : Role) : escapeChar ∉ role.mark := by
  cases role <;> decide

lemma escapeChar_not_mem_endMark : escapeChar ∉ endMark := by
  decide

/-- Different roles have different marks, and neither begins the other. -/
lemma isPrefixOf?_mark_append (role role' : Role) (text : List Char) :
    role.mark.isPrefixOf? (role'.mark ++ text) = if role' = role then some text else none := by
  cases role <;> cases role' <;> rfl

lemma isPrefixOf?_endMark_append (role : Role) (text : List Char) :
    role.mark.isPrefixOf? (endMark ++ text) = none := by
  cases role <;> rfl

end Role

/-- The texts that are drawn in the color of a role. -/
def Text.drawnIn (role : Role) (text : List Char) : List (List Char) :=
  (text.splitOn escapeChar).tail.filterMap role.mark.isPrefixOf?

namespace Text

/-- What stands in front of the first escape character has no color. -/
lemma drawnIn_append_of_not_mem {text : List Char} (h : escapeChar ∉ text) (role : Role)
    (rest : List Char) : drawnIn role (text ++ rest) = drawnIn role rest := by
  rw [drawnIn, splitOn_append_of_not_mem h, drawnIn]
  cases rest.splitOn escapeChar <;> rfl

lemma drawnIn_colored_append {text : List Char} (h : escapeChar ∉ text) (role role' : Role)
    (rest : List Char) :
    drawnIn role (role'.opening.toList ++ text ++ Role.closing.toList ++ rest) =
      if role' = role then text :: drawnIn role rest else drawnIn role rest := by
  have hfirst : escapeChar ∉ role'.mark ++ text := by
    simp [Role.escapeChar_not_mem_mark, h]
  have hchars : role'.opening.toList ++ text ++ Role.closing.toList ++ rest =
      [] ++ escapeChar :: ((role'.mark ++ text) ++ escapeChar :: (Role.endMark ++ rest)) := by
    rw [Role.toList_opening, Role.toList_closing]
    simp
  -- what follows up to the next escape character stands behind the closing code
  have hbehind : ((rest.splitOn escapeChar).modifyHead (Role.endMark ++ ·)).filterMap
      role.mark.isPrefixOf? = drawnIn role rest := by
    rw [drawnIn]
    cases rest.splitOn escapeChar with
    | nil => rfl
    | cons first others =>
      rw [List.modifyHead_cons, List.filterMap_cons, Role.isPrefixOf?_endMark_append,
        List.tail_cons]
  rw [hchars, drawnIn, List.splitOn_append_cons_self_of_not_mem List.not_mem_nil,
    List.splitOn_append_cons_self_of_not_mem hfirst, List.tail_cons, List.filterMap_cons,
    splitOn_append_of_not_mem Role.escapeChar_not_mem_endMark, hbehind,
    Role.isPrefixOf?_mark_append]
  by_cases hrole : role' = role
  · rw [if_pos hrole, if_pos hrole]
  · rw [if_neg hrole, if_neg hrole]

end Text

/-- The text of a piece if it is drawn in the color of a role. -/
def Piece.drawnIn? (role : Role) : Piece → Option (List Char)
  | colored role' text => if role' = role then some text.toList else none
  | blanks _ => none
  | lineEnd => none

/-- The texts in the color of a role are those of the pieces with this role. -/
lemma Page.drawnIn_chars {page : Page} (h : ∀ p ∈ page, p.EscapeFree) (role : Role) :
    Text.drawnIn role (page.chars true) = page.filterMap (Piece.drawnIn? role) := by
  induction page with
  | nil => rfl
  | cons p page ih =>
    have hp : p.EscapeFree := h p List.mem_cons_self
    have hpage := ih fun q hq => h q (List.mem_cons_of_mem p hq)
    have hchars : Page.chars true (p :: page) = p.chars true ++ Page.chars true page :=
      List.flatMap_cons
    rw [hchars, List.filterMap_cons, ← hpage]
    cases p with
    | colored role' text =>
      have htext : escapeChar ∉ text.toList := hp
      have hdrawn := Text.drawnIn_colored_append htext role role' (Page.chars true page)
      by_cases hrole : role' = role
      · rw [if_pos hrole] at hdrawn
        simpa [Piece.drawnIn?, hrole, Piece.chars] using hdrawn
      · rw [if_neg hrole] at hdrawn
        simpa [Piece.drawnIn?, hrole, Piece.chars] using hdrawn
    | blanks count => exact Text.drawnIn_append_of_not_mem hp role _
    | lineEnd => exact Text.drawnIn_append_of_not_mem hp role _

/-! ### Reading records back -/

/-- The records that texts spell, three for each: the file, the rule behind its number sign, and
the line. -/
def Record.ofTexts : List (List Char) → List Record
  | file :: rule :: line :: rest =>
    ⟨String.ofList file, ⟨String.ofList line, String.ofList rule.tail⟩⟩ :: ofTexts rest
  | _ => []

/-- The highlighted texts of a record on a page. -/
def Record.highlighted (r : Record) : List (List Char) :=
  [r.file.toList, '#' :: r.finding.rule.toList, r.finding.line.toList]

lemma Record.ofTexts_flatMap_highlighted (records : List Record) :
    ofTexts (records.flatMap highlighted) = records := by
  induction records with
  | nil => rfl
  | cons r records ih =>
    rw [List.flatMap_cons, highlighted, List.cons_append, List.cons_append, List.cons_append,
      List.nil_append, ofTexts, ih]
    simp

/-- The records on a page with colors, if it is not the page of a clean report. -/
def Text.readBack (text : List Char) : Option (List Record) :=
  if drawnIn .success text = [] then some (Record.ofTexts (drawnIn .highlight text)) else none

/-- The records that a digest lists, if it is not clean. -/
def Digest.records? : Digest → Option (List Record)
  | clean => none
  | findings c => some c.records

namespace Page

/-- In head and foot everything is drawn in the color of the alert. -/
lemma filterMap_drawnIn?_ofCatalogue {role : Role} (hrole : role ≠ .alert) (width : ℕ)
    (c : Catalogue) :
    (ofCatalogue width c).filterMap (Piece.drawnIn? role) =
      c.records.flatMap fun r => (recordLine width r).filterMap (Piece.drawnIn? role) := by
  have hframe : head.filterMap (Piece.drawnIn? role) = [] ∧
      foot.filterMap (Piece.drawnIn? role) = [] := by
    cases role with
    | alert => exact absurd rfl hrole
    | highlight => exact ⟨rfl, rfl⟩
    | success => exact ⟨rfl, rfl⟩
  rw [ofCatalogue_eq, List.filterMap_append, List.filterMap_append, List.filterMap_flatMap,
    hframe.1, hframe.2, List.nil_append, List.append_nil]

/-- The records of a digest can be read back from its page with colors, whatever the width. -/
lemma readBack_chars {d : Digest} (h : d.EscapeFree) (width : ℕ) :
    Text.readBack ((ofDigest width d).chars true) = d.records? := by
  have hfree := escapeFree_ofDigest h width
  rw [Text.readBack, drawnIn_chars hfree, drawnIn_chars hfree]
  cases d with
  | clean => rfl
  | findings c =>
    have hsuccess : ∀ r, (recordLine width r).filterMap (Piece.drawnIn? .success) = [] :=
      fun r => rfl
    have hhighlight : ∀ r, (recordLine width r).filterMap (Piece.drawnIn? .highlight) =
        r.highlighted := by
      intro r
      simp [recordLine, findingLine, List.filterMap_cons, Piece.drawnIn?, Record.highlighted]
    have hclean : c.records.flatMap (fun _ => ([] : List (List Char))) = [] :=
      List.flatMap_eq_nil_iff.mpr fun _ _ => rfl
    simp only [ofDigest, filterMap_drawnIn?_ofCatalogue, hsuccess, hhighlight, hclean, ne_eq,
      reduceCtorEq, not_false_eq_true, if_true, Record.ofTexts_flatMap_highlighted, Digest.records?]

end Page

/-! ### A digest is told by its page -/

/-- Two digests are the same if both are clean or their catalogues are the same. -/
instance : BEq Digest where
  beq
    | .clean, .clean => true
    | .findings c, .findings d => c == d
    | _, _ => false

/-- Whether the catalogue of a digest, if it has one, came from entering records. -/
def Digest.IsEntered : Digest → Prop
  | clean => True
  | findings c => ∃ records, c = .ofRecords records

/-- The records that a catalogue lists group as the catalogue does. -/
lemma Catalogue.Holds.toList_eq_grouped_records {c : Catalogue} {records : List Record}
    (h : c.Holds records) : c.toList = Record.grouped c.records := by
  rw [h.records_eq, Record.grouped_byGroup, h.toList_eq]

/-- **A page with colors tells its digest.**  If the findings of two digests hold no escape
characters, and the pages of the digests with colors are the same text, be it for the same width or
for different ones, then the digests are the same: both clean, or with the same files in the same
order and in each of them the same findings in the same order. -/
theorem Digest.beq_of_text_eq {x y : Digest} (hx : x.IsEntered) (hy : y.IsEntered)
    (hxfree : x.EscapeFree) (hyfree : y.EscapeFree) {v w : ℕ}
    (h : (Page.ofDigest v x).text true = (Page.ofDigest w y).text true) :
    (x == y) = true ∧ x.hasFindings = y.hasFindings ∧
      x.catalogue.toList = y.catalogue.toList := by
  have hchars : (Page.ofDigest v x).chars true = (Page.ofDigest w y).chars true := by
    simpa [Page.text, String.ofList_inj] using h
  have hrecords : x.records? = y.records? := by
    rw [← Page.readBack_chars hxfree v, ← Page.readBack_chars hyfree w, hchars]
  cases x with
  | clean =>
    cases y with
    | clean => exact ⟨rfl, rfl, rfl⟩
    | findings d => cases hrecords
  | findings c =>
    cases y with
    | clean => cases hrecords
    | findings d =>
      obtain ⟨rs, rfl⟩ := hx
      obtain ⟨rs', rfl⟩ := hy
      have hc := Catalogue.holds_ofRecords rs
      have hd := Catalogue.holds_ofRecords rs'
      have hlist : (Catalogue.ofRecords rs).toList = (Catalogue.ofRecords rs').toList := by
        rw [hc.toList_eq_grouped_records, hd.toList_eq_grouped_records, Option.some.inj hrecords]
      exact ⟨(hc.beq_iff hd).mpr hlist, rfl, hlist⟩

/-- Names with blanks at their end or with the words of a page in them, empty fields and fields with
line feeds, entered in two orders and printed to two widths that are too narrow for any name. -/
theorem Digest.beq_of_text_of_texts_like_lines :
    let x : Digest := .findings (.ofRecords
      [⟨"a ", ⟨"1", "x"⟩⟩, ⟨" violates rule #", ⟨"", "\n"⟩⟩, ⟨"a ", ⟨"\nFile ", ""⟩⟩,
        ⟨"", ⟨"", ""⟩⟩])
    let y : Digest := .findings (.ofRecords
      [⟨"a ", ⟨"1", "x"⟩⟩, ⟨"a ", ⟨"\nFile ", ""⟩⟩, ⟨" violates rule #", ⟨"", "\n"⟩⟩,
        ⟨"", ⟨"", ""⟩⟩])
    x.EscapeFree ∧ y.EscapeFree ∧
      (Page.ofDigest 3 x).text true = (Page.ofDigest 5 y).text true ∧ (x == y) = true := by
  intro x y
  have hxin : x.IsEntered := ⟨_, rfl⟩
  have hyin : y.IsEntered := ⟨_, rfl⟩
  have hx : x.EscapeFree := by decide +kernel
  have hy : y.EscapeFree := by decide +kernel
  have hpage : Page.ofDigest 3 x = Page.ofDigest 5 y := by decide +kernel
  have htext := congrArg (Page.text true) hpage
  exact ⟨hx, hy, htext, (beq_of_text_eq hxin hyin hx hy htext).1⟩

end FindingsDigest
