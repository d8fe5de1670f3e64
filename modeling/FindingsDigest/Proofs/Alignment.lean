/-
# The column of the findings

The line of a finding begins with the file, padded to the width of the column, and goes on with the
same words for all findings.  These words begin at the width or directly behind the file name,
whichever comes later, counted in code points; so they stand below each other for all names that fit
into the column, and a longer name is not cut but moves its own words.  A larger width only puts
more blanks between the two.

With colors there are codes in the line that take no room.  Which characters belong to a code cannot
be told from the text if a file name itself holds codes, so the characters of a page are marked when
they are drawn (`Piece.marked`), and what is said of a line is said of its characters that are not
marked.
-/
import FindingsDigest.Proofs.Memory

namespace FindingsDigest

/-! ### Drawing without codes -/

/-- The characters of a piece, with or without colors, each with whether it belongs to a code. -/
def Piece.marked (color : Bool) : Piece → List (Char × Bool)
  | colored role text =>
    if color then
      role.opening.toList.map (·, true) ++ text.toList.map (·, false) ++
        Role.closing.toList.map (·, true)
    else text.toList.map (·, false)
  | blanks count => List.replicate count (' ', false)
  | lineEnd => [('\n', false)]

namespace Page

/-- The characters of a page, each with whether it belongs to a code. -/
def marked (color : Bool) (page : Page) : List (Char × Bool) :=
  page.flatMap (Piece.marked color)

/-- What is left of marked characters without those that belong to a code. -/
def unmarked (characters : List (Char × Bool)) : String :=
  String.ofList ((characters.filter fun c => !c.2).map Prod.fst)

lemma map_fst_marked (color : Bool) (page : Page) :
    (marked color page).map Prod.fst = page.chars color := by
  have hpiece : ∀ p : Piece, (p.marked color).map Prod.fst = p.chars color := by
    intro p
    cases p with
    | colored role text => cases color <;> simp [Piece.marked, Piece.chars, Function.comp_def]
    | blanks count => simp [Piece.marked, Piece.chars]
    | lineEnd => rfl
  rw [marked, chars, List.map_flatMap]
  simp only [hpiece]

/-- Without its codes a page is the same in both ways of drawing it. -/
lemma unmarked_marked (color : Bool) (page : Page) :
    unmarked (marked color page) = page.text false := by
  have hpiece : ∀ p : Piece,
      ((p.marked color).filter fun c => !c.2).map Prod.fst = p.chars false := by
    intro p
    cases p with
    | colored role text =>
      cases color <;> simp [Piece.marked, Piece.chars, List.filter_map, Function.comp_def]
    | blanks count => simp [Piece.marked, Piece.chars]
    | lineEnd => rfl
  rw [unmarked, marked, text, chars, List.filter_flatMap, List.map_flatMap]
  simp only [hpiece]

/-! ### What is printed of a page -/

/-- What is printed of a page: all of it, or the lines in front of the one at which it breaks
off. -/
def printed (page : Page) : Page :=
  match page.make with
  | .ok page => page
  | .error broken => broken.written

lemma printed_of_make_eq_ok {page q : Page} (h : page.make = .ok q) : page.printed = page := by
  rw [printed, h]
  rw [make] at h
  split at h
  · cases h
    rfl
  · cases h

lemma printed_of_make_eq_error {page : Page} {broken : BrokenOff}
    (h : page.make = .error broken) : page.printed = broken.written := by
  rw [printed, h]

/-- The records whose lines are printed: all of them, or those in front of the first that is too
wide for memory. -/
def printedRecords (width : ℕ) (c : Catalogue) : List Record :=
  c.records.takeWhile (padding width ·.file ≤ longestRow)

lemma printedRecords_eq_iff {width : ℕ} {c : Catalogue} :
    printedRecords width c = c.records ↔ ∀ r ∈ c.records, padding width r.file ≤ longestRow := by
  rw [printedRecords, List.takeWhile_eq_self_iff]
  simp

lemma printed_ofCatalogue (width : ℕ) (c : Catalogue) :
    (ofCatalogue width c).printed =
      head ++ (printedRecords width c).flatMap (recordLine width) ++
        if printedRecords width c = c.records then foot else [] := by
  rw [printed]
  by_cases hnarrow : ∀ r ∈ c.records, padding width r.file ≤ longestRow
  · have hall := printedRecords_eq_iff.mpr hnarrow
    rw [make_ofCatalogue_of_narrow hnarrow, if_pos hall, hall, ofCatalogue_eq]
  · have hwide : ∃ r ∈ c.records, longestRow < padding width r.file := by
      simpa using hnarrow
    rw [make_ofCatalogue_of_wide hwide, if_neg (mt printedRecords_eq_iff.mp hnarrow),
      List.append_nil]
    rfl

/-! ### The line of a finding -/

/-- A row of blanks. -/
def blankText (count : ℕ) : String :=
  String.ofList (List.replicate count ' ')

/-- The line of a finding up to the end of the column. -/
def namePart (width : ℕ) (file : String) : Page :=
  [.colored .alert "File ", .colored .highlight file, .blanks (padding width file)]

/-- The line of a finding behind the column. -/
def rulePart (f : Finding) : Page :=
  [.blanks 1, .colored .alert "violates rule", .blanks 1, .colored .highlight ("#" ++ f.rule),
   .blanks 1, .colored .alert "of the MISRA C 2012 standard",
   .blanks 1, .colored .alert "at line",
   .blanks 1, .colored .highlight f.line]

lemma findingLine_eq (width : ℕ) (file : String) (f : Finding) :
    findingLine width file f = namePart width file ++ rulePart f := rfl

lemma text_append (color : Bool) (p q : Page) :
    text color (p ++ q) = text color p ++ text color q := by
  rw [text, chars_append, String.ofList_append]
  rfl

lemma text_namePart (width : ℕ) (file : String) :
    (namePart width file).text false = "File " ++ file ++ blankText (padding width file) := by
  apply String.toList_inj.mp
  simp [text, namePart, chars, Piece.chars, blankText]

lemma text_rulePart (f : Finding) : (rulePart f).text false =
    " violates rule #" ++ f.rule ++ " of the MISRA C 2012 standard at line " ++ f.line := by
  apply String.toList_inj.mp
  simp [text, rulePart, chars, Piece.chars]

lemma length_text_namePart (width : ℕ) (file : String) :
    ((namePart width file).text false).length = max width (5 + file.length) := by
  have hword : "File ".length = 5 := by decide
  rw [text_namePart, String.length_append, String.length_append, hword, padding_eq]
  simp [blankText]
  omega

/-- A larger width puts more blanks at the end of the column, in both ways of drawing it. -/
lemma text_namePart_of_le {width width' : ℕ} (h : width ≤ width') (color : Bool) (file : String) :
    (namePart width' file).text color = (namePart width file).text color ++
      blankText (max width' (5 + file.length) - max width (5 + file.length)) := by
  have hpadding : padding width' file = padding width file +
      (max width' (5 + file.length) - max width (5 + file.length)) := by
    rw [padding_eq, padding_eq]
    omega
  apply String.toList_inj.mp
  simp [text, namePart, chars, Piece.chars, blankText, hpadding]

/-- The line of a record as it is printed. -/
def lineText (width : ℕ) (color : Bool) (r : Record) : String :=
  (findingLine width r.file r.finding).text color

lemma lineText_eq (width : ℕ) (color : Bool) (r : Record) :
    lineText width color r =
      (namePart width r.file).text color ++ (rulePart r.finding).text color := by
  rw [lineText, findingLine_eq, text_append]

lemma text_flatMap_recordLine (width : ℕ) (color : Bool) (records : List Record) :
    text color (records.flatMap (recordLine width)) =
      String.join (records.map fun r => lineText width color r ++ "\n") := by
  apply String.toList_inj.mp
  rw [text, String.toList_ofList, String.toList_join, List.flatMap_map, chars, List.flatMap_assoc]
  simp [recordLine, lineText, text, chars, Piece.chars]

/-- No width up to the shortest file name leaves room for blanks. -/
lemma ofCatalogue_of_le {width width' : ℕ} {c : Catalogue}
    (h : ∀ r ∈ c.records, width ≤ 5 + r.file.length)
    (h' : ∀ r ∈ c.records, width' ≤ 5 + r.file.length) :
    ofCatalogue width c = ofCatalogue width' c := by
  have hlines : c.records.flatMap (recordLine width) = c.records.flatMap (recordLine width') := by
    refine List.flatMap_congr fun r hr => ?_
    have hpadding : padding width r.file = padding width' r.file := by
      rw [padding_eq, padding_eq, Nat.sub_eq_zero_of_le (h r hr), Nat.sub_eq_zero_of_le (h' r hr)]
    rw [recordLine, recordLine, findingLine_eq, findingLine_eq, namePart, namePart, hpadding]
  rw [ofCatalogue_eq, ofCatalogue_eq, hlines]

/-- **The findings stand in columns.**  What is printed of a catalogue into which records were
entered is the head, a line for each record up to the first that is too wide for memory, and the
foot if there is none.  In both ways of drawing, each line without its codes is the word `File`, the
whole file name, the blanks that pad it, and ` violates rule #` with what follows; these words begin
at the width or behind the file name, whichever comes later.  So they begin at the width for all
file names that leave room for it, and there are no blanks behind the others.  Widths that leave no
room behind any file name give the same page.  A larger width puts more blanks in each line, as many
as the words move, and changes nothing else in it. -/
theorem lines_aligned (records : List Record) (width : ℕ) (color : Bool) :
    let c := Catalogue.ofRecords records
    let rs := printedRecords width c
    (ofCatalogue width c).printed.text color =
        head.text color ++ String.join (rs.map fun r => lineText width color r ++ "\n") ++
          (if rs = c.records then foot.text color else "") ∧
      (∀ r ∈ c.records,
        let drawn := marked color (findingLine width r.file r.finding)
        let front := "File " ++ r.file ++ blankText (padding width r.file)
        String.ofList (drawn.map Prod.fst) = lineText width color r ∧
          unmarked drawn = front ++ " violates rule #" ++ r.finding.rule ++
            " of the MISRA C 2012 standard at line " ++ r.finding.line ∧
          front.length = max width (5 + r.file.length) ∧
          (5 + r.file.length ≤ width → front.length = width) ∧
          (width ≤ 5 + r.file.length → front = "File " ++ r.file)) ∧
      (∀ width', (∀ r ∈ c.records, width ≤ 5 + r.file.length) →
        (∀ r ∈ c.records, width' ≤ 5 + r.file.length) →
        (ofCatalogue width' c).printed.text color = (ofCatalogue width c).printed.text color) ∧
      ∀ width', width ≤ width' → ∀ r ∈ c.records, ∃ front behind,
        lineText width color r = front ++ behind ∧
          lineText width' color r = front ++
            blankText (max width' (5 + r.file.length) - max width (5 + r.file.length)) ++
              behind := by
  intro c rs
  refine ⟨?_, fun r _ => ?_, fun width' h h' => by rw [ofCatalogue_of_le h h'], fun width' h r _ =>
    ⟨_, _, lineText_eq width color r, ?_⟩⟩
  · rw [printed_ofCatalogue, text_append, text_append, text_flatMap_recordLine]
    congr 1
    split <;> rfl
  · intro drawn front
    have hlength := length_text_namePart width r.file
    rw [text_namePart] at hlength
    refine ⟨?_, ?_, hlength, fun h => hlength.trans (max_eq_left h), fun h => ?_⟩
    · rw [map_fst_marked]
      rfl
    · rw [unmarked_marked, findingLine_eq, text_append, text_namePart, text_rulePart]
      simp only [front, String.append_assoc]
    · have hpadding : padding width r.file = 0 := by
        rw [padding_eq, Nat.sub_eq_zero_of_le h]
      simp [front, hpadding, blankText]
  · rw [lineText_eq, text_namePart_of_le h]

/-- Names of one, two and three code points, one of them outside of ASCII, in a column of seven. -/
example : ([⟨"a", "1", "x"⟩, ⟨"äö", "2", "y"⟩, ⟨"a.c", "3", "z"⟩].map (lineText 7 false)) =
    ["File a  violates rule #x of the MISRA C 2012 standard at line 1",
      "File äö violates rule #y of the MISRA C 2012 standard at line 2",
      "File a.c violates rule #z of the MISRA C 2012 standard at line 3"] := by
  decide +kernel

end Page

end FindingsDigest
