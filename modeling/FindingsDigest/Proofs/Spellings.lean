/-
# Spellings of the settings

The table `output` can be written below a header, in braces, or by dotted keys among the other
bindings of the file.  In each of these spellings, and in any order, a setting is read from its own
key: a missing one is the usual one whether or not the other is there, and bindings with other keys
change nothing.  A setting of the wrong kind, or a width out of range, leaves no settings at all
(`Settings.ofText?_of_spells`).

A file is a row of lines, each of which is read on its own, however it ends
(`Line.line?_text_append`).  What the lines say is then carried out on the table of the file, of
which only two things matter: the bindings that it holds, and what the table `output` in it holds
(`Holds`).  Every line keeps track of the two, so every spelling comes to the same
(`Spells.exists_fill?`).
-/
import FindingsDigest.Proofs.Bindings
import FindingsDigest.Proofs.BrokenSettings
import FindingsDigest.Proofs.LineEndings
import Mathlib.Algebra.Ring.Int.Defs
import Mathlib.Algebra.Ring.Nat

namespace FindingsDigest

namespace Toml

/-! ### Lines -/

/-- A line of a settings file. -/
inductive Line where
  /-- `key = word` -/
  | plain (b : String × Word)
  /-- `output.key = word` -/
  | dotted (b : String × Word)
  /-- `[output]` -/
  | header
  /-- `output = { key = word, key = word }` -/
  | braces (bs : List (String × Word))
  deriving DecidableEq, Repr

namespace Line

/-- The bindings on a line. -/
def bindings : Line → List (String × Word)
  | plain b => [b]
  | dotted b => [b]
  | header => []
  | braces bs => bs

/-- How a line is written. -/
def text : Line → String
  | plain b => bindingText b
  | dotted b => "output." ++ bindingText b
  | header => "[output]"
  | braces bs => "output = \x7b" ++ bracesText bs

/-- What a line says. -/
def statement : Line → Statement
  | plain b => .binding [] b.1 b.2.value
  | dotted b => .binding ["output"] b.1 b.2.value
  | header => .header [] "output"
  | braces bs => .binding [] "output" (.table .braces (entriesOf bs))

lemma isBare_output : IsBare "output".toList := by decide

/-- A line that begins with a key is read as a binding, up to its end. -/
lemma line?_of_binding? {key rest tail more : List Char} {statement : Statement}
    (hkey : IsBare key) (h : binding? (key ++ rest) = some (statement, tail))
    (hend : lineRest? tail = some more) : line? (key ++ rest) = some ([statement], more) := by
  obtain ⟨c, cs, rfl, hc⟩ := hkey.exists_eq_cons
  rw [line?, hkey.lineRest?_append, hkey.skipBlanks_append]
  simp only
  split
  · next heq => exact absurd (List.cons.inj heq).1 (ne_of_isKeyChar hc (by decide))
  · rw [h]
    simp [hend]

lemma text_eq_append {b : String × Word} (rest : List Char) :
    (bindingText b).toList ++ rest =
      b.1.toList ++ (' ' :: '=' :: ' ' :: (b.2.text.toList ++ rest)) := by
  rw [toList_bindingText, List.append_assoc]
  rfl

/-- A line is read up to its end and says what it is written for. -/
lemma line?_text_append {l : Line} (h : IsTable l.bindings) {tail more : List Char}
    (hword : wordFrom [] tail = []) (hend : lineRest? tail = some more) :
    line? (l.text.toList ++ tail) = some ([l.statement], more) := by
  cases l with
  | plain b =>
    have hkey : IsBare b.1.toList := h.isBare b (by simp [bindings])
    have hread := binding?_bindingText_append hkey hword
    rw [text_eq_append] at hread
    rw [text, text_eq_append]
    exact line?_of_binding? hkey hread hend
  | dotted b =>
    have hkey : IsBare b.1.toList := h.isBare b (by simp [bindings])
    have hread := binding?_point_append isBare_output hkey hword
    have htext : (text (dotted b)).toList ++ tail =
        "output".toList ++ '.' :: ((bindingText b).toList ++ tail) := by
      rw [text, String.toList_append, List.append_assoc]
      rfl
    rw [htext]
    exact line?_of_binding? isBare_output hread hend
  | header =>
    have hblank : lineRest? ((text header).toList ++ tail) = none := rfl
    have hbracket : skipBlanks ((text header).toList ++ tail) =
        '[' :: ("output".toList ++ ']' :: tail) := rfl
    have hheader : header? ("output".toList ++ ']' :: tail) =
        some (.header [] "output", tail) := rfl
    rw [line?, hblank, hbracket]
    simp only [hheader, Option.bind_eq_bind, Option.bind_some, hend]
    rfl
  | braces bs =>
    have htext : (text (braces bs)).toList ++ tail = "output".toList ++
        (' ' :: '=' :: ' ' :: '\x7b' :: ((bracesText bs).toList ++ tail)) := by
      rw [text, String.toList_append, List.append_assoc]
      rfl
    have hblank : skipBlanks (' ' :: '\x7b' :: ((bracesText bs).toList ++ tail)) =
        '\x7b' :: ((bracesText bs).toList ++ tail) := rfl
    have hvalue : value? ('\x7b' :: ((bracesText bs).toList ++ tail)) =
        some (.table .braces (entriesOf bs), tail) :=
      value?_braces_append h _
    rw [htext]
    refine line?_of_binding? isBare_output ?_ hend
    rw [binding?, isBare_output.dottedKey?_append]
    simp only [Option.bind_eq_bind, Option.bind_some, hblank, hvalue, String.ofList_toList]
    rfl

/-- A line begins with a key or with a bracket. -/
lemma exists_head?_text {l : Line} (h : IsTable l.bindings) :
    ∃ c, l.text.toList.head? = some c ∧ (isKeyChar c = true ∨ c = '[') := by
  cases l with
  | plain b =>
    have hkey : IsBare b.1.toList := h.isBare b (by simp [bindings])
    obtain ⟨c, cs, hcs, hc⟩ := hkey.exists_eq_cons
    refine ⟨c, ?_, Or.inl hc⟩
    rw [text, toList_bindingText, hcs]
    rfl
  | dotted b =>
    refine ⟨'o', ?_, Or.inl (by decide)⟩
    rw [text, String.toList_append]
    rfl
  | header => exact ⟨'[', rfl, Or.inr rfl⟩
  | braces bs =>
    refine ⟨'o', ?_, Or.inl (by decide)⟩
    rw [text, String.toList_append]
    rfl

/-- The first line of several is read, and the others behind it. -/
lemma statementsIn?_text_append {l : Line} (h : IsTable l.bindings) {tail more : List Char}
    (hword : wordFrom [] tail = []) (hend : lineRest? tail = some more) {rounds : ℕ}
    {statements : List Statement} (hlater : statementsIn? rounds more = some statements) :
    statementsIn? (rounds + 1) (l.text.toList ++ tail) = some (l.statement :: statements) := by
  obtain ⟨c, hhead, -⟩ := exists_head?_text h
  obtain ⟨cs, hcs⟩ := List.head?_eq_some_iff.mp hhead
  rw [statementsIn?, line?_text_append h hword hend]
  · simp [hlater]
  · simp [hcs]

end Line

/-- Whether a text consists of these lines.  Each ends in a line feed, which a carriage return may
precede, but the last line may go without an ending. -/
inductive Writes : List Line → List Char → Prop where
  | nil : Writes [] []
  | last (l : Line) : Writes [l] l.text.toList
  | ended {lines : List Line} {rest : List Char} (l : Line) {e : Text.LineEnding}
    (he : e ≠ .carriage) (h : Writes lines rest) :
    Writes (l :: lines) (l.text.toList ++ (e.chars ++ rest))

namespace Writes

variable {lines : List Line} {text : List Char} (h : Writes lines text)
include h

lemma length_le (hlines : ∀ l ∈ lines, IsTable l.bindings) : lines.length ≤ text.length := by
  induction h with
  | nil => exact Nat.le_refl _
  | last l =>
    obtain ⟨c, hhead, -⟩ := Line.exists_head?_text (hlines l List.mem_cons_self)
    obtain ⟨cs, hcs⟩ := List.head?_eq_some_iff.mp hhead
    simp [hcs]
  | @ended lines rest l e he h ih =>
    have hlater := ih fun k hk => hlines k (List.mem_cons_of_mem l hk)
    have hending : 1 ≤ e.chars.length := by cases e <;> decide
    simp only [List.length_cons, List.length_append]
    omega

/-- No text of lines begins with a byte order mark. -/
lemma head?_ne (hlines : ∀ l ∈ lines, IsTable l.bindings) : text.head? ≠ some '\ufeff' := by
  have hline : ∀ l ∈ lines, ∀ rest, (l.text.toList ++ rest).head? ≠ some '\ufeff' := by
    intro l hl rest
    obtain ⟨c, hhead, hc⟩ := Line.exists_head?_text (hlines l hl)
    rw [List.head?_append, hhead, Option.some_or]
    rcases hc with hc | rfl
    · exact fun heq => ne_of_isKeyChar hc (by decide) (Option.some.inj heq)
    · decide
  cases h with
  | nil => simp
  | last l => simpa using hline l List.mem_cons_self []
  | ended l he h => exact hline l List.mem_cons_self _

lemma statementsIn?_eq (hlines : ∀ l ∈ lines, IsTable l.bindings) {rounds : ℕ}
    (hrounds : lines.length ≤ rounds) :
    statementsIn? rounds text = some (lines.map Line.statement) := by
  induction h generalizing rounds with
  | nil => cases rounds <;> rfl
  | last l =>
    obtain ⟨rounds, rfl⟩ := Nat.exists_eq_succ_of_ne_zero (Nat.ne_of_gt hrounds)
    have hword : wordFrom [] [] = [] := rfl
    have hend : lineRest? [] = some [] := rfl
    have hlater : statementsIn? rounds [] = some [] := by cases rounds <;> rfl
    have hread := Line.statementsIn?_text_append (hlines l List.mem_cons_self) hword hend hlater
    rwa [List.append_nil] at hread
  | @ended lines rest l e he h ih =>
    obtain ⟨rounds, rfl⟩ :=
      Nat.exists_eq_succ_of_ne_zero (Nat.ne_of_gt (Nat.zero_lt_of_lt hrounds))
    have hword : wordFrom [] (e.chars ++ rest) = [] := by cases e <;> rfl
    have hend : lineRest? (e.chars ++ rest) = some rest := by
      cases e with
      | feed => rfl
      | carriage => exact absurd rfl he
      | both => rfl
    have hlater := ih (fun k hk => hlines k (List.mem_cons_of_mem l hk))
      (Nat.le_of_succ_le_succ hrounds)
    exact Line.statementsIn?_text_append (hlines l List.mem_cons_self) hword hend hlater

/-- The lines of a text are read one by one. -/
lemma statements?_eq (hlines : ∀ l ∈ lines, IsTable l.bindings) :
    statements? text = some (lines.map Line.statement) := by
  have hread := h.statementsIn?_eq hlines (h.length_le hlines)
  unfold statements?
  split
  · exact absurd rfl (h.head?_ne hlines)
  · exact hread

end Writes

/-! ### Filling the tables -/

lemma filter_rebind (key : String) (v : Value) (es : Entries) :
    (Entries.rebind key v es).filter (·.1 ≠ key) = es.filter (·.1 ≠ key) := by
  induction es with
  | nil => rfl
  | cons e es ih =>
    rw [Entries.rebind] at ih ⊢
    by_cases he : e.1 = key
    · rw [List.map_cons, if_pos he, List.filter_cons_of_neg (by simp), ih,
        List.filter_cons_of_neg (by simpa using he)]
    · rw [List.map_cons, if_neg he, List.filter_cons_of_pos (by simpa using he), ih,
        List.filter_cons_of_pos (by simpa using he)]

lemma lookup_rebind {key : String} {es : Entries} {old : Value} (h : es.lookup key = some old)
    (v : Value) : (Entries.rebind key v es).lookup key = some v := by
  induction es with
  | nil => cases h
  | cons e es ih =>
    rw [Entries.rebind] at ih ⊢
    by_cases he : e.1 = key
    · simp [he]
    · have hkey : (key == e.1) = false := by simpa using fun heq => he heq.symm
      rw [List.lookup_cons, hkey] at h
      rw [List.map_cons, if_neg he, List.lookup_cons, hkey]
      exact ih h

/-- What the table of a document holds: bindings, and the table `output` if there is one. -/
structure Holds (es outer : Entries) (output : Option (Origin × Entries)) : Prop where
  filter_eq : es.filter (·.1 ≠ "output") = outer
  lookup_eq : es.lookup "output" = output.map fun t => .table t.1 t.2

namespace Holds

variable {es outer new : Entries} {output : Option (Origin × Entries)} {key : String}

lemma of_output_not_mem (h : "output" ∉ es.map Prod.fst) : Holds es es none := by
  refine ⟨List.filter_eq_self.mpr fun e he => ?_, lookup_eq_none_of_not_mem h⟩
  have hne : e.1 ≠ "output" := fun heq => h (heq ▸ List.mem_map_of_mem he)
  simpa using hne

lemma not_mem (h : Holds es outer output) (hkey : key ≠ "output")
    (hnew : key ∉ outer.map Prod.fst) : key ∉ es.map Prod.fst := by
  intro hmem
  obtain ⟨e, he, rfl⟩ := List.mem_map.mp hmem
  refine hnew (List.mem_map_of_mem ?_)
  rw [← h.filter_eq, List.mem_filter]
  exact ⟨he, by simpa using hkey⟩

lemma output_not_mem (h : Holds es outer none) : "output" ∉ es.map Prod.fst := by
  intro hmem
  obtain ⟨e, he, hkey⟩ := List.mem_map.mp hmem
  have hne := List.lookup_eq_none_iff.mp h.lookup_eq e he
  simp [hkey] at hne

lemma append (h : Holds es outer output) (hnew : "output" ∉ new.map Prod.fst) :
    Holds (es ++ new) (outer ++ new) output := by
  obtain ⟨hfilter, hlookup⟩ := of_output_not_mem hnew
  constructor
  · rw [List.filter_append, h.filter_eq, hfilter]
  · rw [List.lookup_append, h.lookup_eq, hlookup, Option.map_none, Option.or_none]

lemma append_output (h : Holds es outer none) (origin : Origin) (inner : Entries) :
    Holds (es ++ [("output", .table origin inner)]) outer (some (origin, inner)) := by
  constructor
  · rw [List.filter_append, h.filter_eq]
    simp
  · rw [List.lookup_append, h.lookup_eq]
    simp

lemma rebind_output {t : Origin × Entries} (h : Holds es outer (some t)) (origin : Origin)
    (inner : Entries) :
    Holds (Entries.rebind "output" (.table origin inner) es) outer (some (origin, inner)) :=
  ⟨(filter_rebind _ _ es).trans h.filter_eq, lookup_rebind h.lookup_eq _⟩

end Holds

/-! ### Carrying out a line -/

section CarryOut

variable {es inner : Entries} {key : String}

lemma carryOut?_binding (hnew : key ∉ es.map Prod.fst) (v : Value) :
    Filling.carryOut? ⟨es, []⟩ (.binding [] key v) = some ⟨es ++ [(key, v)], []⟩ := by
  have hbind : Entries.bind? key v es = some (es ++ [(key, v)]) := bind?_of_not_mem hnew v
  change (Entries.bind? key v es).bind (fun es' => some (⟨es', []⟩ : Filling)) = _
  rw [hbind, Option.bind_some]

lemma carryOut?_header (hnew : "output" ∉ es.map Prod.fst) :
    Filling.carryOut? ⟨es, []⟩ (.header [] "output") =
      some ⟨es ++ [("output", .table .header [])], ["output"]⟩ := by
  have hnone : es.lookup "output" = none := lookup_eq_none_of_not_mem hnew
  have hbind := bind?_of_not_mem hnew (.table .header [])
  simp [Filling.carryOut?, Entries.open?, Entries.descend?, Entries.alter?, hnone, hbind]

/-- Below the header a binding goes into the table. -/
lemma carryOut?_binding_below (houtput : es.lookup "output" = some (.table .header inner))
    (hnew : key ∉ inner.map Prod.fst) (v : Value) :
    Filling.carryOut? ⟨es, ["output"]⟩ (.binding [] key v) =
      some ⟨Entries.rebind "output" (.table .header (inner ++ [(key, v)])) es, ["output"]⟩ := by
  have hbind := bind?_of_not_mem hnew v
  simp [Filling.carryOut?, Entries.descend?, Entries.alter?, houtput, assign?_nil, hbind]

/-- The first dotted key makes the table. -/
lemma carryOut?_dotted_first (hnew : "output" ∉ es.map Prod.fst) (key : String) (v : Value) :
    Filling.carryOut? ⟨es, []⟩ (.binding ["output"] key v) =
      some ⟨es ++ [("output", .table .dotted [(key, v)])], []⟩ := by
  have hnone : es.lookup "output" = none := lookup_eq_none_of_not_mem hnew
  have hbind := bind?_of_not_mem hnew (.table .dotted [(key, v)])
  have hfirst : Entries.bind? key v [] = some [(key, v)] := rfl
  simp [Filling.carryOut?, Entries.descend?, Entries.assign?, Entries.alter?, hnone, hbind, hfirst]

/-- Every further one adds to it. -/
lemma carryOut?_dotted_next (houtput : es.lookup "output" = some (.table .dotted inner))
    (hnew : key ∉ inner.map Prod.fst) (v : Value) :
    Filling.carryOut? ⟨es, []⟩ (.binding ["output"] key v) =
      some ⟨Entries.rebind "output" (.table .dotted (inner ++ [(key, v)])) es, []⟩ := by
  have hbind := bind?_of_not_mem hnew v
  simp [Filling.carryOut?, Entries.descend?, Entries.assign?, Entries.alter?, houtput, hbind]

end CarryOut

/-! ### Carrying out many lines -/

section Run

variable {es outer inner : Entries} {bs : List (String × Word)}

/-- Plain lines before any header are bound in order. -/
lemma foldlM_plain (hnew : (es.map Prod.fst ++ bs.map Prod.fst).Nodup) :
    ((bs.map Line.plain).map Line.statement).foldlM Filling.carryOut? ⟨es, []⟩ =
      some ⟨es ++ entriesOf bs, []⟩ := by
  induction bs generalizing es with
  | nil => simp [entriesOf]
  | cons b bs ih =>
    have hfree : b.1 ∉ es.map Prod.fst := not_mem_of_nodup_append_cons hnew
    have hlater : ((es ++ [(b.1, b.2.value)]).map Prod.fst ++ bs.map Prod.fst).Nodup := by
      simpa using hnew
    rw [List.map_cons, List.map_cons, List.foldlM_cons, Line.statement,
      carryOut?_binding hfree b.2.value, Option.bind_eq_bind, Option.bind_some, ih hlater]
    simp [entriesOf]

lemma foldlM_plain_nil (hnew : (bs.map Prod.fst).Nodup) :
    ((bs.map Line.plain).map Line.statement).foldlM Filling.carryOut? ⟨[], []⟩ =
      some ⟨entriesOf bs, []⟩ :=
  foldlM_plain hnew

/-- Plain lines below the header fill its table. -/
lemma exists_foldlM_below (h : Holds es outer (some (.header, inner)))
    (hnew : (inner.map Prod.fst ++ bs.map Prod.fst).Nodup) :
    ∃ es', Holds es' outer (some (.header, inner ++ entriesOf bs)) ∧
      ((bs.map Line.plain).map Line.statement).foldlM Filling.carryOut? ⟨es, ["output"]⟩ =
        some ⟨es', ["output"]⟩ := by
  induction bs generalizing es inner with
  | nil => exact ⟨es, by simpa [entriesOf] using h, rfl⟩
  | cons b bs ih =>
    have hfree : b.1 ∉ inner.map Prod.fst := not_mem_of_nodup_append_cons hnew
    have hlater : ((inner ++ [(b.1, b.2.value)]).map Prod.fst ++ bs.map Prod.fst).Nodup := by
      simpa using hnew
    -- the table is bound anew with one binding more
    obtain ⟨es', hholds, hrun⟩ :=
      ih (h.rebind_output .header (inner ++ [(b.1, b.2.value)])) hlater
    refine ⟨es', by simpa [entriesOf] using hholds, ?_⟩
    rw [List.map_cons, List.map_cons, List.foldlM_cons, Line.statement,
      carryOut?_binding_below h.lookup_eq hfree b.2.value, Option.bind_eq_bind, Option.bind_some,
      hrun]

/-- The table that dotted keys made; before the first of them there is none. -/
def dottedTable : Entries → Option (Origin × Entries)
  | [] => none
  | inner => some (.dotted, inner)

lemma Holds.exists_carryOut?_dotted {key : String} (h : Holds es outer (dottedTable inner))
    (hnew : key ∉ inner.map Prod.fst) (v : Value) :
    ∃ es', Holds es' outer (dottedTable (inner ++ [(key, v)])) ∧
      Filling.carryOut? ⟨es, []⟩ (.binding ["output"] key v) = some ⟨es', []⟩ := by
  cases inner with
  | nil => exact ⟨_, h.append_output .dotted _, carryOut?_dotted_first h.output_not_mem key v⟩
  | cons e inner => exact ⟨_, h.rebind_output .dotted _, carryOut?_dotted_next h.lookup_eq hnew v⟩

/-- Plain lines and lines with a dotted key, in any order, with the bindings of either kind. -/
inductive Mixed : List Line → List (String × Word) → List (String × Word) → Prop where
  | nil : Mixed [] [] []
  | plain {lines : List Line} {outer inside : List (String × Word)} (b : String × Word)
    (h : Mixed lines outer inside) : Mixed (.plain b :: lines) (b :: outer) inside
  | dotted {lines : List Line} {outer inside : List (String × Word)} (b : String × Word)
    (h : Mixed lines outer inside) : Mixed (.dotted b :: lines) outer (b :: inside)

/-- Mixed lines fill the table they stand in, and the one that their dotted keys make. -/
lemma Mixed.exists_foldlM {lines : List Line} {outside inside : List (String × Word)}
    (hm : Mixed lines outside inside) (h : Holds es outer (dottedTable inner))
    (houtput : "output" ∉ outside.map Prod.fst)
    (houter : (outer.map Prod.fst ++ outside.map Prod.fst).Nodup)
    (hinner : (inner.map Prod.fst ++ inside.map Prod.fst).Nodup) :
    ∃ es', Holds es' (outer ++ entriesOf outside) (dottedTable (inner ++ entriesOf inside)) ∧
      (lines.map Line.statement).foldlM Filling.carryOut? ⟨es, []⟩ = some ⟨es', []⟩ := by
  induction hm generalizing es outer inner with
  | nil => exact ⟨es, by simpa [entriesOf] using h, rfl⟩
  | plain b hm ih =>
    have hkey : b.1 ≠ "output" := fun heq => houtput (by simp [heq])
    have hfree : b.1 ∉ es.map Prod.fst := h.not_mem hkey (not_mem_of_nodup_append_cons houter)
    have hholds : Holds (es ++ [(b.1, b.2.value)]) (outer ++ [(b.1, b.2.value)])
        (dottedTable inner) := h.append (by simpa using hkey.symm)
    obtain ⟨es', hholds', hrun⟩ := ih hholds (fun hmem => houtput (List.mem_cons_of_mem _ hmem))
      (by simpa using houter) hinner
    refine ⟨es', by simpa [entriesOf] using hholds', ?_⟩
    rw [List.map_cons, List.foldlM_cons, Line.statement, carryOut?_binding hfree b.2.value,
      Option.bind_eq_bind, Option.bind_some, hrun]
  | dotted b hm ih =>
    obtain ⟨es₁, hholds, hstep⟩ :=
      h.exists_carryOut?_dotted (not_mem_of_nodup_append_cons hinner) b.2.value
    obtain ⟨es', hholds', hrun⟩ := ih hholds houtput houter (by simpa using hinner)
    refine ⟨es', by simpa [entriesOf] using hholds', ?_⟩
    rw [List.map_cons, List.foldlM_cons, Line.statement, hstep, Option.bind_eq_bind,
      Option.bind_some, hrun]

end Run

/-! ### The three spellings -/

/-- The ways to write down bindings, and inside the table `output` others. -/
inductive Spells : List Line → List (String × Word) → List (String × Word) → Prop where
  /-- Below a header. -/
  | headed (outer inside : List (String × Word)) :
    Spells (outer.map .plain ++ .header :: inside.map .plain) outer inside
  /-- In braces, anywhere among the other bindings. -/
  | braced (before after inside : List (String × Word)) :
    Spells (before.map .plain ++ .braces inside :: after.map .plain) (before ++ after) inside
  /-- By dotted keys, in any order with the other bindings. -/
  | mixed {lines : List Line} {outer inside : List (String × Word)} (h : Mixed lines outer inside) :
    Spells lines outer inside

section Spells

variable {lines : List Line} {outer inside : List (String × Word)}

lemma IsTable.isTable_bindings_plain {bs part : List (String × Word)} (h : IsTable bs)
    (hsub : part ⊆ bs) : ∀ l ∈ part.map Line.plain, IsTable l.bindings := by
  intro l hl
  obtain ⟨b, hb, rfl⟩ := List.mem_map.mp hl
  exact h.singleton (hsub hb)

lemma Mixed.isTable_bindings (h : Mixed lines outer inside) (houter : ∀ b ∈ outer, IsTable [b])
    (hinside : ∀ b ∈ inside, IsTable [b]) : ∀ l ∈ lines, IsTable l.bindings := by
  induction h with
  | nil => simp
  | plain b h ih =>
    have hlater := ih (fun c hc => houter c (List.mem_cons_of_mem b hc)) hinside
    exact List.forall_mem_cons.mpr ⟨houter b List.mem_cons_self, hlater⟩
  | dotted b h ih =>
    have hlater := ih houter fun c hc => hinside c (List.mem_cons_of_mem b hc)
    exact List.forall_mem_cons.mpr ⟨hinside b List.mem_cons_self, hlater⟩

namespace Spells

variable (h : Spells lines outer inside)
include h

lemma isTable_bindings (houter : IsTable outer) (hinside : IsTable inside) :
    ∀ l ∈ lines, IsTable l.bindings := by
  intro l hl
  cases h with
  | headed =>
    rcases List.mem_append.mp hl with hl | hl
    · exact houter.isTable_bindings_plain (List.Subset.refl _) l hl
    rcases List.mem_cons.mp hl with rfl | hl
    · exact ⟨by simp [Line.bindings], by simp [Line.bindings]⟩
    · exact hinside.isTable_bindings_plain (List.Subset.refl _) l hl
  | braced before after =>
    rcases List.mem_append.mp hl with hl | hl
    · exact houter.isTable_bindings_plain (List.subset_append_left before after) l hl
    rcases List.mem_cons.mp hl with rfl | hl
    · exact hinside
    · exact houter.isTable_bindings_plain (List.subset_append_right before after) l hl
  | mixed h =>
    exact h.isTable_bindings (fun _ => houter.singleton) (fun _ => hinside.singleton) l hl

/-- Every spelling makes a table of the bindings, and of those inside `output` a table in it,
which may be missing if it is to be empty. -/
lemma exists_fill? (houter : (outer.map Prod.fst).Nodup) (houtput : "output" ∉ outer.map Prod.fst)
    (hinside : (inside.map Prod.fst).Nodup) :
    ∃ es output, fill? (lines.map Line.statement) = some es ∧ Holds es (entriesOf outer) output ∧
      (output.map Prod.snd).getD [] = entriesOf inside := by
  cases h with
  | headed =>
    have hplain := foldlM_plain_nil houter
    have hholds : Holds (entriesOf outer) (entriesOf outer) none :=
      .of_output_not_mem (by rwa [map_fst_entriesOf])
    have hheader := carryOut?_header hholds.output_not_mem
    obtain ⟨es, hholds', hbelow⟩ := exists_foldlM_below (hholds.append_output .header []) hinside
    refine ⟨es, _, ?_, hholds', rfl⟩
    rw [fill?, List.map_append, List.foldlM_append, hplain, Option.bind_eq_bind, Option.bind_some,
      List.map_cons, List.foldlM_cons, Line.statement, hheader, Option.bind_eq_bind,
      Option.bind_some, hbelow, Option.map_some]
  | braced before after =>
    rw [List.map_append] at houter houtput
    have hnotBefore : "output" ∉ (entriesOf before).map Prod.fst := by
      rw [map_fst_entriesOf]
      exact fun hmem => houtput (List.mem_append_left _ hmem)
    have hnotAfter : "output" ∉ (entriesOf after).map Prod.fst := by
      rw [map_fst_entriesOf]
      exact fun hmem => houtput (List.mem_append_right _ hmem)
    have hkeys : (before.map Prod.fst ++ "output" :: after.map Prod.fst).Nodup :=
      List.nodup_middle.mpr (List.nodup_cons.mpr ⟨houtput, houter⟩)
    have hbefore := foldlM_plain_nil houter.of_append_left
    have hholds := Holds.of_output_not_mem hnotBefore
    have hbraces := carryOut?_binding hholds.output_not_mem (.table .braces (entriesOf inside))
    have hfree : ((entriesOf before ++ [("output", Value.table .braces (entriesOf inside))]).map
        Prod.fst ++ after.map Prod.fst).Nodup := by simpa [map_fst_entriesOf] using hkeys
    have hafter := foldlM_plain hfree
    have hholds' := (hholds.append_output .braces (entriesOf inside)).append hnotAfter
    have hall : entriesOf before ++ entriesOf after = entriesOf (before ++ after) := by
      simp [entriesOf]
    refine ⟨_, _, ?_, hall ▸ hholds', rfl⟩
    rw [fill?, List.map_append, List.foldlM_append, hbefore, Option.bind_eq_bind, Option.bind_some,
      List.map_cons, List.foldlM_cons, Line.statement, hbraces, Option.bind_eq_bind,
      Option.bind_some, hafter, Option.map_some]
  | mixed h =>
    have hempty : Holds [] [] (dottedTable []) := .of_output_not_mem (by simp)
    obtain ⟨es, hholds, hrun⟩ := h.exists_foldlM hempty houtput houter hinside
    refine ⟨es, _, ?_, hholds, ?_⟩
    · rw [fill?, hrun, Option.map_some]
    · rw [List.nil_append]
      cases entriesOf inside <;> rfl

end Spells

end Spells

/-! ### The settings -/

/-- Whether 128 bits can hold a word that is a number, signed or unsigned. -/
def Word.IsHeld : Word → Prop
  | boolean _ => True
  | integer n => -2 ^ 127 ≤ n ∧ n < 2 ^ 128

lemma Word.representable_value {w : Word} (h : w.IsHeld) : w.value.representable = true := by
  cases w with
  | boolean b => rfl
  | integer n =>
    have hleast : -Int.pow 2 127 ≤ n := h.1
    have hmost : n < Int.pow 2 128 := h.2
    rw [value, Value.representable, decide_eq_true hleast, decide_eq_true hmost, Bool.and_self]

lemma entriesRepresentable_entriesOf {bs : List (String × Word)} (h : ∀ b ∈ bs, b.2.IsHeld) :
    entriesRepresentable (entriesOf bs) = true := by
  induction bs with
  | nil => rfl
  | cons b bs ih =>
    have hb := Word.representable_value (h b List.mem_cons_self)
    have hlater := ih fun c hc => h c (List.mem_cons_of_mem b hc)
    rw [entriesOf] at hlater ⊢
    rw [List.map_cons, entriesRepresentable, hb, hlater, Bool.and_self]

end Toml

namespace Settings

open Toml

variable {text : String} {lines : List Line} {outer inside : List (String × Word)}

/-- Whatever the spelling, the settings are read off the bindings inside `output`. -/
lemma ofText?_eq (hwrites : Writes lines text.toList) (h : Spells lines outer inside)
    (houter : IsTable outer) (houtput : "output" ∉ outer.map Prod.fst) (hinside : IsTable inside) :
    ofText? text =
      if entriesRepresentable (entriesOf outer) && entriesRepresentable (entriesOf inside) then
        ofValues? ((inside.lookup "color").map Word.value)
          ((inside.lookup "column_width").map Word.value)
      else none := by
  obtain ⟨es, output, hfill, hholds, hinner⟩ := h.exists_fill? houter.nodup houtput hinside.nodup
  have hdocument : document? text.toList = some es := by
    rw [document?, hwrites.statements?_eq (h.isTable_bindings houter hinside), Option.bind_some,
      hfill]
  rw [ofText?, hdocument, Option.bind_some, ofEntries?, hholds.filter_eq, hholds.lookup_eq,
    ← lookup_entriesOf, ← lookup_entriesOf, ← hinner]
  cases entriesRepresentable (entriesOf outer) with
  | false => rfl
  | true =>
    cases output with
    | none => rfl
    | some t => rfl

lemma ofText?_eq_none (hwrites : Writes lines text.toList) (h : Spells lines outer inside)
    (houter : IsTable outer) (houtput : "output" ∉ outer.map Prod.fst) (hinside : IsTable inside)
    (hnone : boolean? ({} : Settings).color ((inside.lookup "color").map Word.value) = none ∨
      width? ({} : Settings).columnWidth ((inside.lookup "column_width").map Word.value) = none) :
    ofText? text = none := by
  rw [ofText?_eq hwrites h houter houtput hinside, ofValues?_eq_none_iff.mpr hnone, ite_self]

lemma width?_integer {n : ℕ} (h : n < 2 ^ 64) (fallback : ℕ) :
    width? fallback (some (.integer n)) = some n := by
  have hrange : (0 : ℤ) ≤ n ∧ (n : ℤ) < UInt64.size := ⟨Int.natCast_nonneg n, by exact_mod_cast h⟩
  simp only [width?, hrange, decide_true, Bool.and_self, if_true, Int.toNat_natCast]

/-- **A setting is read from its own key, in every spelling.**  The other bindings may hold any
words, as long as no integer needs more than 128 bits; a wrong setting is refused with any. -/
theorem ofText?_of_spells (hwrites : Writes lines text.toList) (h : Spells lines outer inside)
    (houter : IsTable outer) (houtput : "output" ∉ outer.map Prod.fst) (hinside : IsTable inside) :
    (∀ (color : Option Bool) (width : Option ℕ), (∀ b ∈ outer ++ inside, b.2.IsHeld) →
      inside.lookup "color" = color.map .boolean →
      inside.lookup "column_width" = width.map (fun n => .integer n) →
      (∀ n ∈ width, n < 2 ^ 64) →
      ofText? text = some ⟨color.getD true, width.getD 75⟩) ∧
    (∀ n, inside.lookup "color" = some (.integer n) → ofText? text = none) ∧
    (∀ b, inside.lookup "column_width" = some (.boolean b) → ofText? text = none) ∧
    (∀ n, inside.lookup "column_width" = some (.integer n) → n < 0 ∨ 2 ^ 64 ≤ n →
      ofText? text = none) := by
  have hnone := ofText?_eq_none hwrites h houter houtput hinside
  refine ⟨fun color width hheld hcolor hwidth hmost => ?_, fun n hn => hnone (Or.inl ?_),
    fun b hb => hnone (Or.inr ?_), fun n hn hrange => hnone (Or.inr ?_)⟩
  · have houterHeld : entriesRepresentable (entriesOf outer) = true :=
      entriesRepresentable_entriesOf fun b hb => hheld b (List.mem_append_left inside hb)
    have hinsideHeld : entriesRepresentable (entriesOf inside) = true :=
      entriesRepresentable_entriesOf fun b hb => hheld b (List.mem_append_right outer hb)
    have hcolorRead : boolean? true ((inside.lookup "color").map Word.value) =
        some (color.getD true) := by
      rw [hcolor]
      cases color <;> rfl
    have hwidthRead : width? 75 ((inside.lookup "column_width").map Word.value) =
        some (width.getD 75) := by
      rw [hwidth]
      cases width with
      | none => rfl
      | some n => exact width?_integer (hmost n rfl) 75
    rw [ofText?_eq hwrites h houter houtput hinside, houterHeld, hinsideHeld, ofValues?,
      hcolorRead, hwidthRead]
    rfl
  · rw [hn, boolean?_eq_none_iff]
    exact ⟨.integer n, rfl, by simp⟩
  · rw [hb, width?_eq_none_iff]
    exact ⟨.boolean b, rfl, by simp⟩
  · rw [hn, width?_eq_none_iff]
    refine ⟨.integer n, rfl, fun m hm heq => ?_⟩
    have hsize : UInt64.size = 2 ^ 64 := rfl
    obtain rfl := Value.integer.inj heq
    omega

/-- Dotted keys among plain ones. -/
def mixedExample : List Line :=
  [.plain ("retries", .integer 9223372036854775807),
    .dotted ("column_width", .integer 18446744073709551615),
    .plain ("2-x", .boolean false),
    .dotted ("tabs", .integer 4)]

/-- A width out of range in braces, beside a color. -/
def wrongExample : List Line :=
  [.braces [("column_width", .integer (-1)), ("color", .boolean false)]]

theorem ofText?_of_mixed_and_of_wrong_braces :
    ofText? ("retries = 9223372036854775807\noutput.column_width = 18446744073709551615\r\n" ++
        "2-x = false\noutput.tabs = 4") = some ⟨true, 18446744073709551615⟩ ∧
      ofText? "output = \x7b column_width = -1, color = false \x7d\n" = none := by
  constructor
  · have hlines : Writes mixedExample _ := .ended (e := .feed) _ (by decide)
      (.ended (e := .both) _ (by decide) (.ended (e := .feed) _ (by decide) (.last _)))
    have hmixed : Spells mixedExample
        [("retries", .integer 9223372036854775807), ("2-x", .boolean false)]
        [("column_width", .integer 18446744073709551615), ("tabs", .integer 4)] :=
      .mixed (.plain _ (.dotted _ (.plain _ (.dotted _ .nil))))
    refine (ofText?_of_spells ?_ hmixed (by decide) (by decide) (by decide)).1 none
      (some 18446744073709551615) (by simp [Word.IsHeld]) rfl rfl (by simp)
    refine (congrArg _ ?_).mpr hlines
    decide +kernel
  · have hlines : Writes wrongExample _ := .ended (e := .feed) _ (by decide) .nil
    have hbraces : Spells wrongExample []
        [("column_width", .integer (-1)), ("color", .boolean false)] := .braced [] [] _
    refine (ofText?_of_spells ?_ hbraces (by decide) (by decide) (by decide)).2.2.2 (-1) rfl
      (Or.inl (by decide))
    refine (congrArg _ ?_).mpr hlines
    decide +kernel

end Settings

end FindingsDigest
