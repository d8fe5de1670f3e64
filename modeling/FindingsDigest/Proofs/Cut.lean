/-
# Where a line is cut

Only the first colons of a line matter to its record: a line with two colons or more is a file, a
colon, a number, a colon, a third part, and a rest that begins with the next colon if there is one.
Such a cut exists (`Cut.exists_cut`), and it is the only one whose parts hold no colons
(`Cut.eq_of_line_eq`); all characters but colons may stand in the parts.

The record takes file and number from the cut as they are.  From the third part the line feeds at
its end are dropped, all of them and nothing else (`exists_eq_dropLineFeeds_append`).  The other way
round, a record that is written as such a line, with any number of line feeds behind the rule and
any further fields, is read back.
-/
import FindingsDigest.Proofs.Record
import Mathlib.Data.List.DropRight

namespace FindingsDigest.Record

/-! ### Line feeds at the end -/

/-- A number of line feeds. -/
def feeds (k : ℕ) : String :=
  String.ofList (List.replicate k '\n')

lemma dropLineFeeds_eq_rdropWhile (text : List Char) :
    dropLineFeeds text = text.rdropWhile (· = '\n') := rfl

/-- Line feeds are dropped from the end up to the last other character. -/
lemma dropLineFeeds_append_replicate {text : List Char} (h : text.getLast? ≠ some '\n') (k : ℕ) :
    dropLineFeeds (text ++ List.replicate k '\n') = text := by
  rw [dropLineFeeds_eq_rdropWhile]
  induction k with
  | zero =>
    rw [List.replicate_zero, List.append_nil, List.rdropWhile_eq_self_iff]
    intro hne hlast
    rw [List.getLast?_eq_some_getLast hne, of_decide_eq_true hlast] at h
    exact h rfl
  | succ k ih =>
    rw [List.replicate_succ', ← List.append_assoc, List.rdropWhile_concat_pos _ _ _ (by simp), ih]

/-- What is dropped is a run of line feeds, and none is left. -/
lemma exists_eq_dropLineFeeds_append (text : List Char) :
    ∃ k, text = dropLineFeeds text ++ List.replicate k '\n' ∧
      (dropLineFeeds text).getLast? ≠ some '\n' := by
  have hfeeds : text.rtakeWhile (· = '\n') =
      List.replicate (text.rtakeWhile (· = '\n')).length '\n' :=
    List.eq_replicate_iff.mpr ⟨rfl, fun c hc => by simpa using List.mem_rtakeWhile_imp hc⟩
  refine ⟨(text.rtakeWhile (· = '\n')).length, ?_, fun hlast => ?_⟩
  · rw [dropLineFeeds_eq_rdropWhile, ← hfeeds, List.rdropWhile_append_rtakeWhile]
  · have hne : dropLineFeeds text ≠ [] := by
      intro hnil
      rw [hnil] at hlast
      cases hlast
    rw [List.getLast?_eq_some_getLast hne, Option.some.injEq] at hlast
    exact List.rdropWhile_last_not _ text hne (decide_eq_true hlast)

/-! ### Cuts -/

/-- A line cut at its first two colons and in front of the third. -/
@[ext]
structure Cut where
  file : String
  number : String
  third : String
  /-- The further fields, with the colon in front of them. -/
  rest : String
  deriving DecidableEq, Repr

namespace Cut

/-- The line that is cut. -/
def line (c : Cut) : String :=
  c.file ++ ":" ++ c.number ++ ":" ++ c.third ++ c.rest

/-- Whether no colon is left in the parts in front of the rest. -/
structure Proper (c : Cut) : Prop where
  file : ':' ∉ c.file.toList
  number : ':' ∉ c.number.toList
  third : ':' ∉ c.third.toList
  rest : c.rest = "" ∨ c.rest.toList.head? = some ':'

lemma toList_line (c : Cut) : c.line.toList =
    c.file.toList ++ ':' :: (c.number.toList ++ ':' :: (c.third.toList ++ c.rest.toList)) := by
  simp [line]

/-- The parts are the first three fields of the line. -/
lemma Proper.splitOn_line {c : Cut} (h : c.Proper) : ∃ more, c.line.toList.splitOn ':' =
    c.file.toList :: c.number.toList :: c.third.toList :: more := by
  rw [toList_line, List.splitOn_append_cons_self_of_not_mem h.file,
    List.splitOn_append_cons_self_of_not_mem h.number]
  rcases h.rest with hrest | hrest
  · rw [hrest, String.toList_empty, List.append_nil, List.splitOn_eq_singleton h.third]
    exact ⟨[], rfl⟩
  · obtain ⟨more, hmore⟩ := List.head?_eq_some_iff.mp hrest
    rw [hmore, List.splitOn_append_cons_self_of_not_mem h.third]
    exact ⟨_, rfl⟩

lemma eq_of_line_eq {c d : Cut} (hc : c.Proper) (hd : d.Proper) (h : c.line = d.line) : c = d := by
  obtain ⟨more, hmore⟩ := hc.splitOn_line
  obtain ⟨more', hmore'⟩ := hd.splitOn_line
  rw [h, hmore'] at hmore
  simp only [List.cons.injEq, String.toList_inj] at hmore
  obtain ⟨hfile, hnumber, hthird, -⟩ := hmore
  have hrest : c.rest = d.rest := by
    rw [line, line, hfile, hnumber, hthird] at h
    simpa using h
  exact Cut.ext hfile.symm hnumber.symm hthird.symm hrest

/-- A text goes up to its first colon, or to its end. -/
lemma exists_eq_append (text : List Char) :
    ∃ third rest, text = third ++ rest ∧ ':' ∉ third ∧ (rest = [] ∨ rest.head? = some ':') := by
  by_cases hcolon : ':' ∈ text
  · obtain ⟨third, rest, htext, hthird⟩ := List.eq_append_cons_of_mem hcolon
    exact ⟨third, ':' :: rest, htext, hthird, Or.inr rfl⟩
  · exact ⟨text, [], (List.append_nil text).symm, hcolon, Or.inl rfl⟩

/-- A line with two colons can be cut. -/
lemma exists_cut {text : String} (h : 2 ≤ colons text) : ∃ c : Cut, c.Proper ∧ c.line = text := by
  have hfirst : ':' ∈ text.toList := List.count_pos_iff.mp (Nat.lt_of_lt_of_le Nat.two_pos h)
  obtain ⟨file, behind, htext, hfile⟩ := List.eq_append_cons_of_mem hfirst
  have hcount : 1 ≤ behind.count ':' := by
    rw [colons, htext, List.count_append, List.count_eq_zero_of_not_mem hfile,
      List.count_cons_self] at h
    omega
  obtain ⟨number, behind', hbehind, hnumber⟩ :=
    List.eq_append_cons_of_mem (List.count_pos_iff.mp hcount)
  obtain ⟨third, rest, hbehind', hthird, hrest⟩ := exists_eq_append behind'
  refine ⟨⟨String.ofList file, String.ofList number, String.ofList third, String.ofList rest⟩,
    ⟨?_, ?_, ?_, ?_⟩, ?_⟩
  · simpa using hfile
  · simpa using hnumber
  · simpa using hthird
  · simpa using hrest
  · apply String.toList_inj.mp
    simp [toList_line, htext, hbehind, hbehind']

/-- The record of a line is read off its cut. -/
lemma Proper.parse_line {c : Cut} (h : c.Proper) (lineNo : ℕ) : parse lineNo c.line =
    .ok ⟨c.file, c.number, String.ofList (dropLineFeeds c.third.toList)⟩ := by
  obtain ⟨more, hmore⟩ := h.splitOn_line
  simp [parse, hmore]

end Cut

/-! ### Reading a line -/

/-- **A record is read off the cut of its line.**  A line gives a record just if it has two colons
or more.  Then it has exactly one cut, whose file and number are those of the record, and the rule
is the third part without the line feeds at its end.  The other way round a record is read back from
the line `file:number:rule`, if its parts hold no colons and the rule ends in no line feed, whatever
number of line feeds stands behind the rule and whatever fields follow.  A line that gives no record
is told as it stands, with its position and the number of its fields. -/
theorem parse_of_cut (lineNo : ℕ) (line : String) :
    ((∃ r, parse lineNo line = .ok r) ↔ 2 ≤ colons line) ∧
      (2 ≤ colons line → ∃! c : Cut, c.Proper ∧ c.line = line) ∧
      (∀ c : Cut, c.Proper → c.line = line → ∃ rule k, c.third = rule ++ feeds k ∧
        rule.toList.getLast? ≠ some '\n' ∧ parse lineNo line = .ok ⟨c.file, c.number, rule⟩) ∧
      (∀ (file number rule rest : String) (k : ℕ), ':' ∉ file.toList → ':' ∉ number.toList →
        ':' ∉ rule.toList → rule.toList.getLast? ≠ some '\n' →
        (rest = "" ∨ rest.toList.head? = some ':') →
        parse lineNo (file ++ ":" ++ number ++ ":" ++ rule ++ feeds k ++ rest) =
          .ok ⟨file, number, rule⟩) ∧
      ∀ m, parse lineNo line = .error m ↔
        colons line < 2 ∧ m = ⟨lineNo, line, colons line + 1⟩ := by
  have hok : 2 ≤ colons line → ∃ r, parse lineNo line = .ok r := by
    intro h
    obtain ⟨c, hc, rfl⟩ := Cut.exists_cut h
    exact ⟨_, hc.parse_line lineNo⟩
  have herror : colons line < 2 → parse lineNo line = .error ⟨lineNo, line, colons line + 1⟩ :=
    fun h => parse_of_colons_lt_two h lineNo
  refine ⟨⟨fun ⟨r, hr⟩ => ?_, hok⟩, fun h => ?_, ?_, ?_, fun m => ⟨fun hm => ?_, ?_⟩⟩
  · by_contra hlt
    rw [herror (Nat.lt_of_not_le hlt)] at hr
    cases hr
  · obtain ⟨c, hc, hline⟩ := Cut.exists_cut h
    exact ⟨c, ⟨hc, hline⟩, fun d hd => Cut.eq_of_line_eq hd.1 hc (hd.2.trans hline.symm)⟩
  · rintro c hc rfl
    obtain ⟨k, hthird, hlast⟩ := exists_eq_dropLineFeeds_append c.third.toList
    refine ⟨_, k, ?_, ?_, hc.parse_line lineNo⟩
    · apply String.toList_inj.mp
      simpa [feeds] using hthird
    · simpa using hlast
  · intro file number rule rest k hfile hnumber hrule hlast hrest
    have hfeeds : ':' ∉ (rule ++ feeds k).toList := by
      simp [feeds, hrule]
    have hparse := Cut.Proper.parse_line (c := ⟨file, number, rule ++ feeds k, rest⟩)
      ⟨hfile, hnumber, hfeeds, hrest⟩ lineNo
    have hline : file ++ ":" ++ number ++ ":" ++ rule ++ feeds k ++ rest =
        Cut.line ⟨file, number, rule ++ feeds k, rest⟩ := by
      simp [Cut.line, String.append_assoc]
    rw [hline, hparse]
    simp [feeds, dropLineFeeds_append_replicate hlast]
  · rcases Nat.lt_or_ge (colons line) 2 with hlt | hge
    · rw [herror hlt] at hm
      exact ⟨hlt, (Except.error.inj hm).symm⟩
    · obtain ⟨r, hr⟩ := hok hge
      rw [hr] at hm
      cases hm
  · rintro ⟨hlt, rfl⟩
    exact herror hlt

/-- Line feeds in front of a further field are dropped, all other white space is kept. -/
example : parse 1 " a:\r1:2\nb\n\n:c:d" = .ok ⟨" a", "\r1", "2\nb"⟩ := by cbv

end FindingsDigest.Record
