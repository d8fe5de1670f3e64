/-
# Lines by replacement

The lines of a text can also be had in steps that look at the whole text.  First each carriage
return with a line feed behind it is replaced by a line feed, and after that each carriage return
that is left.  Now only line feeds end a line, and the text is cut at them; what is left behind the
last one is a line if it is not empty.

One pass over the text finds the same lines.  Every text is a row of lines with endings, one of them
after the other, and perhaps a line without an ending behind them (`induction_on_lines`).  So it is
enough to know what each way of reading does to a first line and its ending, and for the
replacements this is `feedsOnly_ending_append`.  The number of the lines and their characters are
counted in the same way.
-/
import FindingsDigest.Proofs.LineEndings

namespace FindingsDigest.Text

/-! ### A text line by line -/

/-- To show something of every text, show it of a text that is one line, and of a text with a first
line and its ending if it holds of the rest. -/
@[elab_as_elim]
theorem induction_on_lines {motive : List Char → Prop}
    (openLine : ∀ line, IsOneLine line → motive line)
    (endedLine : ∀ line (e : LineEnding) rest, IsOneLine line →
      (e = .carriage → rest.head? ≠ some '\n') → motive rest → motive (line ++ e.chars ++ rest))
    (text : List Char) : motive text := by
  induction hlength : text.length using Nat.strong_induction_on generalizing text with
  | _ n ih =>
    subst hlength
    let inLine : Char → Bool := fun c => c ≠ '\r' ∧ c ≠ '\n'
    have hline : IsOneLine (text.takeWhile inLine) :=
      ⟨fun h => by simpa [inLine] using List.mem_takeWhile_imp h,
        fun h => by simpa [inLine] using List.mem_takeWhile_imp h⟩
    have htext := List.takeWhile_append_dropWhile (p := inLine) (l := text)
    rcases hdrop : text.dropWhile inLine with _ | ⟨c, behind⟩
    · rw [hdrop, List.append_nil] at htext
      rw [← htext]
      exact openLine _ hline
    · have hc : c = '\r' ∨ c = '\n' := by
        have hnot := List.head?_dropWhile_not inLine text
        rw [hdrop] at hnot
        simpa [inLine, or_iff_not_imp_left] using hnot
      obtain ⟨e, rest, hbehind, hrest⟩ : ∃ (e : LineEnding) (rest : List Char),
          c :: behind = e.chars ++ rest ∧ (e = .carriage → rest.head? ≠ some '\n') := by
        rcases hc with rfl | rfl
        · by_cases hfeed : behind.head? = some '\n'
          · obtain ⟨rest, rfl⟩ := List.head?_eq_some_iff.mp hfeed
            exact ⟨.both, rest, rfl, by simp⟩
          · exact ⟨.carriage, behind, rfl, fun _ => hfeed⟩
        · exact ⟨.feed, behind, rfl, by simp⟩
      rw [← htext, hdrop, hbehind, ← List.append_assoc]
      refine endedLine _ e rest hline hrest (ih _ ?_ rest rfl)
      rw [← htext, hdrop, hbehind]
      cases e <;> simp [LineEnding.chars] <;> omega

/-- A text that is one line has this line, unless it is empty. -/
lemma lines_openLine {line : List Char} (h : IsOneLine line) :
    lines line = if line = [] then [] else [line] := by
  split
  · next hnil => rw [hnil, lines_nil]
  · next hne => exact lines_of_isOneLine h hne

/-- A first line ends at its ending, and the rest is read as a text of its own. -/
lemma lines_endedLine_append {line : List Char} (h : IsOneLine line) {e : LineEnding}
    {rest : List Char} (hrest : e = .carriage → rest.head? ≠ some '\n') :
    lines (line ++ e.chars ++ rest) = line :: lines rest := by
  rw [lines_append (isLineCut_append_ending line hrest), lines_append_ending h]
  rfl

/-! ### Replacing and cutting -/

/-- A text in which occurrences of `old` are replaced by `new`, from left to right.  The next `skip`
characters belong to an occurrence that has been replaced. -/
def replaceFrom (old new : List Char) : ℕ → List Char → List Char
  | _, [] => []
  | skip + 1, _ :: rest => replaceFrom old new skip rest
  | 0, c :: rest =>
    if old.isPrefixOf (c :: rest) then new ++ replaceFrom old new (old.length - 1) rest
    else c :: replaceFrom old new 0 rest

/-- A text in which every occurrence of `old` is replaced by `new`. -/
def replaceAll (old new text : List Char) : List Char :=
  replaceFrom old new 0 text

/-- A text in which every line ending is a line feed. -/
def feedsOnly (text : List Char) : List Char :=
  replaceAll ['\r'] ['\n'] (replaceAll ['\r', '\n'] ['\n'] text)

/-- The pieces of a text that end at a separator, and what is left behind the last separator if it
is not empty. -/
def splitTerminated (separator : Char) (text : List Char) : List (List Char) :=
  let pieces := text.splitOn separator
  if pieces.getLast? = some [] then pieces.dropLast else pieces

@[simp]
lemma feedsOnly_nil : feedsOnly [] = [] := rfl

/-- One character is replaced wherever it stands. -/
lemma replaceAll_singleton (c d : Char) (text : List Char) :
    replaceAll [c] [d] text = text.map fun x => if x = c then d else x := by
  rw [replaceAll]
  induction text with
  | nil => rfl
  | cons x rest ih =>
    by_cases hx : x = c
    · simp [replaceFrom, hx, ih]
    · simp [replaceFrom, hx, Ne.symm hx, ih]

lemma replaceAll_append_of_not_mem {c : Char} {text : List Char} (h : c ∉ text)
    (old new rest : List Char) :
    replaceAll (c :: old) new (text ++ rest) = text ++ replaceAll (c :: old) new rest := by
  induction text with
  | nil => rfl
  | cons x text ih =>
    rw [List.mem_cons, not_or] at h
    have hx := ih h.2
    simp only [replaceAll] at hx ⊢
    simp [replaceFrom, h.1, hx]

/-- A text without carriage returns has only line feeds. -/
lemma feedsOnly_append_of_not_mem {text : List Char} (h : '\r' ∉ text) (rest : List Char) :
    feedsOnly (text ++ rest) = text ++ feedsOnly rest := by
  rw [feedsOnly, replaceAll_append_of_not_mem h, replaceAll_append_of_not_mem h, feedsOnly]

/-- Of an ending a line feed is left. -/
lemma feedsOnly_ending_append {e : LineEnding} {rest : List Char}
    (h : e = .carriage → rest.head? ≠ some '\n') :
    feedsOnly (e.chars ++ rest) = '\n' :: feedsOnly rest := by
  cases e with
  | feed => exact feedsOnly_append_of_not_mem (by simp [LineEnding.chars]) rest
  | carriage =>
    have hrest := h rfl
    have hone : replaceAll ['\r', '\n'] ['\n'] ('\r' :: rest) =
        '\r' :: replaceAll ['\r', '\n'] ['\n'] rest := by
      cases rest with
      | nil => rfl
      | cons c rest =>
        have hc : c ≠ '\n' := by simpa using hrest
        simp [replaceAll, replaceFrom, hc.symm]
    simp [feedsOnly, LineEnding.chars, hone, replaceAll_singleton]
  | both => simp [feedsOnly, LineEnding.chars, replaceAll, replaceFrom]

lemma splitTerminated_of_not_mem {separator : Char} {text : List Char} (h : separator ∉ text) :
    splitTerminated separator text = if text = [] then [] else [text] := by
  rw [splitTerminated, List.splitOn_eq_singleton h]
  simp

lemma splitTerminated_append_cons {separator : Char} {line : List Char} (h : separator ∉ line)
    (rest : List Char) :
    splitTerminated separator (line ++ separator :: rest) =
      line :: splitTerminated separator rest := by
  rw [splitTerminated, List.splitOn_append_cons_self_of_not_mem h, splitTerminated]
  rcases hsplit : rest.splitOn separator with _ | ⟨first, others⟩
  · exact absurd hsplit (List.splitOn_ne_nil _ _)
  · simp only [List.getLast?_cons_cons, List.dropLast_cons_cons]
    split <;> rfl

/-! ### Counting endings -/

/-- How many line endings a text has.  A line feed is one, and so is a carriage return unless a line
feed follows directly. -/
def endings : List Char → ℕ
  | [] => 0
  | c :: rest =>
    endings rest + if c = '\n' ∨ c = '\r' ∧ rest.head? ≠ some '\n' then 1 else 0

/-- Whether a text stops inside a line. -/
def IsOpenEnded (text : List Char) : Prop :=
  text ≠ [] ∧ text.getLast? ≠ some '\r' ∧ text.getLast? ≠ some '\n'

instance (text : List Char) : Decidable (IsOpenEnded text) :=
  inferInstanceAs (Decidable (_ ∧ _))

lemma endings_append_of_isOneLine {line : List Char} (h : IsOneLine line) (rest : List Char) :
    endings (line ++ rest) = endings rest := by
  induction line with
  | nil => rfl
  | cons c line ih =>
    simp only [IsOneLine, List.mem_cons, not_or] at h
    rw [List.cons_append, endings, ih ⟨h.1.2, h.2.2⟩]
    simp [Ne.symm h.1.1, Ne.symm h.2.1]

lemma endings_ending_append {e : LineEnding} {rest : List Char}
    (h : e = .carriage → rest.head? ≠ some '\n') :
    endings (e.chars ++ rest) = endings rest + 1 := by
  cases e with
  | feed => simp [LineEnding.chars, endings]
  | carriage => simp [LineEnding.chars, endings, h rfl]
  | both => simp [LineEnding.chars, endings]

lemma isOpenEnded_iff_of_isOneLine {line : List Char} (h : IsOneLine line) :
    IsOpenEnded line ↔ line ≠ [] := by
  refine ⟨fun hopen => hopen.1, fun hne => ⟨hne, fun hlast => ?_, fun hlast => ?_⟩⟩
  · exact h.1 (List.mem_of_getLast? hlast)
  · exact h.2 (List.mem_of_getLast? hlast)

lemma isOpenEnded_append_ending_append (line : List Char) (e : LineEnding) (rest : List Char) :
    IsOpenEnded (line ++ e.chars ++ rest) ↔ IsOpenEnded rest := by
  rcases List.eq_nil_or_concat rest with rfl | ⟨before, c, rfl⟩
  · cases e <;> simp [IsOpenEnded, LineEnding.chars]
  · simp [IsOpenEnded]

/-! ### The lines of a text -/

lemma lines_eq_splitTerminated_feedsOnly (text : List Char) :
    lines text = splitTerminated '\n' (feedsOnly text) := by
  induction text using induction_on_lines with
  | openLine line hline =>
    have hfeeds : feedsOnly line = line := by
      simpa [feedsOnly_nil] using feedsOnly_append_of_not_mem hline.1 []
    rw [hfeeds, splitTerminated_of_not_mem hline.2, lines_openLine hline]
  | endedLine line e rest hline hrest ih =>
    rw [lines_endedLine_append hline hrest, ih, List.append_assoc,
      feedsOnly_append_of_not_mem hline.1, feedsOnly_ending_append hrest,
      splitTerminated_append_cons hline.2]

lemma length_lines (text : List Char) :
    (lines text).length = endings text + if IsOpenEnded text then 1 else 0 := by
  induction text using induction_on_lines with
  | openLine line hline =>
    have hendings := endings_append_of_isOneLine hline []
    rw [List.append_nil] at hendings
    rw [lines_openLine hline]
    simp only [hendings, endings, isOpenEnded_iff_of_isOneLine hline]
    by_cases hne : line = [] <;> simp [hne]
  | endedLine line e rest hline hrest ih =>
    simp only [isOpenEnded_append_ending_append]
    rw [lines_endedLine_append hline hrest, List.length_cons, ih, List.append_assoc,
      endings_append_of_isOneLine hline, endings_ending_append hrest]
    omega

lemma filter_eq_self_of_isOneLine {line : List Char} (h : IsOneLine line) :
    line.filter (fun c => c ≠ '\r' ∧ c ≠ '\n') = line := by
  refine List.filter_eq_self.mpr fun c hc => ?_
  have hreturn : c ≠ '\r' := fun hr => h.1 (hr ▸ hc)
  have hfeed : c ≠ '\n' := fun hf => h.2 (hf ▸ hc)
  simp [hreturn, hfeed]

lemma flatten_lines (text : List Char) :
    (lines text).flatten = text.filter fun c => c ≠ '\r' ∧ c ≠ '\n' := by
  induction text using induction_on_lines with
  | openLine line hline =>
    rw [filter_eq_self_of_isOneLine hline, lines_openLine hline]
    by_cases hne : line = [] <;> simp [hne]
  | endedLine line e rest hline hrest ih =>
    have hending : e.chars.filter (fun c => c ≠ '\r' ∧ c ≠ '\n') = [] := by
      cases e <;> rfl
    rw [lines_endedLine_append hline hrest, List.flatten_cons, ih, List.filter_append,
      List.filter_append, filter_eq_self_of_isOneLine hline, hending, List.append_nil]

/-- **One pass finds the lines that replacing finds.**  The lines of a text are the pieces into
which line feeds cut it when every other ending has been replaced by a line feed.  One pass finds
them: it ends a line at a line feed, at a carriage return, or at both together, goes on behind as at
the beginning, and takes what is left at the end for a line if it is not empty.  So no line holds a
character of an ending, and only the empty text has no lines.  There are as many lines as endings,
and one more if the text stops inside a line.  Put together, the lines are the text without the
characters of its endings. -/
theorem linesOf_eq_pieces_of_feedsOnly (text : String) :
    linesOf text = (splitTerminated '\n' (feedsOnly text.toList)).map String.ofList ∧
      (∀ (line : List Char) (e : LineEnding) (rest : List Char), IsOneLine line →
        (e = .carriage → rest.head? ≠ some '\n') →
        lines (line ++ e.chars ++ rest) = line :: lines rest) ∧
      (∀ line, IsOneLine line → lines line = if line = [] then [] else [line]) ∧
      (∀ line ∈ linesOf text, '\r' ∉ line.toList ∧ '\n' ∉ line.toList) ∧
      (linesOf text = [] ↔ text = "") ∧
      (linesOf text).length =
        endings text.toList + (if IsOpenEnded text.toList then 1 else 0) ∧
      String.join (linesOf text) =
        String.ofList (text.toList.filter fun c => c ≠ '\r' ∧ c ≠ '\n') := by
  refine ⟨?_, fun line e rest hline hrest => lines_endedLine_append hline hrest,
    fun line hline => lines_openLine hline, fun line hline => isOneLine_of_mem_linesOf hline,
    linesOf_eq_nil_iff text, ?_, ?_⟩
  · rw [linesOf, lines_eq_splitTerminated_feedsOnly]
  · rw [linesOf, List.length_map, length_lines]
  · apply String.toList_inj.mp
    rw [String.toList_ofList, ← flatten_lines, String.toList_join, linesOf, List.flatMap_map]
    simp [List.flatMap_id']

/-- A carriage return alone, both together, a line feed alone, and a carriage return alone. -/
example : feedsOnly ['\r', '\r', '\n', '\n', '\r'] = ['\n', '\n', '\n', '\n'] ∧
    linesOf "\r\r\n\n\r" = ["", "", "", ""] := by decide +kernel

end FindingsDigest.Text
