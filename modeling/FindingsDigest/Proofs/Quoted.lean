/-
# What can be read off a quoted text

A quoted text is read back from left to right (`unescape`).  A backslash begins an escape, which is
one letter or a code point between braces; the double quote that is not escaped ends the text, and
every other character stands for itself.  So each written form can be read back whatever stands
behind it (`unescape_escape_append`), although the characters of a text may themselves look like
escapes or quotes, and a text is read back one character after the other.

The message about a malformed line quotes the line.  All of its characters are shown: they are
characters of plain words and digits, written forms, or characters of the line that have a shape of
their own, and no control is among them.  The numbers in it end at the first character that is no
digit, and its other words are always the same, so the message can be taken apart again
(`Malformed.ofMessage?_message`).
-/
import FindingsDigest.Proofs.Digits
import FindingsDigest.Proofs.LineEndings

namespace FindingsDigest

lemma codePoint?_toDigits (c : Char) : Toml.codePoint? (Nat.toDigits 16 c.toNat) = some c := by
  have hbase : 1 < 16 := by decide
  have hdigit : ∀ d < 16, Toml.hexDigit? (Nat.digitChar d) = some d := fun _ => hexDigit?_digitChar
  obtain ⟨ds, hds, hvalue⟩ := exists_mapM_toDigits hbase hdigit c.toNat
  rw [Toml.ofDigits] at hvalue
  have hvalid : c.toNat.isValidChar := c.valid
  simp [Toml.codePoint?, hds, hvalue, hvalid, Char.ofNat_toNat]

namespace Text

/-! ### Characters that are shown -/

/-- Whether a character is a control, of either set, or a separator of lines or paragraphs. -/
def IsControl (c : Char) : Prop :=
  c.toNat ≤ 0x1f ∨ 0x7f ≤ c.toNat ∧ c.toNat ≤ 0x9f ∨ c.toNat = 0x2028 ∨ c.toNat = 0x2029

instance (c : Char) : Decidable (IsControl c) :=
  inferInstanceAs (Decidable (_ ∨ _))

lemma isUnshown_of_isControl {c : Char} (h : IsControl c) : isUnshown c = true := by
  rcases h with h | ⟨h, h'⟩ | h | h
  · have hmem : (0x0, 0x1f) ∈ unshownRanges := by decide +kernel
    exact isUnshown_of_mem hmem (Nat.zero_le _) h
  · have hmem : (0x7f, 0xa0) ∈ unshownRanges := by decide +kernel
    exact isUnshown_of_mem hmem h (Nat.le_succ_of_le h')
  all_goals
    have hmem : (0x2028, 0x202f) ∈ unshownRanges := by decide +kernel
    exact isUnshown_of_mem hmem (by omega) (by omega)

/-- Whether a character is one of those that every keyboard has. -/
def IsPlain (c : Char) : Prop :=
  0x20 ≤ c.toNat ∧ c.toNat ≤ 0x7e

instance (c : Char) : Decidable (IsPlain c) :=
  inferInstanceAs (Decidable (_ ∧ _))

lemma isWithin_eq_false {ranges : List (ℕ × ℕ)} (h : ∀ r ∈ ranges, r.2 < 0x20 ∨ 0x7e < r.1)
    {c : Char} (hc : IsPlain c) : isWithin ranges c = false := by
  refine List.any_eq_false.mpr fun r hr => ?_
  have hr := h r hr
  have hlo := hc.1
  have hhi := hc.2
  simp only [Bool.and_eq_true, decide_eq_true_eq]
  omega

lemma isUnshown_of_isPlain {c : Char} (h : IsPlain c) : isUnshown c = false := by
  have hranges : ∀ r ∈ unshownRanges, r.2 < 0x20 ∨ 0x7e < r.1 := by decide +kernel
  have hmarks : ∀ r ∈ extendingMarks, r.2 < 0x20 ∨ 0x7e < r.1 := by decide +kernel
  have hfillers : ∀ n ∈ fillers, 0x7e < n := by decide
  have hfiller : c.toNat ∉ fillers := fun hmem => Nat.not_lt_of_le h.2 (hfillers _ hmem)
  simp [isUnshown, isWithin_eq_false hranges h, isWithin_eq_false hmarks h, hfiller]

lemma isUnshown_of_all_isPlain {text : List Char} (h : text.all (IsPlain ·)) {c : Char}
    (hc : c ∈ text) : isUnshown c = false :=
  isUnshown_of_isPlain (of_decide_eq_true (List.all_eq_true.mp h c hc))

lemma isPlain_of_mem_toDigits {base n : ℕ} (hbase : 1 < base) (hle : base ≤ 16) {c : Char}
    (hc : c ∈ Nat.toDigits base n) : IsPlain c := by
  obtain ⟨d, hd, rfl⟩ := exists_digitChar_of_mem_toDigits hbase hc
  have hplain : ∀ d < 16, IsPlain (Nat.digitChar d) := by decide
  exact hplain d (Nat.lt_of_lt_of_le hd hle)

/-- No character of a written form is left without a shape. -/
lemma isUnshown_of_mem_escape {c d : Char} (hd : d ∈ escape c) : isUnshown d = false := by
  unfold escape at hd
  split_ifs at hd with hnul htab hreturn hfeed hquote hbackslash hunshown
  · exact isUnshown_of_all_isPlain (by decide) hd
  · exact isUnshown_of_all_isPlain (by decide) hd
  · exact isUnshown_of_all_isPlain (by decide) hd
  · exact isUnshown_of_all_isPlain (by decide) hd
  · exact isUnshown_of_all_isPlain (by decide) hd
  · exact isUnshown_of_all_isPlain (by decide) hd
  · rcases List.mem_append.mp hd with hd | hd
    · rcases List.mem_append.mp hd with hd | hd
      · exact isUnshown_of_all_isPlain (by decide) hd
      · exact isUnshown_of_isPlain (isPlain_of_mem_toDigits (by decide) le_rfl hd)
    · exact isUnshown_of_all_isPlain (by decide) hd
  · -- a character that stands for itself has a shape
    rw [List.mem_singleton.mp hd]
    exact Bool.eq_false_iff.mpr hunshown

lemma isUnshown_of_mem_quote {text : List Char} {d : Char} (hd : d ∈ quote text) :
    isUnshown d = false := by
  rw [quote, List.mem_cons, List.mem_append, List.mem_flatMap, List.mem_singleton] at hd
  rcases hd with rfl | ⟨c, -, hd⟩ | rfl
  · exact isUnshown_of_isPlain (by decide)
  · exact isUnshown_of_mem_escape hd
  · exact isUnshown_of_isPlain (by decide)

/-! ### Reading back -/

/-- The character that a backslash and a letter stand for. -/
def shortEscape? : Char → Option Char
  | '0' => some '\x00'
  | 't' => some '\t'
  | 'r' => some '\r'
  | 'n' => some '\n'
  | '"' => some '"'
  | '\\' => some '\\'
  | _ => none

/-- Reads a quoted text behind its opening quote, up to the closing one, behind which there is
nothing.  The digits of a code point that has been begun are kept, the latest first. -/
def unescape : Option (List Char) → List Char → Option (List Char)
  | none, ['"'] => some []
  | none, '\\' :: 'u' :: '\x7b' :: rest => unescape (some []) rest
  | none, '\\' :: letter :: rest => do
    let c ← shortEscape? letter
    (c :: ·) <$> unescape none rest
  | none, c :: rest => if c = '"' || c = '\\' then none else (c :: ·) <$> unescape none rest
  | some digits, '\x7d' :: rest => do
    let c ← Toml.codePoint? digits.reverse
    (c :: ·) <$> unescape none rest
  | some digits, c :: rest => unescape (some (c :: digits)) rest
  | _, [] => none

/-- Reads a quoted text. -/
def unquote : List Char → Option (List Char)
  | '"' :: rest => unescape none rest
  | _ => none

lemma unescape_digits_append {digits : List Char} (h : '\x7d' ∉ digits) (older rest : List Char) :
    unescape (some older) (digits ++ '\x7d' :: rest) =
      (Toml.codePoint? (older.reverse ++ digits)).bind
        fun c => (c :: ·) <$> unescape none rest := by
  induction digits generalizing older with
  | nil =>
    rw [List.nil_append, unescape, List.append_nil]
    rfl
  | cons d digits ih =>
    rw [List.mem_cons, not_or] at h
    rw [List.cons_append, unescape, ih h.2]
    · simp
    · exact fun h' => h.1 h'.symm

/-- The written form of a character is read as this character, whatever stands behind it. -/
lemma unescape_escape_append (c : Char) (rest : List Char) :
    unescape none (escape c ++ rest) = (c :: ·) <$> unescape none rest := by
  unfold escape
  split_ifs with hnul htab hreturn hfeed hquote hbackslash hunshown
  · simp [unescape, shortEscape?, hnul]
  · simp [unescape, shortEscape?, htab]
  · simp [unescape, shortEscape?, hreturn]
  · simp [unescape, shortEscape?, hfeed]
  · simp [unescape, shortEscape?, hquote]
  · simp [unescape, shortEscape?, hbackslash]
  · have hdigits : '\x7d' ∉ Nat.toDigits 16 c.toNat := by
      intro hmem
      obtain ⟨d, hd, heq⟩ := exists_digitChar_of_mem_toDigits (by decide) hmem
      revert d
      decide
    have hread := unescape_digits_append hdigits [] rest
    rw [List.reverse_nil, List.nil_append, codePoint?_toDigits] at hread
    simpa [unescape] using hread
  · simp [unescape, hquote, hbackslash]

lemma unquote_quote (text : List Char) : unquote (quote text) = some text := by
  rw [quote, unquote]
  induction text with
  | nil => rfl
  | cons c text ih =>
    rw [List.flatMap_cons, List.append_assoc, unescape_escape_append, ih]
    rfl

end Text

/-! ### The message about a malformed line -/

namespace Malformed

/-- Reads a number, and gives what is left behind its digits. -/
def splitNumber (text : List Char) : ℕ × List Char :=
  (Nat.ofDigitChars 10 (text.takeWhile Char.isDigit) 0, text.dropWhile Char.isDigit)

/-- Reads the message about a malformed line. -/
def ofMessage? (message : String) : Option Malformed := do
  let rest ← "malformed report line ".toList.isPrefixOf? message.toList
  let (lineNo, rest) := splitNumber rest
  let rest ← ": expected `file:line:rule`, got ".toList.isPrefixOf? rest
  let (fields, rest) := splitNumber rest
  let rest ← " field(s) in ".toList.isPrefixOf? rest
  let content ← Text.unquote rest
  return ⟨lineNo, String.ofList content, fields⟩

/-- A number ends where a word begins that does not begin with a digit. -/
lemma splitNumber_toString_append (n : ℕ) {word : List Char}
    (hword : word.head?.map Char.isDigit = some false) (rest : List Char) :
    splitNumber ((toString n).toList ++ (word ++ rest)) = (n, word ++ rest) := by
  have hdigits : ∀ d ∈ Nat.toDigits 10 n, d.isDigit = true := fun d hd =>
    Nat.isDigit_of_mem_toDigits (by decide) (by decide) hd
  obtain ⟨c, hhead, hc⟩ := Option.map_eq_some_iff.mp hword
  obtain ⟨word, rfl⟩ := List.head?_eq_some_iff.mp hhead
  rw [splitNumber, Nat.toString_eq_repr, Nat.toList_repr, List.takeWhile_append_of_pos hdigits,
    List.dropWhile_append_of_pos hdigits]
  simp [hc]

lemma toList_message (m : Malformed) :
    m.message.toList = "malformed report line ".toList ++ ((toString m.lineNo).toList ++
      (": expected `file:line:rule`, got ".toList ++ ((toString m.fields).toList ++
        (" field(s) in ".toList ++ Text.quote m.content.toList)))) := by
  unfold message Text.quoted
  simp only [String.toList_append, String.toList_ofList, List.append_assoc]

/-- The message about a malformed line can be taken apart. -/
lemma ofMessage?_message (m : Malformed) : ofMessage? m.message = some m := by
  have hword : ∀ word rest : List Char, word.isPrefixOf? (word ++ rest) = some rest :=
    fun _ _ => List.isPrefixOf?_eq_some_iff_append_eq.mpr rfl
  have hexpected : ": expected `file:line:rule`, got ".toList.head?.map Char.isDigit =
      some false := by decide +kernel
  have hfields : " field(s) in ".toList.head?.map Char.isDigit = some false := by decide +kernel
  simp only [ofMessage?, toList_message, hword, splitNumber_toString_append _ hexpected,
    splitNumber_toString_append _ hfields, Text.unquote_quote, Option.bind_eq_bind,
    Option.bind_some, String.ofList_toList]
  rfl

lemma isUnshown_of_mem_message {m : Malformed} {c : Char} (hc : c ∈ m.message.toList) :
    Text.isUnshown c = false := by
  have hnumber : ∀ n : ℕ, c ∈ (toString n).toList → Text.isUnshown c = false := by
    intro n hc
    rw [Nat.toString_eq_repr, Nat.toList_repr] at hc
    exact Text.isUnshown_of_isPlain (Text.isPlain_of_mem_toDigits (by decide) (by decide) hc)
  rw [toList_message, List.mem_append, List.mem_append, List.mem_append, List.mem_append,
    List.mem_append] at hc
  rcases hc with hc | hc | hc | hc | hc | hc
  · exact Text.isUnshown_of_all_isPlain (by decide +kernel) hc
  · exact hnumber m.lineNo hc
  · exact Text.isUnshown_of_all_isPlain (by decide +kernel) hc
  · exact hnumber m.fields hc
  · exact Text.isUnshown_of_all_isPlain (by decide +kernel) hc
  · exact Text.isUnshown_of_mem_quote hc

/-- **The message about a malformed line tells the line and is one line.**  No character of the
message is a control, and all have a shape of their own, whatever the malformed line holds.  The
message ends in the quoted line, which can be read back from there.  So can the whole message:
position, number of fields and line are the only ones with this message. -/
theorem message_shown_and_read_back (m : Malformed) :
    (∀ c ∈ m.message.toList, ¬ Text.IsControl c ∧ Text.isUnshown c = false) ∧
      Text.linesOf m.message = [m.message] ∧
      (∃ front, m.message.toList = front ++ Text.quote m.content.toList) ∧
      Text.unquote (Text.quote m.content.toList) = some m.content.toList ∧
      ofMessage? m.message = some m ∧
      ∀ m' : Malformed, m'.message = m.message →
        m'.lineNo = m.lineNo ∧ m'.fields = m.fields ∧ m'.content = m.content := by
  have hcontrol : ∀ c ∈ m.message.toList, ¬ Text.IsControl c := by
    intro c hc h
    have hunshown := Text.isUnshown_of_isControl h
    rw [isUnshown_of_mem_message hc] at hunshown
    cases hunshown
  refine ⟨fun c hc => ⟨hcontrol c hc, isUnshown_of_mem_message hc⟩, ?_, ?_,
    Text.unquote_quote _, ofMessage?_message m, fun m' h => ?_⟩
  · have hone : Text.IsOneLine m.message.toList :=
      ⟨fun hc => hcontrol _ hc (by decide), fun hc => hcontrol _ hc (by decide)⟩
    have hne : m.message.toList ≠ [] := by
      rw [toList_message]
      exact List.append_ne_nil_of_left_ne_nil (by decide +kernel) _
    rw [Text.linesOf, Text.lines_of_isOneLine hone hne]
    simp
  · rw [toList_message]
    simp only [← List.append_assoc]
    exact ⟨_, rfl⟩
  · have hread := ofMessage?_message m'
    rw [h, ofMessage?_message] at hread
    cases hread
    exact ⟨rfl, rfl, rfl⟩

/-- A line with an escape in it, and with the characters that this escape and others stand for. -/
example : (⟨7, "\\n\n\"\x1b", 1⟩ : Malformed).message =
    "malformed report line 7: expected `file:line:rule`, got 1 field(s) in " ++
      "\"\\\\n\\n\\\"\\u\x7b1b\x7d\"" := by
  decide +kernel

end Malformed

end FindingsDigest
