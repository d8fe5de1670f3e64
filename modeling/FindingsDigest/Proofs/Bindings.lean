/-
# Bindings in a settings file

A binding is written as its key, without quotes, an equals sign and a word: a boolean, or an
integer in decimal.  It is read back with whatever comes behind it, as long as that does not go on
with the word (`binding?_bindingText_append`); the same holds with another key and a point in front
(`binding?_point_append`).

Bindings between braces are read one after the other into one table.  Each must find its key free,
so the law for them speaks of the bindings read before as well (`bindings?_bracesText_append`).
-/
import FindingsDigest.Proofs.Digits
import FindingsDigest.Toml.Document
import Mathlib.Data.List.Nodup

namespace FindingsDigest

namespace Toml

/-! ### Keys without quotes -/

/-- Whether a text is a row of letters, digits, dashes and underscores. -/
structure IsBare (text : List Char) : Prop where
  ne_nil : text ≠ []
  isKeyChar : ∀ c ∈ text, isKeyChar c = true

instance (text : List Char) : Decidable (IsBare text) :=
  decidable_of_iff (text ≠ [] ∧ text.all isKeyChar = true)
    ⟨fun ⟨h₁, h₂⟩ => ⟨h₁, List.all_eq_true.mp h₂⟩, fun ⟨h₁, h₂⟩ => ⟨h₁, List.all_eq_true.mpr h₂⟩⟩

lemma ne_of_isKeyChar {c d : Char} (hc : isKeyChar c = true) (hd : isKeyChar d = false) :
    c ≠ d := by
  rintro rfl
  rw [hc] at hd
  cases hd

lemma isBlank_of_isKeyChar {c : Char} (hc : isKeyChar c = true) : isBlank c = false := by
  have hspace : c ≠ ' ' := ne_of_isKeyChar hc (by decide)
  have htab : c ≠ '\t' := ne_of_isKeyChar hc (by decide)
  simp [isBlank, hspace, htab]

lemma isWordChar_of_isKeyChar {c : Char} (hc : isKeyChar c = true) : isWordChar c = true := by
  have hend : c ∉ ['\n', '\r', '#', ',', '=', '[', ']', '\x7b', '\x7d'] := by
    intro hmem
    have hnone :
        ['\n', '\r', '#', ',', '=', '[', ']', '\x7b', '\x7d'].all (!isKeyChar ·) = true := by
      decide
    have hfalse : isKeyChar c = false := by simpa using List.all_eq_true.mp hnone c hmem
    exact ne_of_isKeyChar hc hfalse rfl
  rw [isWordChar, isBlank_of_isKeyChar hc]
  simpa using hend

namespace IsBare

variable {text rest : List Char} (h : IsBare text)
include h

lemma exists_eq_cons : ∃ c cs, text = c :: cs ∧ Toml.isKeyChar c = true := by
  obtain ⟨c, cs, rfl⟩ := List.exists_cons_of_ne_nil h.ne_nil
  exact ⟨c, cs, rfl, h.isKeyChar c List.mem_cons_self⟩

lemma skipBlanks_append (rest : List Char) : skipBlanks (text ++ rest) = text ++ rest := by
  obtain ⟨c, cs, rfl, hc⟩ := h.exists_eq_cons
  rw [List.cons_append, skipBlanks, List.dropWhile_cons_of_neg (by simp [isBlank_of_isKeyChar hc])]

lemma skipGap_append (rest : List Char) : skipGap (text ++ rest) = text ++ rest := by
  obtain ⟨c, cs, rfl, hc⟩ := h.exists_eq_cons
  have hfeed : c ≠ '\n' := ne_of_isKeyChar hc (by decide)
  have hreturn : c ≠ '\r' := ne_of_isKeyChar hc (by decide)
  have hcomment : c ≠ '#' := ne_of_isKeyChar hc (by decide)
  rw [List.cons_append, skipGap, skipGapFrom]
  · simp [isBlank_of_isKeyChar hc, hcomment]
  · exact hfeed
  · exact fun _ heq _ => hreturn heq

lemma lineRest?_append (rest : List Char) : lineRest? (text ++ rest) = none := by
  rw [lineRest?, h.skipBlanks_append]
  obtain ⟨c, cs, rfl, hc⟩ := h.exists_eq_cons
  have hfeed : c ≠ '\n' := ne_of_isKeyChar hc (by decide)
  have hreturn : c ≠ '\r' := ne_of_isKeyChar hc (by decide)
  have hcomment : c ≠ '#' := ne_of_isKeyChar hc (by decide)
  have hskip : skipComment (c :: cs ++ rest) = c :: (cs ++ rest) := by
    rw [List.cons_append, skipComment]
    exact fun _ heq => hcomment (List.cons.inj heq).1
  rw [hskip]
  simp only
  rw [lineEnd?]
  · exact fun _ heq => hfeed (List.cons.inj heq).1
  · exact fun _ heq => hreturn (List.cons.inj heq).1

/-- A key ends at the first other character. -/
lemma key?_append {c : Char} (hc : Toml.isKeyChar c = false) (rest : List Char) :
    key? (text ++ c :: rest) = some (String.ofList text, c :: rest) := by
  have hword : (text ++ c :: rest).takeWhile Toml.isKeyChar = text := by
    rw [List.takeWhile_append_of_pos h.isKeyChar, List.takeWhile_cons_of_neg (by simp [hc]),
      List.append_nil]
  have hne : text.isEmpty = false := by simp [h.ne_nil]
  simp [key?, hword, hne]

lemma dottedKeyIn?_append (most : ℕ) (rest : List Char) :
    dottedKeyIn? (most + 1) (text ++ ' ' :: '=' :: rest) =
      some (([], String.ofList text), '=' :: rest) := by
  rw [dottedKeyIn?, h.key?_append (by decide)]
  rfl

lemma dottedKey?_append (rest : List Char) :
    dottedKey? (text ++ ' ' :: '=' :: rest) = some (([], String.ofList text), '=' :: rest) :=
  h.dottedKeyIn?_append _ rest

/-- A dotted key of two keys. -/
lemma dottedKey?_append_point {front : List Char} (hfront : IsBare front) (rest : List Char) :
    dottedKey? (front ++ '.' :: (text ++ ' ' :: '=' :: rest)) =
      some (([String.ofList front], String.ofList text), '=' :: rest) := by
  have hpoint : skipBlanks ('.' :: (text ++ ' ' :: '=' :: rest)) =
    '.' :: (text ++ ' ' :: '=' :: rest) := rfl
  rw [dottedKey?, deepest, dottedKeyIn?, hfront.key?_append (by decide)]
  simp only [Option.bind_eq_bind, Option.bind_some, hpoint, h.skipBlanks_append,
    h.dottedKeyIn?_append]
  rfl

lemma wordFrom_append (rest : List Char) :
    wordFrom [] (text ++ rest) = text ++ wordFrom [] rest := by
  obtain ⟨-, hkey⟩ := h
  induction text with
  | nil => rfl
  | cons c cs ih =>
    have hc := hkey c List.mem_cons_self
    rw [List.cons_append, wordFrom, isBlank_of_isKeyChar hc, isWordChar_of_isKeyChar hc,
      ih fun d hd => hkey d (List.mem_cons_of_mem c hd)]
    simp

end IsBare

/-! ### Words -/

/-- A boolean or an integer. -/
inductive Word where
  | boolean (b : Bool)
  | integer (n : ℤ)
  deriving DecidableEq, Repr

namespace Word

/-- The value that a word stands for. -/
def value : Word → Value
  | boolean b => .boolean b
  | integer n => .integer n

/-- How a word is written, an integer in decimal. -/
def text : Word → String
  | boolean true => "true"
  | boolean false => "false"
  | integer n => toString n

lemma isBare_text (w : Word) : IsBare w.text.toList := by
  cases w with
  | boolean b => cases b <;> decide
  | integer n =>
    have hdigits : ∀ m : ℕ, IsBare m.repr.toList := by
      intro m
      rw [Nat.toList_repr]
      refine ⟨Nat.toDigits_ne_nil, fun c hc => ?_⟩
      have hdigit : c.isDigit = true := Nat.isDigit_of_mem_toDigits (by decide) (by decide) hc
      simp [isKeyChar, Char.isAlphanum, hdigit]
    rw [text, Int.toString_eq_repr, Int.repr_eq_if]
    split
    · exact hdigits _
    · rw [String.toList_append]
      refine ⟨by simp, fun c hc => ?_⟩
      rcases List.mem_append.mp hc with hc | hc
      · obtain rfl : c = '-' := by simpa using hc
        decide
      · exact (hdigits _).isKeyChar c hc

lemma word?_text (w : Word) : word? w.text.toList = some w.value := by
  cases w with
  | boolean b => cases b <;> rfl
  | integer n =>
    have hinteger : integer? (toString n).toList = some n := integer?_toString n
    -- a boolean is not read as an integer
    have htrue : (toString n).toList ≠ ['t', 'r', 'u', 'e'] := by
      intro heq
      rw [heq] at hinteger
      cases hinteger
    have hfalse : (toString n).toList ≠ ['f', 'a', 'l', 's', 'e'] := by
      intro heq
      rw [heq] at hinteger
      cases hinteger
    rw [text, word?, if_neg htrue, if_neg hfalse, hinteger]
    rfl

/-- A word is read in front of what does not belong to it. -/
lemma valueIn?_text_append (w : Word) (levels : ℕ) {rest : List Char}
    (hrest : wordFrom [] rest = []) :
    valueIn? levels (w.text.toList ++ rest) = some (w.value, rest) := by
  have hword : wordInFront (w.text.toList ++ rest) = w.text.toList := by
    rw [wordInFront, w.isBare_text.wordFrom_append, hrest, List.append_nil]
  obtain ⟨c, cs, htext, hc⟩ := w.isBare_text.exists_eq_cons
  have hcons : w.text.toList ++ rest = c :: (cs ++ rest) := by rw [htext, List.cons_append]
  have hother : ∀ d, isKeyChar d = false → c ≠ d := fun _ => ne_of_isKeyChar hc
  have hplain : valueIn? levels (c :: (cs ++ rest)) =
      (word? (wordInFront (c :: (cs ++ rest)))).bind fun v =>
        some (v, (c :: (cs ++ rest)).drop (wordInFront (c :: (cs ++ rest))).length) := by
    unfold valueIn?
    split
    · next heq => exact absurd (List.cons.inj heq).1 (hother '[' (by decide))
    · next heq => exact absurd (List.cons.inj heq).1 (hother '\x7b' (by decide))
    · next heq => exact absurd (List.cons.inj heq).1 (hother '"' (by decide))
    · next heq => exact absurd (List.cons.inj heq).1 (hother '\'' (by decide))
    · rfl
  rw [hcons, hplain, ← hcons, hword, w.word?_text, Option.bind_some, List.drop_left]

end Word

/-! ### Bindings -/

/-- How a key is bound to a word in writing. -/
def bindingText (b : String × Word) : String :=
  b.1 ++ " = " ++ b.2.text

/-- Whether bindings may stand together in a table: their keys can be written without quotes, and
none is bound twice. -/
structure IsTable (bs : List (String × Word)) : Prop where
  isBare : ∀ b ∈ bs, IsBare b.1.toList
  nodup : (bs.map Prod.fst).Nodup

/-- The bindings with the values that their words stand for. -/
def entriesOf (bs : List (String × Word)) : Entries :=
  bs.map fun b => (b.1, b.2.value)

instance (bs : List (String × Word)) : Decidable (IsTable bs) :=
  decidable_of_iff ((∀ b ∈ bs, IsBare b.1.toList) ∧ (bs.map Prod.fst).Nodup)
    ⟨fun ⟨h₁, h₂⟩ => ⟨h₁, h₂⟩, fun ⟨h₁, h₂⟩ => ⟨h₁, h₂⟩⟩

lemma IsTable.singleton {bs : List (String × Word)} {b : String × Word} (h : IsTable bs)
    (hb : b ∈ bs) : IsTable [b] :=
  ⟨by simpa using h.isBare b hb, by simp⟩

lemma map_fst_entriesOf (bs : List (String × Word)) :
    (entriesOf bs).map Prod.fst = bs.map Prod.fst := by
  simp [entriesOf]

lemma lookup_entriesOf (bs : List (String × Word)) (key : String) :
    (entriesOf bs).lookup key = (bs.lookup key).map Word.value := by
  induction bs with
  | nil => rfl
  | cons b bs ih =>
    rw [entriesOf] at ih ⊢
    rw [List.map_cons, List.lookup_cons, List.lookup_cons, ih]
    split <;> rfl

lemma toList_bindingText (b : String × Word) :
    (bindingText b).toList = b.1.toList ++ ' ' :: '=' :: ' ' :: b.2.text.toList := by
  simp [bindingText]

variable {b : String × Word} {bs : List (String × Word)} {rest : List Char}

lemma binding?_bindingText_append (hkey : IsBare b.1.toList) (hrest : wordFrom [] rest = []) :
    binding? ((bindingText b).toList ++ rest) = some (.binding [] b.1 b.2.value, rest) := by
  have hblank : skipBlanks (' ' :: (b.2.text.toList ++ rest)) = b.2.text.toList ++ rest :=
    b.2.isBare_text.skipBlanks_append rest
  rw [toList_bindingText, List.append_assoc, binding?]
  simp only [List.cons_append, hkey.dottedKey?_append, Option.bind_eq_bind, Option.bind_some,
    hblank, value?, b.2.valueIn?_text_append deepest hrest, String.ofList_toList]
  rfl

/-- A binding with another key in front, after which comes a point. -/
lemma binding?_point_append {front : String} (hfront : IsBare front.toList)
    (hkey : IsBare b.1.toList) (hrest : wordFrom [] rest = []) :
    binding? (front.toList ++ '.' :: ((bindingText b).toList ++ rest)) =
      some (.binding [front] b.1 b.2.value, rest) := by
  have hblank : skipBlanks (' ' :: (b.2.text.toList ++ rest)) = b.2.text.toList ++ rest :=
    b.2.isBare_text.skipBlanks_append rest
  rw [toList_bindingText, List.append_assoc, binding?]
  simp only [List.cons_append, hkey.dottedKey?_append_point hfront, Option.bind_eq_bind,
    Option.bind_some, hblank, value?, b.2.valueIn?_text_append deepest hrest, String.ofList_toList]
  rfl

/-! ### Bindings in braces -/

/-- How bindings are written between braces, with the brace that ends them. -/
def bracesText (bs : List (String × Word)) : String :=
  ",".intercalate (bs.map fun b => " " ++ bindingText b) ++ " \x7d"

lemma lookup_eq_none_of_not_mem {es : Entries} {key : String} (h : key ∉ es.map Prod.fst) :
    es.lookup key = none := by
  refine List.lookup_eq_none_iff.mpr fun e he => ?_
  have hne : key ≠ e.1 := fun heq => h (heq ▸ List.mem_map_of_mem he)
  simpa using hne

lemma bind?_of_not_mem {es : Entries} {key : String} (h : key ∉ es.map Prod.fst) (v : Value) :
    Entries.bind? key v es = some (es ++ [(key, v)]) := by
  rw [Entries.bind?, lookup_eq_none_of_not_mem h]

lemma assign?_nil (key : String) (v : Value) (es : Entries) :
    Entries.assign? [] key v es = Entries.bind? key v es := rfl

lemma toList_bracesText_nil : (bracesText []).toList = [' ', '\x7d'] := by
  simp [bracesText]

lemma toList_bracesText_singleton (b : String × Word) :
    (bracesText [b]).toList = ' ' :: ((bindingText b).toList ++ [' ', '\x7d']) := by
  simp [bracesText]

lemma toList_bracesText_cons_cons (b next : String × Word) (bs : List (String × Word)) :
    (bracesText (b :: next :: bs)).toList =
      ' ' :: ((bindingText b).toList ++ ',' :: (bracesText (next :: bs)).toList) := by
  simp [bracesText, String.toList_intercalate]

lemma length_le_length_bracesText (bs : List (String × Word)) :
    bs.length ≤ (bracesText bs).toList.length := by
  induction bs with
  | nil => simp
  | cons b bs ih =>
    cases bs with
    | nil => simp [toList_bracesText_singleton]
    | cons next bs =>
      rw [toList_bracesText_cons_cons]
      simp only [List.length_cons, List.length_append] at ih ⊢
      omega

/-- One binding in braces is read, up to what follows it. -/
lemma bindings?_bindingText_append {levels n : ℕ} {es : Entries} (hkey : IsBare b.1.toList)
    (hnew : b.1 ∉ es.map Prod.fst) (hrest : wordFrom [] rest = []) :
    bindings? (valueIn? levels) (n + 1) es (' ' :: ((bindingText b).toList ++ rest)) =
      match skipGap rest with
      | ',' :: rest => bindings? (valueIn? levels) n (es ++ [(b.1, b.2.value)]) rest
      | '\x7d' :: rest => some (es ++ [(b.1, b.2.value)], rest)
      | _ => none := by
  have hkeyGap : skipGap (' ' :: ((bindingText b).toList ++ rest)) =
      b.1.toList ++ ' ' :: '=' :: ' ' :: (b.2.text.toList ++ rest) := by
    rw [toList_bindingText, List.append_assoc]
    exact hkey.skipGap_append _
  have hwordGap : skipGap (' ' :: (b.2.text.toList ++ rest)) = b.2.text.toList ++ rest :=
    b.2.isBare_text.skipGap_append rest
  have hequals : skipGap ('=' :: ' ' :: (b.2.text.toList ++ rest)) =
      '=' :: ' ' :: (b.2.text.toList ++ rest) := rfl
  obtain ⟨c, cs, htext, hc⟩ := hkey.exists_eq_cons
  rw [bindings?, hkeyGap]
  split
  · next heq =>
    rw [htext, List.cons_append] at heq
    exact absurd (List.cons.inj heq).1 (ne_of_isKeyChar hc (by decide))
  · simp only [hkey.dottedKey?_append, Option.bind_eq_bind, Option.bind_some, hequals, hwordGap,
      b.2.valueIn?_text_append levels hrest, assign?_nil, String.ofList_toList,
      bind?_of_not_mem hnew]
    rfl

lemma not_mem_of_nodup_append_cons {keys later : List String} {key : String}
    (h : (keys ++ key :: later).Nodup) : key ∉ keys :=
  fun hmem => (List.nodup_cons.mp (List.nodup_middle.mp h)).1 (List.mem_append_left later hmem)

lemma bindings?_bracesText_append {levels n : ℕ} {es : Entries}
    (hkeys : ∀ b ∈ bs, IsBare b.1.toList) (hnew : (es.map Prod.fst ++ bs.map Prod.fst).Nodup)
    (hrounds : bs.length < n) (rest : List Char) :
    bindings? (valueIn? levels) n es ((bracesText bs).toList ++ rest) =
      some (es ++ entriesOf bs, rest) := by
  induction bs generalizing n es with
  | nil =>
    obtain ⟨n, rfl⟩ := Nat.exists_eq_succ_of_ne_zero (Nat.ne_of_gt hrounds)
    rw [toList_bracesText_nil, bindings?]
    simp [entriesOf, skipGap, skipGapFrom, isBlank]
  | cons b bs ih =>
    obtain ⟨n, rfl⟩ := Nat.exists_eq_succ_of_ne_zero (Nat.ne_of_gt (Nat.zero_lt_of_lt hrounds))
    have hkey : IsBare b.1.toList := hkeys b List.mem_cons_self
    have hfree : b.1 ∉ es.map Prod.fst := not_mem_of_nodup_append_cons hnew
    cases bs with
    | nil =>
      rw [toList_bracesText_singleton, List.cons_append, List.append_assoc,
        bindings?_bindingText_append hkey hfree (by rfl)]
      rfl
    | cons next bs =>
      have hlater : ((es ++ [(b.1, b.2.value)]).map Prod.fst ++
          (next :: bs).map Prod.fst).Nodup := by simpa using hnew
      rw [toList_bracesText_cons_cons, List.cons_append, List.append_assoc,
        bindings?_bindingText_append hkey hfree (by rfl)]
      have hrest := ih (fun b hb => hkeys b (List.mem_cons_of_mem _ hb)) hlater
        (Nat.lt_of_succ_lt_succ hrounds)
      refine hrest.trans ?_
      simp [entriesOf]

/-- A table in braces is read as a value. -/
lemma value?_braces_append (h : IsTable bs) (rest : List Char) :
    value? ('\x7b' :: ((bracesText bs).toList ++ rest)) =
      some (.table .braces (entriesOf bs), rest) := by
  have hrounds : bs.length < ((bracesText bs).toList ++ rest).length + 1 := by
    have hlength := length_le_length_bracesText bs
    rw [List.length_append]
    omega
  have hnew : (([] : Entries).map Prod.fst ++ bs.map Prod.fst).Nodup := h.nodup
  rw [value?, deepest, valueIn?]
  simp only [bindings?_bracesText_append h.isBare hnew hrounds, Option.bind_eq_bind,
    Option.bind_some, List.nil_append]
  rfl

end Toml

end FindingsDigest
