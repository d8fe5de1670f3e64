/-
# Keys and values of a TOML document

A key is a run of ASCII letters, digits, dashes and underscores, or a string on one line; a
dotted key is a row of keys with points between them.  A value is a string, an array, a table
in braces, or a word: a boolean, a number or a moment.

Arrays and tables in braces may hold each other, but not arbitrarily deep, so a value is read by
recursion on the levels that are still allowed; a dotted key, which leads as deep as it has
keys, obeys the same limit.  On each level the parts are read one after another; every part
takes at least one character, so the number of characters bounds the number of rounds.
-/
import FindingsDigest.Toml.Moment
import FindingsDigest.Toml.Number
import FindingsDigest.Toml.Table

namespace FindingsDigest.Toml

/-- How deep arrays and tables in braces may be nested, and how many keys a dotted key may
have. -/
def deepest : Nat := 80

/-! ### Keys -/

/-- A character of a key without quotes. -/
def isKeyChar (c : Char) : Bool :=
  c.isAlphanum || c = '-' || c = '_'

/-- Reads one key. -/
def key? (s : List Char) : Option (String × List Char) :=
  let word := s.takeWhile isKeyChar
  if word.isEmpty then shortText? s else some (String.ofList word, s.drop word.length)

/-- Reads a row of at most `most` keys: those before the last, and the last. -/
def dottedKeyIn? : (most : Nat) → List Char → Option ((List String × String) × List Char)
  | 0, _ => none
  | n + 1, s => do
    let (key, rest) ← key? s
    match skipBlanks rest with
    | '.' :: rest =>
      let ((path, last), rest) ← dottedKeyIn? n (skipBlanks rest)
      return ((key :: path, last), rest)
    | rest => return (([], key), rest)

/-- Reads a dotted key and the blanks after it: the keys before the last, and the last. -/
def dottedKey? (s : List Char) : Option ((List String × String) × List Char) :=
  dottedKeyIn? deepest s

/-! ### Words -/

/-- A character of a word. -/
def isWordChar (c : Char) : Bool :=
  !(isBlank c || ['\n', '\r', '#', ',', '=', '[', ']', '\x7b', '\x7d'].contains c)

/-- The value that a word stands for. -/
def word? (w : List Char) : Option Value :=
  if w = ['t', 'r', 'u', 'e'] then some (.boolean true)
  else if w = ['f', 'a', 'l', 's', 'e'] then some (.boolean false)
  else (integer? w).map .integer
    <|> (decimal? w).map .decimal
    <|> if isMoment w then some .moment
    else if beginsAsInteger w then some .misspelt
    else none

/-- The word in front, given the blanks that came right before, the latest first.  They belong
to the word if it goes on after them; a quote after blanks is not a part of it, for it begins a
string. -/
def wordFrom (blanks : List Char) : List Char → List Char
  | [] => []
  | c :: r =>
    if isBlank c then wordFrom (c :: blanks) r
    else if isWordChar c && (blanks.isEmpty || c ≠ '"' && c ≠ '\'') then
      blanks.reverse ++ c :: wordFrom [] r
    else []

/-- The word in front.  Blanks may stand inside it, as between a date and a time. -/
def wordInFront (s : List Char) : List Char :=
  wordFrom [] s

/-! ### Values -/

/-- Reads the items of an array and the bracket that ends it. -/
def items? (value? : List Char → Option (Value × List Char)) :
    (rounds : Nat) → List Char → Option (List Value × List Char)
  | 0, _ => none
  | n + 1, s =>
    match skipGap s with
    | ']' :: rest => some ([], rest)
    | s => do
      let (v, rest) ← value? s
      match skipGap rest with
      | ',' :: rest =>
        let (vs, rest) ← items? value? n rest
        return (v :: vs, rest)
      | ']' :: rest => return ([v], rest)
      | _ => none

/-- Reads the bindings of a table in braces and the brace that ends it. -/
def bindings? (value? : List Char → Option (Value × List Char)) :
    (rounds : Nat) → Entries → List Char → Option (Entries × List Char)
  | 0, _, _ => none
  | n + 1, es, s =>
    match skipGap s with
    | '\x7d' :: rest => some (es, rest)
    | s => do
      let ((path, key), rest) ← dottedKey? s
      match skipGap rest with
      | '=' :: rest =>
        let (v, rest) ← value? (skipGap rest)
        let es ← es.assign? path key v
        match skipGap rest with
        | ',' :: rest => bindings? value? n es rest
        | '\x7d' :: rest => return (es, rest)
        | _ => none
      | _ => none

/-- Reads a value that is nested at most `levels` deep. -/
def valueIn? (levels : Nat) (s : List Char) : Option (Value × List Char) :=
  match s with
  | '[' :: rest =>
    match levels with
    | 0 => none
    | n + 1 => do
      let (vs, rest) ← items? (valueIn? n) (rest.length + 1) rest
      return (.array vs, rest)
  | '\x7b' :: rest =>
    match levels with
    | 0 => none
    | n + 1 => do
      let (es, rest) ← bindings? (valueIn? n) (rest.length + 1) [] rest
      return (.table .braces es, rest)
  | '"' :: _ => (text? s).map fun p => (.text p.1, p.2)
  | '\'' :: _ => (text? s).map fun p => (.text p.1, p.2)
  | _ => do
    let w := wordInFront s
    return (← word? w, s.drop w.length)

/-- Reads a value. -/
def value? (s : List Char) : Option (Value × List Char) :=
  valueIn? deepest s

end FindingsDigest.Toml
