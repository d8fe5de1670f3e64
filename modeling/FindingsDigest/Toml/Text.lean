/-
# Strings of a TOML document

A string stands between double quotes, where a backslash begins an escape, or between single
quotes, where every character stands for itself.  Quotes written three times enclose a string
of several lines; a line end right after the opening quotes does not belong to it, and up to
two quotes may stand directly before the closing ones.

A string is read in two steps.  First its end is found, for which it is enough to know which
quotes are escaped; then the body is decoded, and it is checked that it holds no control but
the tab and, between tripled quotes, line ends.
-/
import FindingsDigest.Toml.Space

namespace FindingsDigest.Toml

/-- The value of a hexadecimal digit of either case. -/
def hexDigit? (c : Char) : Option Nat :=
  if '0' ≤ c && c ≤ '9' then some (c.toNat - '0'.toNat)
  else if 'a' ≤ c && c ≤ 'f' then some (c.toNat - 'a'.toNat + 10)
  else if 'A' ≤ c && c ≤ 'F' then some (c.toNat - 'A'.toNat + 10)
  else none

/-- The character whose code point has the given hexadecimal digits, if there is one. -/
def codePoint? (digits : List Char) : Option Char := do
  let n := (← digits.mapM hexDigit?).foldl (fun n d => 16 * n + d) 0
  if n.isValidChar then some (Char.ofNat n) else none

/-- The character that a backslash followed by one letter stands for. -/
def shortEscape? : Char → Option Char
  | 'b' => some '\x08'
  | 't' => some '\t'
  | 'n' => some '\n'
  | 'f' => some '\x0c'
  | 'r' => some '\r'
  | 'e' => some '\x1b'
  | '"' => some '"'
  | '\\' => some '\\'
  | _ => none

/-- Decodes the body of a string between double quotes.  A backslash at the end of a line takes
away all blanks and line ends up to the next other character; `joining` tells that one is at
work. -/
def unescape (joining : Bool) : List Char → Option (List Char)
  | [] => some []
  | '\n' :: r => if joining then unescape true r else ('\n' :: ·) <$> unescape false r
  | '\r' :: '\n' :: r => if joining then unescape true r else ('\n' :: ·) <$> unescape false r
  | ' ' :: r => if joining then unescape true r else (' ' :: ·) <$> unescape false r
  | '\t' :: r => if joining then unescape true r else ('\t' :: ·) <$> unescape false r
  | '\\' :: 'x' :: a :: b :: r => do
    let c ← codePoint? [a, b]
    (c :: ·) <$> unescape false r
  | '\\' :: 'u' :: a :: b :: c :: d :: r => do
    let x ← codePoint? [a, b, c, d]
    (x :: ·) <$> unescape false r
  | '\\' :: 'U' :: a :: b :: c :: d :: e :: f :: g :: h :: r => do
    let x ← codePoint? [a, b, c, d, e, f, g, h]
    (x :: ·) <$> unescape false r
  | '\\' :: c :: r =>
    match shortEscape? c with
    | some x => (x :: ·) <$> unescape false r
    | none => if (lineEnd? (skipBlanks (c :: r))).isSome then unescape true (c :: r) else none
  | c :: r => if isPlain c && c ≠ '\\' then (c :: ·) <$> unescape false r else none

/-- The body of a string up to the double quote that ends it, and what is left after that;
`escaped` tells that a backslash comes right before. -/
def splitEscaped (escaped : Bool) : List Char → Option (List Char × List Char)
  | [] => none
  | c :: r =>
    if c = '"' && !escaped then some ([], r)
    else (splitEscaped (c = '\\' && !escaped) r).map fun p => (c :: p.1, p.2)

/-- The body of a string up to the tripled double quotes that end it, and what is left. -/
def splitEscapedLong (escaped : Bool) : List Char → Option (List Char × List Char)
  | [] => none
  | c :: r =>
    if c = '"' && !escaped && r.take 2 = ['"', '"'] then
      let more := ((r.drop 2).take 2).takeWhile (· = '"')
      some (more, r.drop (2 + more.length))
    else (splitEscapedLong (c = '\\' && !escaped) r).map fun p => (c :: p.1, p.2)

/-- The body of a string up to the tripled single quotes that end it, and what is left. -/
def splitLiteralLong : List Char → Option (List Char × List Char)
  | [] => none
  | c :: r =>
    if c = '\'' && r.take 2 = ['\'', '\''] then
      let more := ((r.drop 2).take 2).takeWhile (· = '\'')
      some (more, r.drop (2 + more.length))
    else (splitLiteralLong r).map fun p => (c :: p.1, p.2)

/-- Whether a text holds no control but tabs and line ends. -/
def isLongText : List Char → Bool
  | [] => true
  | '\n' :: r => isLongText r
  | '\r' :: '\n' :: r => isLongText r
  | c :: r => isPlain c && isLongText r

/-- What is left after a line end in front, if there is one. -/
def dropLineEnd (s : List Char) : List Char :=
  (lineEnd? s).getD s

/-- Reads a string on one line. -/
def shortText? : List Char → Option (String × List Char)
  | '"' :: s => do
    let (body, rest) ← splitEscaped false s
    if body.contains '\n' then none
    else return (String.ofList (← unescape false body), rest)
  | '\'' :: s =>
    let body := s.takeWhile (· ≠ '\'')
    match s.drop body.length with
    | '\'' :: rest => if body.all isPlain then some (String.ofList body, rest) else none
    | _ => none
  | _ => none

/-- Reads a string of either kind. -/
def text? : List Char → Option (String × List Char)
  | '"' :: '"' :: '"' :: s => do
    let (body, rest) ← splitEscapedLong false (dropLineEnd s)
    return (String.ofList (← unescape false body), rest)
  | '\'' :: '\'' :: '\'' :: s => do
    let (body, rest) ← splitLiteralLong (dropLineEnd s)
    if isLongText body then some (String.ofList body, rest) else none
  | s => shortText? s

end FindingsDigest.Toml
