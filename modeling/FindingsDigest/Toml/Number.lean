/-
# Numbers of a TOML document

An integer is a run of decimal digits with an optional sign, or a run of hexadecimal, octal or
binary digits after `0x`, `0o` or `0b` and without a sign.  A number in floating point notation
has a fraction, an exponent or both, or is one of the words `inf` and `nan`.

Single underscores may stand between digits and mean nothing.  A decimal run in front of the
point does not begin with zero unless it is zero.

An integer is checked in two steps.  A word that cannot be meant as a number makes the document
invalid.  A word that begins as an integer does (`beginsAsInteger`) but does not go on as one is
misspelt, which only matters to a reader who asks for its value.
-/
import FindingsDigest.Toml.Text
import FindingsDigest.Toml.Value

namespace FindingsDigest.Toml

/-- The values of a run of digits of a base, with single underscores between them. -/
def digits? (base : Nat) : List Char → Option (List Nat)
  | [] => none
  | [c] => (digit? c).map ([·])
  | c :: '_' :: r => do return (← digit? c) :: (← digits? base r)
  | c :: r => do return (← digit? c) :: (← digits? base r)
where
  /-- The value of one digit of the base. -/
  digit? (c : Char) : Option Nat := (hexDigit? c).filter (· < base)

/-- The number with the given digits, the first of which counts most. -/
def ofDigits (base : Nat) (ds : List Nat) : Nat :=
  ds.foldl (fun n d => base * n + d) 0

/-- The sign in front, true if it is a minus, and what follows it. -/
def splitSign : List Char → Bool × List Char
  | '-' :: r => (true, r)
  | '+' :: r => (false, r)
  | s => (false, s)

/-- The digits of a decimal run that does not begin with a needless zero. -/
def wholeDigits? (s : List Char) : Option (List Nat) :=
  match s with
  | '0' :: _ :: _ => none
  | _ => digits? 10 s

/-- Reads an integer. -/
def integer? (token : List Char) : Option Int :=
  match token with
  | '0' :: 'x' :: r => (digits? 16 r).map fun ds => (ofDigits 16 ds : Int)
  | '0' :: 'o' :: r => (digits? 8 r).map fun ds => (ofDigits 8 ds : Int)
  | '0' :: 'b' :: r => (digits? 2 r).map fun ds => (ofDigits 2 ds : Int)
  | _ =>
    let (negative, r) := splitSign token
    (wholeDigits? r).map fun ds =>
      if negative then -(ofDigits 10 ds : Int) else (ofDigits 10 ds : Int)

/-- Whether underscores stand only between hexadecimal digits; `afterDigit` tells that such a
digit comes right before. -/
def underscoresJoin (afterDigit : Bool) : List Char → Bool
  | [] => true
  | ['_'] => false
  | '_' :: c :: r => afterDigit && (hexDigit? c).isSome && underscoresJoin true r
  | c :: r => underscoresJoin (hexDigit? c).isSome r

/-- Whether a word begins as an integer does: with a base that no digit follows, or with decimal
digits and an underscore.  After these may come anything but a space, a point or the letter of an
exponent, as long as the underscores stand where they may in an integer of some base. -/
def beginsAsInteger (token : List Char) : Bool :=
  if [['0', 'x'], ['0', 'o'], ['0', 'b']].contains token then true
  else
    let (_, r) := splitSign token
    let rest := r.dropWhile Char.isDigit
    rest.head? = some '_' && r.head? ≠ some '0' &&
      !rest.any ([' ', '.', 'e', 'E'].contains ·) && underscoresJoin false r

/-- Reads an exponent with its mark; where there is none it is zero. -/
def exponent? : List Char → Option Int
  | [] => some 0
  | mark :: r =>
    if mark = 'e' || mark = 'E' then
      let (negative, r) := splitSign r
      (digits? 10 r).map fun ds =>
        if negative then -(ofDigits 10 ds : Int) else (ofDigits 10 ds : Int)
    else none

/-- Reads a fraction with its point; where there is none it has no digits. -/
def fraction? : List Char → Option (List Nat)
  | [] => some []
  | '.' :: r => digits? 10 r
  | _ => none

/-- Reads a number in floating point notation. -/
def decimal? (token : List Char) : Option Decimal :=
  let (negative, r) := splitSign token
  if r = ['i', 'n', 'f'] then some .infinite
  else if r = ['n', 'a', 'n'] then some .undefined
  else
    let mantissa := r.takeWhile fun c => c ≠ 'e' && c ≠ 'E'
    let whole := mantissa.takeWhile (· ≠ '.')
    if whole.length = r.length then none
    else do
      let exponent ← exponent? (r.drop mantissa.length)
      let fraction ← fraction? (mantissa.drop whole.length)
      let digits := (← wholeDigits? whole) ++ fraction
      return .finite negative (ofDigits 10 digits) (exponent - fraction.length)

end FindingsDigest.Toml
