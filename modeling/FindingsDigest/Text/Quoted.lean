/-
# Quoted text

A text is quoted between double quotes, on one line and without anything a terminal would act
on.  NUL, tab, line feed, carriage return, the double quote and the backslash have short
escapes; every other character without a shape of its own is written as its code point in
lower-case hexadecimal between braces; the rest stands for itself.

Since the backslash itself is escaped, `unquote` can undo each escape without looking further
than its own end.
-/
import FindingsDigest.Text.Unshown

namespace FindingsDigest.Text

/-- The written form of one character of a quoted text. -/
def escape (c : Char) : List Char :=
  if c = '\x00' then ['\\', '0']
  else if c = '\t' then ['\\', 't']
  else if c = '\r' then ['\\', 'r']
  else if c = '\n' then ['\\', 'n']
  else if c = '"' then ['\\', '"']
  else if c = '\\' then ['\\', '\\']
  else if isUnshown c then
    ['\\', 'u', '\x7b'] ++ Nat.toDigits 16 c.toNat ++ ['\x7d']
  else [c]

/-- A text between double quotes, every character in its written form. -/
def quote (text : List Char) : List Char :=
  '"' :: (text.flatMap escape ++ ['"'])

/-- A string between double quotes. -/
def quoted (text : String) : String :=
  String.ofList (quote text.toList)

end FindingsDigest.Text
