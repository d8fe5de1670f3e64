/-
# Dates and times of a TOML document

A date is written with four digits for the year and two for the month and the day; a time of
day with two digits for the hour, the minute and, if given, the second, which a fraction may
follow.  A date and a time are joined by the letter T of either case or by one space, and then
an offset from universal time may follow: the letter Z of either case, or a sign with hours and
minutes.

Only dates of the calendar are read, with a leap day where one is due, and only times of the
clock; the second may be 60, as it is when a leap second is inserted.
-/

namespace FindingsDigest.Toml

/-- The value of a decimal digit. -/
def clockDigit? (c : Char) : Option Nat :=
  if '0' ≤ c && c ≤ '9' then some (c.toNat - '0'.toNat) else none

/-- Reads two digits whose number is at most `most`. -/
def twoDigits? (most : Nat) : List Char → Option (Nat × List Char)
  | a :: b :: r => do
    let n := 10 * (← clockDigit? a) + (← clockDigit? b)
    if n ≤ most then some (n, r) else none
  | _ => none

/-- How many days a month of a year has. -/
def daysIn (year month : Nat) : Nat :=
  if month = 2 then
    if year % 4 = 0 && (year % 100 ≠ 0 || year % 400 = 0) then 29 else 28
  else if month = 4 || month = 6 || month = 9 || month = 11 then 30
  else 31

/-- What is left after a date. -/
def date? : List Char → Option (List Char)
  | a :: b :: c :: d :: '-' :: r => do
    let year := 1000 * (← clockDigit? a) + 100 * (← clockDigit? b) +
      10 * (← clockDigit? c) + (← clockDigit? d)
    let (month, r) ← twoDigits? 12 r
    match r with
    | '-' :: r =>
      let (day, r) ← twoDigits? (daysIn year month) r
      if 1 ≤ month && 1 ≤ day then some r else none
    | _ => none
  | _ => none

/-- What is left after the fraction of a second, if there is one. -/
def secondFraction? : List Char → Option (List Char)
  | '.' :: r =>
    let left := r.dropWhile fun c => (clockDigit? c).isSome
    if left.length < r.length then some left else none
  | r => some r

/-- What is left after a time of day. -/
def time? (s : List Char) : Option (List Char) := do
  let (_, r) ← twoDigits? 23 s
  match r with
  | ':' :: r =>
    let (_, r) ← twoDigits? 59 r
    match r with
    | ':' :: r =>
      let (_, r) ← twoDigits? 60 r
      secondFraction? r
    | _ => some r
  | _ => none

/-- Whether a text is an offset from universal time. -/
def isOffset : List Char → Bool
  | ['Z'] => true
  | ['z'] => true
  | sign :: r =>
    (sign = '+' || sign = '-') &&
      match twoDigits? 23 r with
      | some (_, ':' :: r) => (twoDigits? 59 r).any (·.2.isEmpty)
      | _ => false
  | [] => false

/-- Whether a text is a time of day with an offset or without. -/
def isClock (s : List Char) : Bool :=
  (time? s).any fun r => r.isEmpty || isOffset r

/-- Whether a text is a date, a time of day, or both. -/
def isMoment (s : List Char) : Bool :=
  match date? s with
  | some [] => true
  | some (joint :: r) => (joint = 'T' || joint = 't' || joint = ' ') && isClock r
  | none => (time? s).any (·.isEmpty)

end FindingsDigest.Toml
