import GuardedDispatch.Calendar.Date
import GuardedDispatch.Decimal.Reading

/-! # Timestamps

Dates as texts: year, month and day between hyphens, and perhaps a time of day behind the letter T
or spacing, with a fraction of a second and the distance from universal time. The parts are read as
they are written (`Stamp.read?`); whether they make up a date is found out when it is built. -/

namespace GuardedDispatch.Calendar

/-- A **time of day** as it is written. -/
structure Clock where
  hour : Nat
  minute : Nat
  second : Nat
  microsecond : Nat
  offset : Option Int
  deriving DecidableEq, Repr

/-- A **timestamp** as it is written; in a full date the month and the day have two digits. -/
structure Stamp where
  year : Nat
  month : Nat
  day : Nat
  isFull : Bool
  clock : Option Clock
  deriving DecidableEq, Repr

namespace Stamp

/-- The digits at the front, between `least` and `most` of them, and what is left. -/
def digits? (least most : Nat) (cs : List Char) : Option (List Char × List Char) :=
  let digits := (cs.take most).takeWhile Char.isDigit
  if digits.length < least then none else some (digits, cs.drop digits.length)

/-- What is left behind a character at the front. -/
def mark? (c : Char) : List Char → Option (List Char)
  | d :: rest => if d = c then some rest else none
  | [] => none

/-- Whether a character is a space or a tab. -/
def isSpacing (c : Char) : Bool := c = ' ' || c = '\t'

/-- The microseconds that the digits of a fraction spell; digits after the sixth do not count. -/
def microseconds (fraction : List Char) : Nat :=
  Decimal.natural ((fraction ++ List.replicate 6 '0').take 6)

/-- The minutes of a distance from universal time, up to the end of the text. -/
def offsetMinutes? (cs : List Char) : Option Nat := do
  let (hours, rest) ← digits? 1 2 cs
  match rest with
  | [] => return Decimal.natural hours * 60
  | _ =>
    let (minutes, rest) ← digits? 2 2 (← mark? ':' rest)
    if rest.isEmpty then return Decimal.natural hours * 60 + Decimal.natural minutes else none

/-- The distance from universal time, up to the end of the text. -/
def zone? (cs : List Char) : Option (Option Int) :=
  if cs.isEmpty then some none
  else
    match cs.dropWhile isSpacing with
    | ['Z'] => some (some 0)
    | '+' :: rest => (offsetMinutes? rest).map fun minutes => some minutes
    | '-' :: rest => (offsetMinutes? rest).map fun minutes => some (-minutes)
    | _ => none

/-- The time of day, up to the end of the text. -/
def clock? (cs : List Char) : Option Clock := do
  let (hour, rest) ← digits? 1 2 cs
  let (minute, rest) ← digits? 2 2 (← mark? ':' rest)
  let (second, rest) ← digits? 2 2 (← mark? ':' rest)
  let (fraction, rest) :=
    match rest with
    | '.' :: more => (more.takeWhile Char.isDigit, more.dropWhile Char.isDigit)
    | _ => ([], rest)
  return ⟨Decimal.natural hour, Decimal.natural minute, Decimal.natural second,
    microseconds fraction, ← zone? rest⟩

/-- The place of the time of day behind the day. -/
def clockStart? : List Char → Option (List Char)
  | c :: rest =>
    if c = 'T' ∨ c = 't' then some rest
    else if isSpacing c then some (rest.dropWhile isSpacing)
    else none
  | [] => none

/-- The timestamp that a text **spells**. -/
def read? (cs : List Char) : Option Stamp := do
  let (year, rest) ← digits? 4 4 cs
  let (month, rest) ← digits? 1 2 (← mark? '-' rest)
  let (day, rest) ← digits? 1 2 (← mark? '-' rest)
  let clock ← if rest.isEmpty then some none else (clock? (← clockStart? rest)).map some
  return ⟨Decimal.natural year, Decimal.natural month, Decimal.natural day,
    month.length = 2 && day.length = 2, clock⟩

end Stamp

end GuardedDispatch.Calendar
