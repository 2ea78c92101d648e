/-! # Dates

Days of the proleptic Gregorian calendar in the years 1 to 9999, and moments on such a day with an
optional distance from universal time. Building one from its parts checks them in a fixed order
and names the first that is out of range (`Calendar.Fault`). -/

namespace GuardedDispatch.Calendar

/-- A **day**, by year, month and day of the month. -/
structure Date where
  year : Nat
  month : Nat
  day : Nat
  deriving DecidableEq, Repr

/-- A **moment**: a day, a time of day with microseconds, and the distance of its clock from
universal time in minutes, if known. -/
structure Moment where
  date : Date
  hour : Nat
  minute : Nat
  second : Nat
  microsecond : Nat
  offset : Option Int
  deriving DecidableEq, Repr

/-- The first part of a date that is out of range. -/
inductive Fault where
  /-- The year is not between 1 and 9999. -/
  | year (value : Nat)
  /-- The month is not between 1 and 12. -/
  | month
  /-- The month has no such day. -/
  | day
  /-- The hour is not between 0 and 23. -/
  | hour
  /-- The minute is not between 0 and 59. -/
  | minute
  /-- The second is not between 0 and 59. -/
  | second
  /-- The distance from universal time, in minutes, is a day or more. -/
  | offset (minutes : Int)
  deriving DecidableEq, Repr

/-- Whether a year has a 29th of February. -/
def isLeap (year : Nat) : Bool :=
  year % 4 = 0 && (year % 100 ≠ 0 || year % 400 = 0)

/-- The number of days of a month. -/
def daysInMonth (year month : Nat) : Nat :=
  if month = 2 then (if isLeap year then 29 else 28)
  else if month = 4 ∨ month = 6 ∨ month = 9 ∨ month = 11 then 30
  else 31

/-- The day with the given parts. -/
def Date.ofParts (year month day : Nat) : Except Fault Date :=
  if year < 1 ∨ 9999 < year then .error (.year year)
  else if month < 1 ∨ 12 < month then .error .month
  else if day < 1 ∨ daysInMonth year month < day then .error .day
  else .ok ⟨year, month, day⟩

/-- The number of minutes in a day. -/
def minutesPerDay : Int := 24 * 60

/-- The moment with the given parts; the distance from universal time is checked first. -/
def Moment.ofParts (year month day hour minute second microsecond : Nat) (offset : Option Int) :
    Except Fault Moment := do
  if let some minutes := offset then
    if minutes ≤ -minutesPerDay ∨ minutesPerDay ≤ minutes then throw (.offset minutes)
  let date ← Date.ofParts year month day
  if 23 < hour then throw .hour
  if 59 < minute then throw .minute
  if 59 < second then throw .second
  return ⟨date, hour, minute, second, microsecond, offset⟩

/-- The number of a day, counted from the first day of the calendar. -/
def Date.number (d : Date) : Nat :=
  let years := d.year - 1
  let months :=
    (List.range (d.month - 1)).foldl (fun days m => days + daysInMonth d.year (m + 1)) 0
  365 * years + years / 4 - years / 100 + years / 400 + months + d.day

/-- The microseconds from the start of the calendar to a moment at a distance from universal time.
-/
def Moment.instant (m : Moment) (offset : Int) : Int :=
  let minutes := (m.date.number * 24 + m.hour) * 60 + m.minute - offset
  (minutes * 60 + m.second) * 1000000 + m.microsecond

/-- Whether two moments are **the same**: the same instant if both tell their distance from
universal time, and otherwise alike in all parts. -/
def Moment.same (a b : Moment) : Bool :=
  match a.offset, b.offset with
  | some x, some y => a.instant x == b.instant y
  | _, _ => a == b

/-- A number with zeros in front, at least `width` digits long. -/
def digits (width n : Nat) : String :=
  let text := toString n
  String.ofList (List.replicate (width - text.length) '0') ++ text

/-- A day as year, month and day between hyphens. -/
def Date.text (d : Date) : String :=
  digits 4 d.year ++ "-" ++ digits 2 d.month ++ "-" ++ digits 2 d.day

/-- A distance from universal time as a sign, hours and minutes. -/
def offsetText (minutes : Int) : String :=
  (if minutes < 0 then "-" else "+") ++ digits 2 (minutes.natAbs / 60) ++ ":" ++
    digits 2 (minutes.natAbs % 60)

/-- A moment with `separator` between the day and the time of day. -/
def Moment.text (separator : String) (m : Moment) : String :=
  m.date.text ++ separator ++ digits 2 m.hour ++ ":" ++ digits 2 m.minute ++ ":" ++
    digits 2 m.second ++ (if m.microsecond = 0 then "" else "." ++ digits 6 m.microsecond) ++
    (m.offset.map offsetText).getD ""

/-- A length of time as whole days, which may be negative, and the seconds past them. -/
def spanParts (minutes : Int) : Int × Int :=
  (Int.fdiv minutes minutesPerDay, Int.fmod minutes minutesPerDay * 60)

/-- The printed form of a length of time. -/
def spanQuoted (minutes : Int) : String :=
  let (days, seconds) := spanParts minutes
  let parts := (if days = 0 then [] else ["days=" ++ toString days]) ++
    (if seconds = 0 then [] else ["seconds=" ++ toString seconds])
  "datetime.timedelta(" ++ (if parts.isEmpty then "0" else ", ".intercalate parts) ++ ")"

/-- The printed form of a day inside a list or a map. -/
def Date.quoted (d : Date) : String :=
  "datetime.date(" ++ toString d.year ++ ", " ++ toString d.month ++ ", " ++ toString d.day ++ ")"

/-- The printed form of a distance from universal time. -/
def offsetQuoted (minutes : Int) : String :=
  if minutes = 0 then "datetime.timezone.utc"
  else "datetime.timezone(" ++ spanQuoted minutes ++ ")"

/-- The printed form of a moment inside a list or a map; seconds and microseconds that are zero are
left out from the end. -/
def Moment.quoted (m : Moment) : String :=
  let parts := [m.date.year, m.date.month, m.date.day, m.hour, m.minute] ++
    (if m.microsecond = 0 then (if m.second = 0 then [] else [m.second])
     else [m.second, m.microsecond])
  let zone := (m.offset.map fun minutes => ", tzinfo=" ++ offsetQuoted minutes).getD ""
  "datetime.datetime(" ++ ", ".intercalate (parts.map toString) ++ zone ++ ")"

/-- The text of a fault. -/
def Fault.message : Fault → String
  | .year value => "year " ++ toString value ++ " is out of range"
  | .month => "month must be in 1..12"
  | .day => "day is out of range for month"
  | .hour => "hour must be in 0..23"
  | .minute => "minute must be in 0..59"
  | .second => "second must be in 0..59"
  | .offset minutes =>
    "offset must be a timedelta strictly between -timedelta(hours=24) and timedelta(hours=24), " ++
      "not " ++ spanQuoted minutes ++ "."

/-- Only days of the calendar are built. -/
theorem Date.ofParts_eq_ok {year month day : Nat} {d : Date}
    (h : Date.ofParts year month day = .ok d) :
    d = ⟨year, month, day⟩ ∧ day ≤ daysInMonth year month := by
  unfold Date.ofParts at h
  split at h <;> try contradiction
  split at h <;> try contradiction
  split at h <;> try contradiction
  simp only [Except.ok.injEq] at h
  exact ⟨h.symm, by omega⟩

end GuardedDispatch.Calendar
