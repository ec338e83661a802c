/-!
# Points in time

A configuration may hold days, times of day, and days with a time of day, of which the last may say how far
their clock is from that of Greenwich.  Nothing here reckons with times.  They are values like others: they
are shown, and they can be the keys of a mapping, for which it has to be known when two of them are equal.
Two times that both name their clock are equal when they are the same instant; one that names it and one
that does not are never equal.

## Main definitions

* `Moment` — the three kinds of points in time.
* `Moment.same` — when two of them are equal.
* `Moment.shown`, `Moment.plain` — the form that could be read as an expression, and the form for people.
-/

namespace IntentSpec

/-- A day of the calendar. -/
structure Day where
  year : Nat
  month : Nat
  day : Nat
deriving DecidableEq, Repr

/-- A time of day, to the millionth of a second. -/
structure TimeOfDay where
  hour : Nat
  minute : Nat
  second : Nat
  micro : Nat
deriving DecidableEq, Repr

/-- A point in time as a configuration file can have it: a day, a time of day, or both, perhaps with
a distance from universal time. -/
inductive Moment where
  | date (day : Day)
  | time (t : TimeOfDay)
  /-- A day with a time of day, and the minutes by which its clock is ahead of that of Greenwich. -/
  | datetime (day : Day) (t : TimeOfDay) (ahead : Option Int)
deriving DecidableEq, Repr

/-- The number of a day, counted from a fixed one.  Years are taken to begin in March, so that a leap day is
the last of its year. -/
def Day.number (d : Day) : Nat :=
  let year := if d.month < 3 then d.year - 1 else d.year
  let month := if d.month < 3 then d.month + 9 else d.month - 3
  365 * year + year / 4 - year / 100 + year / 400 + (153 * month + 2) / 5 + d.day

/-- A number with zeros in front up to a width. -/
def paddedNat (width n : Nat) : String :=
  let digits := toString n
  String.ofList (List.replicate (width - digits.length) '0') ++ digits

namespace TimeOfDay

/-- The millionths of a second since midnight. -/
def micros (t : TimeOfDay) : Nat := (((t.hour * 60) + t.minute) * 60 + t.second) * 1000000 + t.micro

/-- The numbers that the constructor of a time is given; zeros at the end are left out. -/
def arguments (t : TimeOfDay) : List String :=
  ([t.hour, t.minute] ++
    (if t.micro ≠ 0 then [t.second, t.micro] else if t.second ≠ 0 then [t.second] else [])).map toString

/-- The time with colons. -/
def plain (t : TimeOfDay) : String :=
  ":".intercalate ([t.hour, t.minute, t.second].map (paddedNat 2)) ++
    if t.micro ≠ 0 then "." ++ paddedNat 6 t.micro else ""

end TimeOfDay

namespace Day

/-- The numbers that the constructor of a day is given. -/
def arguments (d : Day) : List String := [d.year, d.month, d.day].map toString

/-- The day with hyphens. -/
def plain (d : Day) : String := "-".intercalate [paddedNat 4 d.year, paddedNat 2 d.month, paddedNat 2 d.day]

end Day

namespace Moment

/-- The instant of a time whose clock is known, in millionths of a second. -/
def instant (day : Day) (t : TimeOfDay) (ahead : Int) : Int :=
  ((day.number : Int) * 1440 - ahead) * 60000000 + t.micros

/-- Whether two points in time are equal.  A day is not equal to its midnight. -/
def same : Moment → Moment → Bool
  | datetime day t (some ahead), datetime day' t' (some ahead') =>
    instant day t ahead == instant day' t' ahead'
  | a, b => a == b

/-- The distance to the clock of Greenwich as it is given to the constructor of a time. -/
def shownOffset (ahead : Int) : String :=
  if ahead = 0 then "datetime.timezone.utc"
  else
    let days := ahead / 1440
    let seconds := ahead % 1440 * 60
    let parts := (if days = 0 then [] else ["days=" ++ toString days]) ++
      (if seconds = 0 then [] else ["seconds=" ++ toString seconds])
    "datetime.timezone(datetime.timedelta(" ++ ", ".intercalate parts ++ "))"

/-- The distance to the clock of Greenwich in hours and minutes, with its sign. -/
def plainOffset (ahead : Int) : String :=
  (if ahead < 0 then "-" else "+") ++ paddedNat 2 (ahead.natAbs / 60) ++ ":" ++
    paddedNat 2 (ahead.natAbs % 60)

/-- The form of a point in time in a message. -/
def shown : Moment → String
  | date day => "datetime.date(" ++ ", ".intercalate day.arguments ++ ")"
  | time t => "datetime.time(" ++ ", ".intercalate t.arguments ++ ")"
  | datetime day t ahead => "datetime.datetime(" ++ ", ".intercalate (day.arguments ++ t.arguments ++
      (ahead.map fun n => "tzinfo=" ++ shownOffset n).toList) ++ ")"

/-- The form of a point in time in running text. -/
def plain : Moment → String
  | date day => day.plain
  | time t => t.plain
  | datetime day t ahead => day.plain ++ " " ++ t.plain ++ (ahead.map plainOffset).getD ""

/-- The name of the kind of a point in time. -/
def typeName : Moment → String
  | date _ => "date"
  | time _ => "time"
  | datetime .. => "datetime"

end Moment

end IntentSpec
