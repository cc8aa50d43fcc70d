/-!
Days and moments of the calendar, and how messages show them. A moment may know its distance from
universal time; two such moments are compared by the instant they name.
-/

namespace Passpoint.Document

/-- A day of the calendar. -/
structure Day where
  year : Nat
  month : Nat
  day : Nat
  deriving DecidableEq, Repr

/-- A day and a time, with the seconds east of universal time where the document gives them. -/
structure Moment where
  day : Day
  hour : Nat
  minute : Nat
  second : Nat
  microsecond : Nat
  offset : Option Int
  deriving DecidableEq, Repr

def isLeap (year : Nat) : Bool := year % 4 = 0 && (year % 100 ≠ 0 || year % 400 = 0)

def monthLength (year month : Nat) : Nat :=
  if month = 2 then (if isLeap year then 29 else 28)
  else if [4, 6, 9, 11].contains month then 30
  else 31

/-- The days in the years before `year`, counted from year one. -/
def daysBeforeYear (year : Nat) : Nat :=
  let past := year - 1
  365 * past + past / 4 - past / 100 + past / 400

/-- The number of a day, counted from the first day of year one. -/
def Day.number (d : Day) : Nat :=
  (List.range (d.month - 1)).foldl (fun n i => n + monthLength d.year (i + 1))
    (daysBeforeYear d.year + d.day)

/-- The microseconds of a moment, counted from the day before the first, as its clock shows. -/
def Moment.ticks (m : Moment) : Int :=
  let seconds : Nat := ((24 * m.day.number + m.hour) * 60 + m.minute) * 60 + m.second
  1000000 * (seconds : Int) + (m.microsecond : Int)

/-- Whether two moments are one: the same instant, or the same clock where neither names an
offset. -/
def Moment.sameAs (a b : Moment) : Bool :=
  match a.offset, b.offset with
  | some s, some t => a.ticks - 1000000 * s == b.ticks - 1000000 * t
  | none, none => a.ticks == b.ticks
  | _, _ => false

/-! ### Days and moments in messages -/

def commaList (items : List String) : String := ", ".intercalate items

def Day.fields (d : Day) : List String := [toString d.year, toString d.month, toString d.day]

def Day.shown (d : Day) : String := s!"datetime.date({commaList d.fields})"

/-- A span of time that is not empty, as whole days and the seconds left over. -/
def spanShown (seconds : Int) : String :=
  let days := seconds / 86400
  let rest := seconds % 86400
  let parts := (if days = 0 then [] else [s!"days={days}"]) ++
    (if rest = 0 then [] else [s!"seconds={rest}"])
  s!"datetime.timedelta({commaList parts})"

/-- An offset from universal time. -/
def offsetShown (seconds : Int) : String :=
  if seconds = 0 then "datetime.timezone.utc" else s!"datetime.timezone({spanShown seconds})"

/-- Seconds and microseconds are left out where all that follows is zero. -/
def Moment.shown (m : Moment) : String :=
  let small :=
    if m.microsecond ≠ 0 then [toString m.second, toString m.microsecond]
    else if m.second ≠ 0 then [toString m.second]
    else []
  let zone := match m.offset with
    | none => []
    | some seconds => ["tzinfo=" ++ offsetShown seconds]
  let fields := m.day.fields ++ [toString m.hour, toString m.minute] ++ small ++ zone
  s!"datetime.datetime({commaList fields})"

end Passpoint.Document
