import Passpoint.Decimal.Reading
import Passpoint.Document.Calendar
import Passpoint.Text.Number

/-!
Days and times as YAML texts write them: `2001-12-14`, or with a time such as
`2001-12-14t21:59:43.10-05:00`.
-/

namespace Passpoint.Document.Yaml

/-- The time of day of a text, as it stands there. -/
structure Clock where
  hour : Nat
  minute : Nat
  second : Nat
  microsecond : Nat
  /-- Seconds east of universal time. -/
  offset : Option Int

/-- A day and perhaps a time. Nothing is checked against the calendar. -/
structure Stamp where
  day : Day
  /-- Month and day have two digits each. -/
  padded : Bool
  clock : Option Clock

/-- One or two digits and what follows them. -/
def shortNumber? (cs : List Char) : Option (List Char × List Char) :=
  match (cs.take 2).takeWhile Char.isDigit with
  | [] => none
  | ds => some (ds, cs.drop ds.length)

/-- A mark and two digits. -/
def markedPair? (mark : Char) : List Char → Option (Nat × List Char)
  | m :: a :: b :: rest =>
    if m = mark ∧ a.isDigit ∧ b.isDigit then some (Decimal.natOfDigits [a, b], rest) else none
  | _ => none

/-- Six digits of a fraction, filled up with zeros. -/
def microseconds (ds : List Char) : Nat := Decimal.natOfDigits ((ds ++ List.replicate 6 '0').take 6)

def skipBlank (cs : List Char) : List Char := cs.dropWhile fun c => c = ' ' || c = '\t'

/-- The zone at the end of a time: nothing, `Z`, or hours and perhaps minutes with a sign. -/
def zone? (cs : List Char) : Option (Option Int) := do
  match cs, skipBlank cs with
  | [], _ => return none
  | _, ['Z'] => return some 0
  | _, sign :: rest =>
    if sign ≠ '+' ∧ sign ≠ '-' then none
    let (hours, rest) ← shortNumber? rest
    let minutes ← match rest with
      | [] => some 0
      | _ => do
        let (minutes, rest) ← markedPair? ':' rest
        if rest.isEmpty then some minutes else none
    let seconds : Int := 3600 * Decimal.natOfDigits hours + 60 * minutes
    return some (if sign = '-' then -seconds else seconds)
  | _, [] => none

def clock? (cs : List Char) : Option Clock := do
  let cs ← match cs with
    | c :: rest =>
      if c = 'T' ∨ c = 't' then some rest
      else if c = ' ' ∨ c = '\t' then some (skipBlank rest)
      else none
    | [] => none
  let (hour, cs) ← shortNumber? cs
  let (minute, cs) ← markedPair? ':' cs
  let (second, cs) ← markedPair? ':' cs
  let (fraction, cs) := match cs with
    | '.' :: rest => (rest.takeWhile Char.isDigit, rest.dropWhile Char.isDigit)
    | _ => ([], cs)
  return ⟨Decimal.natOfDigits hour, minute, second, microseconds fraction, ← zone? cs⟩

/-- A text without the line break at its end, unless that is all of it. -/
def withoutBreak (cs : List Char) : List Char :=
  if 1 < cs.length && cs.getLast? = some '\n' then cs.dropLast else cs

/-- Reads a stamp, which one line break may follow. -/
def Stamp.ofText? (cs : List Char) : Option Stamp := do
  let cs := withoutBreak cs
  let year := cs.take 4
  if year.length < 4 ∨ !year.all Char.isDigit ∨ (cs.drop 4).head? ≠ some '-' then none
  let (month, cs) ← shortNumber? (cs.drop 5)
  if cs.head? ≠ some '-' then none
  let (day, cs) ← shortNumber? cs.tail
  let date : Day :=
    ⟨Decimal.natOfDigits year, Decimal.natOfDigits month, Decimal.natOfDigits day⟩
  let padded := month.length = 2 && day.length = 2
  if cs.isEmpty then return ⟨date, padded, none⟩
  return ⟨date, padded, some (← clock? cs)⟩

/-- What the calendar or the clock does not have. -/
inductive CalendarFault where
  | year (n : Nat)
  | month
  | day
  | hour
  | minute
  | second
  /-- An offset stays below a whole day. -/
  | offset (seconds : Int)
  deriving DecidableEq, Repr

def CalendarFault.message : CalendarFault → String
  | .year n => s!"year {n} is out of range"
  | .month => "month must be in 1..12"
  | .day => "day is out of range for month"
  | .hour => "hour must be in 0..23"
  | .minute => "minute must be in 0..59"
  | .second => "second must be in 0..59"
  | .offset seconds =>
    "offset must be a timedelta strictly between -timedelta(hours=24) and timedelta(hours=24), " ++
      s!"not {spanShown seconds}."

/-- The first fault among conditions that must hold. -/
def checkAll {ε : Type} : List (Bool × ε) → Except ε Unit
  | [] => .ok ()
  | (holds, fault) :: rest => if holds then checkAll rest else .error fault

def checkDay (d : Day) : Except CalendarFault Unit :=
  checkAll
    [(1 ≤ d.year && d.year ≤ 9999, .year d.year),
     (1 ≤ d.month && d.month ≤ 12, .month),
     (1 ≤ d.day && d.day ≤ monthLength d.year d.month, .day)]

def checkClock (c : Clock) : Except CalendarFault Unit :=
  checkAll [(c.hour < 24, .hour), (c.minute < 60, .minute), (c.second < 60, .second)]

def checkOffset (c : Clock) : Except CalendarFault Unit :=
  match c.offset with
  | some s => if s.natAbs < 86400 then .ok () else .error (.offset s)
  | none => .ok ()

/-- The day or moment of a stamp, if the calendar and the clock have it. -/
def Stamp.value (s : Stamp) : Except CalendarFault (Day ⊕ Moment) := do
  match s.clock with
  | none =>
    checkDay s.day
    return .inl s.day
  | some c =>
    checkOffset c
    checkDay s.day
    checkClock c
    return .inr ⟨s.day, c.hour, c.minute, c.second, c.microsecond, c.offset⟩

end Passpoint.Document.Yaml
