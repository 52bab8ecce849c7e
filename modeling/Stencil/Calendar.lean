-- Days and moments of the Gregorian calendar: which ones there are, how they are written, and
-- when two moments are the same. A moment may carry the offset of its clock from universal time.

namespace Stencil

namespace Calendar

/-- Why numbers make no day or no moment. -/
inductive Flaw where
  | year (year : Nat)
  | month
  | day
  | hour
  | minute
  | second
  /-- An offset of a day or more, in minutes. -/
  | offset (minutes : Int)
  deriving DecidableEq, Repr

/-- The words for a span of minutes, in days and seconds. -/
def span (minutes : Int) : String :=
  let days := minutes.fdiv 1440
  let seconds := minutes.fmod 1440 * 60
  s!"datetime.timedelta(days={days}" ++ (if seconds = 0 then "" else s!", seconds={seconds}") ++ ")"

def Flaw.message : Flaw → String
  | .year n => s!"year {n} is out of range"
  | .month => "month must be in 1..12"
  | .day => "day is out of range for month"
  | .hour => "hour must be in 0..23"
  | .minute => "minute must be in 0..59"
  | .second => "second must be in 0..59"
  | .offset n =>
    "offset must be a timedelta strictly between -timedelta(hours=24) and timedelta(hours=24), " ++
      s!"not {span n}."

/-- A number with zeros in front, up to a width. -/
def padded (width n : Nat) : String :=
  let digits := Nat.toDigits 10 n
  String.ofList (List.replicate (width - digits.length) '0' ++ digits)

def isLeap (year : Nat) : Bool := year % 4 = 0 && (year % 100 ≠ 0 || year % 400 = 0)

/-- The number of days of a month. -/
def daysIn (year month : Nat) : Nat :=
  if month = 2 then if isLeap year then 29 else 28
  else if [4, 6, 9, 11].contains month then 30
  else 31

/-- The number of days before a month of a year. -/
def daysBefore (year month : Nat) : Nat :=
  (List.range (month - 1)).foldl (fun n m => n + daysIn year (m + 1)) 0

end Calendar

/-! ## Days -/

structure Day where
  year : Nat
  month : Nat
  day : Nat
  deriving DecidableEq, Repr

namespace Day

/-- A day, if there is one with these numbers. -/
def of (year month day : Nat) : Except Calendar.Flaw Day :=
  if year = 0 then .error (.year year)
  else if month = 0 || 12 < month then .error .month
  else if day = 0 || Calendar.daysIn year month < day then .error .day
  else .ok ⟨year, month, day⟩

def text (d : Day) : String :=
  Calendar.padded 4 d.year ++ "-" ++ Calendar.padded 2 d.month ++ "-" ++ Calendar.padded 2 d.day

/-- The number of days up to this one. -/
def count (d : Day) : Nat :=
  let y := d.year - 1
  365 * y + y / 4 - y / 100 + y / 400 + Calendar.daysBefore d.year d.month + d.day

end Day

/-! ## Moments -/

structure Moment where
  day : Day
  hour : Nat
  minute : Nat
  second : Nat
  /-- Millionths of a second. -/
  micros : Nat
  /-- How many minutes the clock is ahead of universal time, if that is known. -/
  offset : Option Int
  deriving DecidableEq, Repr

namespace Moment

/-- An offset in minutes, which has to be less than a day. -/
def checkedOffset (minutes : Int) : Except Calendar.Flaw Int :=
  if minutes.natAbs < 1440 then .ok minutes else .error (.offset minutes)

/-- A moment of a day, if there is one with these numbers. -/
def of (day : Day) (hour minute second micros : Nat) (offset : Option Int) :
    Except Calendar.Flaw Moment :=
  if 24 ≤ hour then .error .hour
  else if 60 ≤ minute then .error .minute
  else if 60 ≤ second then .error .second
  else .ok ⟨day, hour, minute, second, micros, offset⟩

/-- An offset with its sign. -/
def offsetText (minutes : Int) : String :=
  (if minutes < 0 then "-" else "+") ++ Calendar.padded 2 (minutes.natAbs / 60) ++ ":" ++
    Calendar.padded 2 (minutes.natAbs % 60)

def text (m : Moment) : String :=
  let micros := if m.micros = 0 then "" else "." ++ Calendar.padded 6 m.micros
  m.day.text ++ " " ++ Calendar.padded 2 m.hour ++ ":" ++ Calendar.padded 2 m.minute ++ ":" ++
    Calendar.padded 2 m.second ++ micros ++ (m.offset.map offsetText).getD ""

/-- The name of the clock. -/
def clockText (offset : Int) : String := if offset = 0 then "UTC" else "UTC" ++ offsetText offset

/-- The minutes of universal time up to a moment whose clock has an offset. -/
def universal (m : Moment) (offset : Int) : Int :=
  (1440 * m.day.count + 60 * m.hour + m.minute : Nat) - offset

/-- Whether two moments are the same: clocks with offsets are compared by universal time. -/
def same (a b : Moment) : Bool :=
  match a.offset, b.offset with
  | some x, some y =>
    a.universal x == b.universal y && a.second == b.second && a.micros == b.micros
  | none, none => a == b
  | _, _ => false

end Moment

end Stencil
