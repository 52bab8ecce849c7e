-- How days and moments are written in YAML: a year, a month and a day, perhaps a time of the day
-- with a fraction, and perhaps the offset of the clock.
import Stencil.Data.Flaw
import Stencil.Data.Yaml.Cursor

namespace Stencil.Data.Yaml

/-- An offset as it is written: its sign, its hours and its minutes. -/
structure Zone where
  behind : Bool
  hours : Nat
  minutes : Nat

/-- A time of the day as it is written; the fraction is a list of digits. -/
structure Clock where
  hour : Nat
  minute : Nat
  second : Nat
  fraction : List Char
  zone : Option Zone

/-- A day and perhaps a time as they are written, whether or not there are such. -/
structure Timestamp where
  year : Nat
  month : Nat
  day : Nat
  clock : Option Clock

namespace Timestamp

/-- A number of digits, as many as there are up to `most` and at least `least`, and the text behind
them. -/
def number? (least most : Nat) (cs : List Char) : Option (Nat × List Char) :=
  let digits := (cs.take most).takeWhile Char.isDigit
  if digits.length < least then none else some (Text.ofDigits digits, cs.drop digits.length)

/-- The text behind a character. -/
def after? (c : Char) : List Char → Option (List Char)
  | [] => none
  | d :: cs => if c = d then some cs else none

/-- The whole rest of a timestamp: nothing, or an offset. -/
def zone? (cs : List Char) : Option (Option Zone) :=
  match cs.dropWhile isPad with
  | [] => if cs.isEmpty then some none else none
  | ['Z'] => some (some ⟨false, 0, 0⟩)
  | sign :: rest => do
    if sign ≠ '+' && sign ≠ '-' then none
    else
      let (hours, rest) ← number? 1 2 rest
      let minutes ← match rest with
        | [] => some 0
        | rest => do
          let (minutes, rest) ← number? 2 2 (← after? ':' rest)
          if rest.isEmpty then some minutes else none
      return some ⟨sign == '-', hours, minutes⟩

/-- The whole rest behind a day: a time of the day. -/
def clock? (cs : List Char) : Option Clock := do
  let rest ← match cs with
    | [] => none
    | c :: rest =>
      if c = 'T' || c = 't' then some rest
      else if isPad c then some (rest.dropWhile isPad)
      else none
  let (hour, rest) ← number? 1 2 rest
  let (minute, rest) ← number? 2 2 (← after? ':' rest)
  let (second, rest) ← number? 2 2 (← after? ':' rest)
  let (fraction, rest) := match rest with
    | '.' :: rest => (rest.takeWhile Char.isDigit, rest.dropWhile Char.isDigit)
    | rest => ([], rest)
  return ⟨hour, minute, second, fraction, ← zone? rest⟩

/-- A day, whose month and day have one digit or two, and perhaps a time. -/
def read? (cs : List Char) : Option Timestamp := do
  let (year, rest) ← number? 4 4 cs
  let (month, rest) ← number? 1 2 (← after? '-' rest)
  let (day, rest) ← number? 1 2 (← after? '-' rest)
  if rest.isEmpty then return ⟨year, month, day, none⟩
  else return ⟨year, month, day, some (← clock? rest)⟩

/-- What looks like a timestamp; without a time, month and day have two digits. -/
def looksLike (cs : List Char) : Bool :=
  match read? cs with
  | none => false
  | some t => t.clock.isSome || cs.length = 10

/-- The millionths that the digits of a fraction count. -/
def micros (fraction : List Char) : Nat :=
  let digits := fraction.take 6
  Text.ofDigits (digits ++ List.replicate (6 - digits.length) '0')

/-- The offset of a clock. -/
def offset (zone : Option Zone) : Except Calendar.Flaw (Option Int) :=
  match zone with
  | none => .ok none
  | some z =>
    let minutes : Nat := 60 * z.hours + z.minutes
    some <$> Moment.checkedOffset (if z.behind then -minutes else minutes)

/-- The day of a timestamp, or its moment; the offset of the clock is looked at first. -/
def resolve (t : Timestamp) : Except Calendar.Flaw (Day ⊕ Moment) := do
  match t.clock with
  | none => return .inl (← Day.of t.year t.month t.day)
  | some c =>
    let offset ← offset c.zone
    let day ← Day.of t.year t.month t.day
    return .inr (← Moment.of day c.hour c.minute c.second (micros c.fraction) offset)

end Timestamp

end Stencil.Data.Yaml
