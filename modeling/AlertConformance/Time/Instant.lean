/-
AlertConformance.Time.Instant — points in time written in ISO 8601.

A text is a date, and perhaps any one character and a time of day, and
perhaps an offset from UTC; without an offset it is UTC. Dates are written
by month or by week, and dates and times with or without their separators.

* `dateLength`, `readDate?` — the date, as the number of its day.
* `readClock` — hours, minutes, seconds and a fraction of six places.
* `readInstant?`, `ofText?` — the instant in microseconds since the Unix
  epoch.
-/
import AlertConformance.Numeric.Numeral
import AlertConformance.Text.CodePoint
import AlertConformance.Time.Calendar

namespace AlertConformance.Instant

/-! ## Digits -/

/-- A number of exactly `count` ASCII digits, and the rest. -/
def readDigits? (count : Nat) (cs : List Char) : Option (Nat × List Char) :=
  let digits := cs.take count
  if digits.length = count && digits.all Char.isDigit then
    some (digitsValue digits, cs.drop count)
  else none

/-- Whether a text is over. A NUL ends it. -/
def isOver (cs : List Char) : Bool :=
  match cs.head? with
  | none => true
  | some c => c = '\x00'

/-! ## Dates -/

/-- How many characters of a text are its date. Where a week is written
without separators the digits after it are a day of the week or the
separator and a time, whose digits come in pairs. -/
def dateLength (cs : List Char) : Nat :=
  match cs.drop 4 with
  | '-' :: 'W' :: tail =>
    match tail.drop 2 with
    | '-' :: _ :: c :: _ => if c.isDigit then 8 else 10
    | '-' :: _ => 10
    | _ => 8
  | '-' :: _ => 10
  | 'W' :: tail =>
    let digits := ((tail.drop 2).takeWhile Char.isDigit).length
    if digits < 2 then 7 + digits else if digits % 2 = 1 then 7 else 8
  | _ => 8

/-- What follows the separator of a date, which has all of its separators
or none. -/
def afterDash? (dashed : Bool) : List Char → Option (List Char)
  | '-' :: rest => if dashed then some rest else none
  | cs => if dashed then none else some cs

/-- The number of the day that a text names. A week without a day stands
for its Monday. -/
def readDate? (cs : List Char) : Option Nat := do
  let (year, rest) ← readDigits? 4 cs
  let dashed := rest.head? == some '-'
  let rest := if dashed then rest.drop 1 else rest
  match rest with
  | 'W' :: rest =>
    let (week, rest) ← readDigits? 2 rest
    if rest.isEmpty then Calendar.weekDayNumber? year week 1
    else
      let (day, _) ← readDigits? 1 (← afterDash? dashed rest)
      Calendar.weekDayNumber? year week day
  | _ =>
    let (month, rest) ← readDigits? 2 rest
    let (day, _) ← readDigits? 2 (← afterDash? dashed rest)
    Calendar.dayNumber? year month day

/-! ## Times of day -/

/-- A time of day as it is written: hours, then perhaps minutes and
seconds, and a fraction in microseconds. `complete` tells whether nothing
followed it. -/
structure Clock where
  fields : List Nat
  fraction : Nat
  complete : Bool

namespace Clock

/-- A clock without any field. -/
def bare (complete : Bool) : Clock := ⟨[], 0, complete⟩

/-- The clock with a larger field in front of the others. -/
def withField (field : Nat) (clock : Clock) : Clock :=
  { clock with fields := field :: clock.fields }

def field (clock : Clock) (index : Nat) : Nat := clock.fields.getD index 0

/-- Hours, minutes and seconds in seconds. -/
def seconds (clock : Clock) : Nat := clock.field 0 * 3600 + clock.field 1 * 60 + clock.field 2

def microseconds (clock : Clock) : Nat := clock.seconds * 1000000 + clock.fraction

/-- Whether every field is one of a day. -/
def isTimeOfDay (clock : Clock) : Bool :=
  clock.field 0 < 24 && clock.field 1 < 60 && clock.field 2 < 60

end Clock

/-- The fraction of a second: up to six digits count, and further ones do
not. -/
def readFraction? (cs : List Char) : Option Clock :=
  let places := min 6 cs.length
  (readDigits? places cs).map fun (value, rest) =>
    ⟨[], value * Nat.pow 10 (6 - places), isOver (rest.dropWhile Char.isDigit)⟩

/-- A time of day with at most `fields` fields of two digits. Colons stand
between all of them or between none; a point or a comma starts the
fraction, which after seconds needs no mark. One ASCII character may be
left over. -/
def readClock? : (fields : Nat) → (colons : Option Bool) → List Char → Option Clock
  | 0, _, cs => readFraction? cs
  | fields + 1, colons, cs =>
    (readDigits? 2 cs).bind fun (value, rest) =>
      (match rest with
        | [] => some (Clock.bare true)
        | [c] => if c.toNat < 0x80 then some (Clock.bare (isOver [c])) else none
        | c :: more =>
          let colons := colons.getD (c = ':')
          if colons && c = ':' then readClock? fields (some colons) more
          else if c = '.' || c = ',' then readFraction? more
          else if colons then none
          else readClock? fields (some colons) (c :: more)).map (Clock.withField value)

/-! ## Offsets -/

def startsOffset (c : Char) : Bool := c = '+' || c = '-' || c = 'Z'

/-- Microseconds of a day. -/
def dayMicroseconds : Nat := 86400 * 1000000

/-- The microseconds by which a place is ahead of UTC, less than a day. A
fraction needs whole seconds to go with it. -/
def readOffset? : List Char → Option Int
  | [] => some 0
  | 'Z' :: rest => if isOver rest then some 0 else none
  | mark :: rest =>
    (readClock? 3 none rest).bind fun clock =>
      if !clock.complete || dayMicroseconds ≤ clock.microseconds then none
      else if clock.seconds = 0 then some 0
      else some (if mark = '-' then -(clock.microseconds : Int) else clock.microseconds)

/-! ## Instants -/

/-- The microseconds after midnight, UTC, of a time of day with its
offset. What stands between the time and an offset is not looked at. -/
def readTime? (cs : List Char) : Option Int :=
  let time := cs.takeWhile fun c => !startsOffset c
  let zone := cs.drop time.length
  (readClock? 3 none time).bind fun clock =>
    (readOffset? zone).bind fun offset =>
      if clock.isTimeOfDay && (clock.complete || !zone.isEmpty) then
        some (clock.microseconds - offset)
      else none

/-- The microseconds since the Unix epoch of the instant that characters
name. -/
def readInstant? (cs : List Char) : Option Int :=
  let length := dateLength cs
  (readDate? (cs.take length)).bind fun day =>
    let midnight : Int := ((day : Int) - Calendar.epochDay) * dayMicroseconds
    match cs.drop length with
    | [] => some midnight
    | _ :: time => (readTime? time).map (midnight + ·)

/-! ## Surrogates -/

/-- Where the character between a date and a time may stand. -/
def separatorPlaces : List Nat := [7, 8, 10]

/-- The characters of a text that may be an instant. Since any character
separates a date from a time, one surrogate may stand in such a place, as
if it were the usual `T`. -/
def characters? (text : Text) : Option (List Char) :=
  let holdsSurrogate (place : Nat) : Bool := (text.points[place]?).any CodePoint.isSurrogate
  let points := match separatorPlaces.find? holdsSurrogate with
    | some place => text.points.set place (.character 'T')
    | none => text.points
  points.mapM CodePoint.character?

/-- The microseconds since the Unix epoch of the instant that a text
names. -/
def ofText? (text : Text) : Option Int := (characters? text).bind readInstant?

end AlertConformance.Instant
