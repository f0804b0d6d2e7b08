/-
AlertConformance.Duration — durations in text.

A duration is written as counts of units, the largest unit first and no
count of zero (`1m30s`); a duration of zero is `0s`. A year has 365 days
and a week seven.
-/
import AlertConformance.Error

namespace AlertConformance

/-- The units and their lengths in milliseconds, the largest first. -/
def durationUnits : List (String × Nat) := [
  ("y", 365 * 24 * 60 * 60 * 1000),
  ("w", 7 * 24 * 60 * 60 * 1000),
  ("d", 24 * 60 * 60 * 1000),
  ("h", 60 * 60 * 1000),
  ("m", 60 * 1000),
  ("s", 1000),
  ("ms", 1)]

/-- The counts of units in a duration, zeros left out. -/
def durationParts (remaining : Nat) : List (String × Nat) → List (Nat × String)
  | [] => []
  | (unit, size) :: smaller =>
    let rest := durationParts (remaining % size) smaller
    if remaining / size = 0 then rest else (remaining / size, unit) :: rest

/-- The text of a duration that is not negative. -/
def durationText (duration : Nat) : String :=
  if duration = 0 then "0s"
  else
    String.join ((durationParts duration durationUnits).map fun (count, unit) => s!"{count}{unit}")

/-- The text of a duration in milliseconds. -/
def formatDuration (duration : Int) : Result String :=
  if duration < 0 then .error (.definition (.negativeDuration duration))
  else .ok (durationText duration.toNat)

/-- Milliseconds as seconds, unless they are out of range. -/
def inSeconds (milliseconds : Int) : Result Binary64 :=
  match Binary64.ofInt? milliseconds with
  | some number => .ok (number / 1000)
  | none => .error .numberTooLarge

end AlertConformance
