/-
AlertConformance.Time.Timestamp — timestamps in milliseconds.

The engine writes instants with up to nine decimals and a `Z` or an
offset. Six decimals count; the instant is then a double precision number
of seconds, whose product with a thousand is rounded, a half going to the
even neighbour.

* `Timestamp.ofText?` — the milliseconds of a written instant.
* `Timestamp.ofSeconds?` — the milliseconds of a number of seconds.
-/
import AlertConformance.Time.Instant

namespace AlertConformance.Timestamp

/-! ## The written form -/

/-- Whether a code point is a decimal digit. -/
def isDecimal (point : CodePoint) : Bool := point.character?.any fun c => (digitValue? c).isSome

/-- The first fraction with exactly six digits: further ones are cut, and
missing ones are zeros. -/
def sixPlaces : List CodePoint → List CodePoint
  | [] => []
  | .character '.' :: rest =>
    let digits := rest.takeWhile isDecimal
    if digits.isEmpty then .character '.' :: sixPlaces rest
    else
      .character '.' :: digits.take 6 ++ List.replicate (6 - digits.length) (.character '0') ++
        rest.drop digits.length
  | point :: rest => point :: sixPlaces rest

/-- A final `Z` as an offset of zero. -/
def expandZulu (points : List CodePoint) : List CodePoint :=
  let last := points.getLast?.bind CodePoint.character?
  if last = some 'Z' || last = some 'z' then
    points.dropLast ++ (Text.ofString "+00:00").points
  else points

/-- A written instant without the blanks around it, with six decimals and
its offset in digits. -/
def isoForm (text : Text) : Text :=
  ⟨sixPlaces (expandZulu (trimBy (fun point => point.character?.any isBlank) text.points))⟩

/-! ## Milliseconds -/

/-- The nearest millisecond of a number of seconds. Only finite numbers
have one. -/
def ofSeconds? (seconds : Binary64) : Option Int := (seconds * 1000).roundToInt?

/-- The seconds of a count of microseconds. -/
def secondsOf (microseconds : Int) : Binary64 := .ofRatio microseconds 1000000

/-- The milliseconds since the Unix epoch of a written instant. -/
def ofText? (text : Text) : Option Int :=
  (Instant.ofText? (isoForm text)).bind fun microseconds => ofSeconds? (secondsOf microseconds)

/-- How an engine writes an instant that is not set. -/
def unset : String := "0001-01-01T00:00:00Z"

end AlertConformance.Timestamp
