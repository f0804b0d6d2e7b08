/-
AlertConformance.Series — samples over time and their compact notation.

A timeline is written as a list of tokens. A plain number is one sample;
`<delta>x<count>` repeats the previous sample `count` times, adding
`delta` each time, so `0x2` holds a value for two more samples. Sample
`n` is stamped `n * interval` after the start of the test.

* `expandValues` — the values that tokens stand for.
* `sampleSlice` — the same with their timestamps.
* `TimeSeries.latestAt` — what a query at a time sees.
-/
import AlertConformance.Error

namespace AlertConformance

/-- A value at a time. -/
structure Sample where
  timestamp : Int
  value : Binary64
  deriving DecidableEq, Repr, Inhabited

/-- The samples of one labelled series, in order of time. -/
structure TimeSeries where
  labels : Labels
  samples : List Sample
  deriving Inhabited

namespace TimeSeries

/-- The last sample that is not after a time. -/
def latestAt (series : TimeSeries) (time : Int) : Option Sample :=
  series.samples.reverse.find? fun sample => sample.timestamp ≤ time

def valueAt (series : TimeSeries) (time : Int) : Option Binary64 :=
  (series.latestAt time).map Sample.value

/-- The series of a test that starts at `zeroTime`. -/
def shifted (series : TimeSeries) (zeroTime : Int) : TimeSeries where
  labels := series.labels
  samples := series.samples.map fun sample =>
    { sample with timestamp := sample.timestamp + zeroTime }

end TimeSeries

/-! ## The notation -/

/-- A token of the notation. -/
inductive SampleToken where
  | value (value : Binary64)
  | steps (delta : Binary64) (count : Nat)
  deriving DecidableEq, Repr

/-- A finite number in a token. -/
def readSampleNumber (token part : String) : Result Binary64 :=
  match Binary64.ofText? part with
  | none => .error (.definition (.invalidSample token))
  | some number =>
    if number.isFinite then .ok number else .error (.definition (.unboundedSample token))

/-- A positive count in a token. -/
def readRepeatCount (token part : String) : Result Nat :=
  match readInt? part with
  | none => .error (.definition (.invalidRepeat token))
  | some count =>
    if 0 < count then .ok count.toNat else .error (.definition (.vacuousRepeat token))

/-- A token is a repetition when it has an `x`; the first one divides it. -/
def readSampleToken (token : String) : Result SampleToken :=
  let body := trim token.toList
  if body.contains 'x' then do
    let delta ← readSampleNumber token (String.ofList (body.takeWhile (· != 'x')))
    let count ← readRepeatCount token (String.ofList ((body.dropWhile (· != 'x')).drop 1))
    return .steps delta count
  else return .value (← readSampleNumber token (String.ofList body))

/-- `count` values, each one `delta` above the one before it. -/
def stepsFrom (last delta : Binary64) : (count : Nat) → List Binary64
  | 0 => []
  | count + 1 => (last + delta) :: stepsFrom (last + delta) delta count

/-- The values after one more token. -/
def extendValues (values : List Binary64) (token : String) : Result (List Binary64) := do
  match ← readSampleToken token with
  | .value value => return values ++ [value]
  | .steps delta count =>
    match values.getLast? with
    | none => throw (.definition (.repeatOfNothing token))
    | some last => return values ++ stepsFrom last delta count

/-- The values that tokens stand for. -/
def expandValues (tokens : List String) : Result (List Binary64) := tokens.foldlM extendValues []

/-- The samples that tokens stand for, one every `interval`. -/
def sampleSlice (interval : Int) (tokens : List String) : Result (List Sample) :=
  if interval ≤ 0 then .error (.definition (.sampleInterval interval))
  else do
    let values ← expandValues tokens
    return values.mapIdx fun index value => { timestamp := index * interval, value }

/-! ## Values in text -/

/-- The value below which whole numbers are written digit by digit. -/
def wholeValueLimit : Binary64 := Binary64.ofInt (Int.pow 10 21)

/-- The shortest text of a value; a whole number has neither point nor
exponent unless it is very large. -/
def formatValue (value : Binary64) : String :=
  match value.truncate? with
  | some whole =>
    if value.isIntegral && value.abs.lt wholeValueLimit then toString whole else value.toText
  | none => value.toText

end AlertConformance
