/-
AlertConformance.TestCase.SelfCheck — test cases against their own
expectations.

A test case is sound when every instant of its test has a candidate, when
the views are the same whenever they are asked for, when the first
candidate of each view passes the checks, and when its notifications,
delivered without delay, satisfy the matcher.

* `TestCase.selfCheck` — the report on a test case.
* `Report.line`, `Report.toJson` — a report as text and as JSON.
-/
import AlertConformance.Json.Value
import AlertConformance.Matcher
import AlertConformance.TestCase.Basic

namespace AlertConformance

/-! ## Reports -/

/-- What a self-check found: how many instants were checked, and how many
notifications were expected and matched. -/
structure Report where
  title : String
  instants : Int
  expected : Int
  matched : Int
  error : Option String := none

namespace Report

def ok (report : Report) : Bool := report.error.isNone

def line (report : Report) : String :=
  let status := if report.ok then "ok" else "failed"
  s!"[{report.title}] {status} :: {report.instants} instants, " ++
    s!"notifications {report.matched}/{report.expected}"

def toJson (report : Report) : Json :=
  .object [
    ("case", .text report.title),
    ("instants_checked", .int report.instants),
    ("notifications_expected", .int report.expected),
    ("notifications_matched", .int report.matched),
    ("error", (report.error.map fun error => .text error).getD .null)]

/-- A report that ends with an error. Errors that are no verdict on the
test case are passed on. -/
def failed (report : Report) (error : Error) : Result Report :=
  if error.isVerdict then .ok { report with error := error.message? } else .error error

end Report

/-! ## Instants -/

/-- The start of the self-check when none is given. -/
def usualZeroTime : Int := 1643114203000

/-- The times `start`, `start + step`, … below `stop`; a step of zero
leads nowhere, and a negative one away from `stop`. -/
def instants (start stop step : Int) : Result (List Int) :=
  if step = 0 then .error .invalidNumber
  else if step < 0 then .ok []
  else .ok (sendTimes start stop step)

namespace TestCase

/-- Whether the views of alerts and groups are what they were before. -/
def repeats (test : TestCase) (zeroTime time : Int) (alerts : List (List Alert))
    (groups : List GroupSnapshot) : Result Bool := do
  if sameLists (sameLists Alert.same) alerts (test.expectedAlerts zeroTime time) then
    return sameLists GroupSnapshot.same groups (← test.expectedGroups zeroTime time)
  else return false

/-- Check the first candidates of an instant. -/
def checkInstant (test : TestCase) (zeroTime time : Int) : Result Unit := do
  let pages := test.expectedAlerts zeroTime time
  let groups ← test.expectedGroups zeroTime time
  let vectors := test.expectedSamples zeroTime time
  match pages, groups, vectors with
  | page :: _, group :: _, vector :: _ =>
    if ← test.repeats zeroTime time pages groups then
      test.checkAlerts zeroTime time page
      test.checkGroup zeroTime time (some group)
      test.checkSamples zeroTime time (vector.getD [])
    else throw (.caseFault (.viewsDiffer (time - zeroTime)))
  | _, _, _ => throw (.caseFault (.noExpectedState (time - zeroTime)))

/-- Check every instant of a test. -/
def checkInstants (test : TestCase) (zeroTime step : Int) : Result Nat := do
  let times ← instants zeroTime (zeroTime + test.duration) step
  times.forM (test.checkInstant zeroTime)
  return times.length

/-! ## Notifications -/

/-- Deliver notifications to a matcher. -/
def deliver (matcher : Matcher) (stream : List Notification) : Result Matcher :=
  stream.foldlM (fun matcher arrival => (matcher.observe arrival).map Prod.snd) matcher

/-- Nothing may be overdue after the last arrival. -/
def finishAfter (matcher : Matcher) (stream : List Notification) : Result Unit :=
  match stream.getLast? with
  | some last => matcher.finish last.receivedAt
  | none => .ok ()

/-! ## The self-check -/

/-- The report on a test case that has been started. -/
def report (test : TestCase) (origin : Origin) (zeroTime step : Int) : Result Report :=
  let report : Report := { title := test.title, instants := 0, expected := 0, matched := 0 }
  match test.checkInstants zeroTime step with
  | .error error => report.failed error
  | .ok count =>
    let report := { report with instants := count }
    match test.expectedNotifications origin with
    | .error error => report.failed error
    | .ok expected =>
      let report := { report with expected := expected.length }
      let stream := idealStream expected
      match Matcher.new expected >>= fun matcher => deliver matcher stream with
      | .error error => report.failed error
      | .ok matcher =>
        let report := { report with matched := matcher.consumed.length }
        match finishAfter matcher stream with
        | .error error => report.failed error
        | .ok () => .ok report

/-- The report on a test case whose test starts at `zeroTime`. The case may
have been started before, at the same time only. -/
def selfCheck (test : TestCase) (zeroTime step : Int) (origin : Origin := {}) : Result Report := do
  test.report (← origin.bind zeroTime) zeroTime step

end TestCase

end AlertConformance
