/-
AlertConformance.Check — comparing observations with candidates.

An observation passes when it fits one of the candidates. Labels, states,
annotations and values have to be equal; a time only has to lie within a
tolerance, because evaluations do not happen on the dot. Alerts and
samples are compared in order of their label sets, so the order in which
they were observed does not matter; the order of rules does.

* `Alert.difference?`, … — the first difference of one expected and one
  observed thing.
* `checkAlerts`, `checkGroup`, `checkSamples` — a whole observation.
-/
import AlertConformance.Error

namespace AlertConformance

/-! ## Differences -/

/-- How an observation differs from a candidate. -/
inductive Difference where
  | labels (actual expected : Labels)
  | state (alert actual expected : String)
  | annotations (alert : String) (actual expected : Labels)
  | value (alert actual expected : String)
  | activeAt (alert : String) (actual : Option Int) (tolerance : Int) (expected : Option Int)
  | alertCount (actual expected : Nat)
  | ruleField (rule field : String) (actual expected : Literal)
  | ruleDuration (rule : String) (actual expected : Binary64)
  | ruleAlerts (rule : String) (difference : Difference)
  | groupName (actual expected : String)
  | groupInterval (actual expected : Binary64)
  | ruleCount (actual expected : Nat)
  | sampleCount (actual expected : Nat)
  | metric (actual expected : Labels)
  | sampleValue (metric : Labels) (actual expected : Binary64)
  | sampleTime (metric : Labels) (actual tolerance expected : Int)

/-- A time that may be absent, as messages show it. -/
def showTime (time : Option Int) : String := (Literal.ofInt? time).render

def Difference.message : Difference → String
  | .labels actual expected =>
    s!"labels {actual.toLiteral.render} != {expected.toLiteral.render}"
  | .state alert actual expected => s!"{alert}: state {quoteText actual} != {quoteText expected}"
  | .annotations alert actual expected =>
    s!"{alert}: annotations {actual.toLiteral.render} != {expected.toLiteral.render}"
  | .value alert actual expected => s!"{alert}: value {quoteText actual} != {quoteText expected}"
  | .activeAt alert actual tolerance expected =>
    s!"{alert}: activeAt {showTime actual} not within {tolerance}ms of {showTime expected}"
  | .alertCount actual expected => s!"{actual} alerts != {expected} expected"
  | .ruleField rule field actual expected =>
    s!"rule {rule}: {field} {actual.render} != {expected.render}"
  | .ruleDuration rule actual expected =>
    s!"rule {rule}: duration {actual.toText} != {expected.toText}"
  | .ruleAlerts rule difference => s!"rule {rule}: {difference.message}"
  | .groupName actual expected => s!"group name {quoteText actual} != {quoteText expected}"
  | .groupInterval actual expected => s!"group interval {actual.toText} != {expected.toText}"
  | .ruleCount actual expected => s!"{actual} rules != {expected} expected"
  | .sampleCount actual expected => s!"{actual} samples != {expected} expected"
  | .metric actual expected =>
    s!"series {actual.toLiteral.render} != {expected.toLiteral.render}"
  | .sampleValue series actual expected =>
    s!"series {series.toLiteral.render}: value {actual.toText} != {expected.toText}"
  | .sampleTime series actual tolerance expected =>
    s!"series {series.toLiteral.render}: timestamp {actual} not within {tolerance}ms of {expected}"

/-! ## Values and times -/

/-- Whether two reported values are the same number: `15` and `1.5e+01`
are, and so are two that are not numbers at all but say so. -/
def valuesEqual (expected actual : String) : Bool :=
  if expected = actual then true
  else match Binary64.ofText? expected, Binary64.ofText? actual with
    | some left, some right => (left.isNaN && right.isNaN) || left.equal right
    | _, _ => false

/-- Whether two times differ by no more than a tolerance. -/
def withinTolerance (expected actual tolerance : Int) : Bool :=
  (expected - actual).natAbs ≤ tolerance

/-- The same for times that may be absent: both are, or neither. -/
def bothWithin (expected actual : Option Int) (tolerance : Int) : Bool :=
  match expected, actual with
  | some e, some a => withinTolerance e a tolerance
  | none, none => true
  | _, _ => false

/-! ## Alerts -/

/-- The name of an alert in messages. -/
def Alert.title (alert : Alert) : String := (alert.labels.get? "alertname").getD "<unnamed>"

/-- The first difference of two alerts. -/
def Alert.difference? (tolerance : Int) (expected actual : Alert) : Option Difference :=
  if !expected.labels.same actual.labels then some (.labels actual.labels expected.labels)
  else if expected.state ≠ actual.state then
    some (.state expected.title actual.state expected.state)
  else if !expected.annotations.same actual.annotations then
    some (.annotations expected.title actual.annotations expected.annotations)
  else if !valuesEqual expected.value actual.value then
    some (.value expected.title actual.value expected.value)
  else if !bothWithin expected.activeAt actual.activeAt tolerance then
    some (.activeAt expected.title actual.activeAt tolerance expected.activeAt)
  else none

/-- The first difference of two lists of one length, element by element. -/
def firstDifference? {α : Type} (difference? : α → α → Option Difference) :
    List α → List α → Option Difference
  | e :: es, a :: as => (difference? e a).or (firstDifference? difference? es as)
  | _, _ => none

/-- Elements in order of their label sets. -/
def sortByKey {α : Type} (key : α → LabelKey) (elements : List α) : List α :=
  elements.mergeSort fun a b => (compareKeys (key a) (key b)).isLE

/-- The first difference of two lists of alerts in any order. -/
def alertsDifference? (tolerance : Int) (expected actual : List Alert) : Option Difference :=
  if expected.length ≠ actual.length then some (.alertCount actual.length expected.length)
  else
    firstDifference? (Alert.difference? tolerance) (sortByKey Alert.key expected)
      (sortByKey Alert.key actual)

/-! ## Rules and groups -/

/-- The fields of a rule that have to be equal, as messages show them. -/
def RuleSnapshot.fieldDifference? (expected actual : RuleSnapshot) : Option Difference :=
  let text (field exp act : String) : Option Difference :=
    if exp ≠ act then some (.ruleField expected.name field (.text act) (.text exp)) else none
  let map (field : String) (exp act : Labels) : Option Difference :=
    if !exp.same act then some (.ruleField expected.name field act.toLiteral exp.toLiteral)
    else none
  (text "name" expected.name actual.name).or <|
  (text "query" expected.query actual.query).or <|
  (text "state" expected.state actual.state).or <|
  (text "health" expected.health actual.health).or <|
  (text "type" expected.kind actual.kind).or <|
  (map "labels" expected.labels actual.labels).or <|
  map "annotations" expected.annotations actual.annotations

/-- The first difference of two rules. -/
def RuleSnapshot.difference? (tolerance : Int) (expected actual : RuleSnapshot) :
    Option Difference :=
  (expected.fieldDifference? actual).or <|
    if !expected.duration.isClose actual.duration then
      some (.ruleDuration expected.name actual.duration expected.duration)
    else
      (alertsDifference? tolerance expected.alerts actual.alerts).map (.ruleAlerts expected.name)

/-- The first difference of two groups. -/
def GroupSnapshot.difference? (tolerance : Int) (expected actual : GroupSnapshot) :
    Option Difference :=
  if expected.name ≠ actual.name then some (.groupName actual.name expected.name)
  else if !expected.interval.isClose actual.interval then
    some (.groupInterval actual.interval expected.interval)
  else if expected.rules.length ≠ actual.rules.length then
    some (.ruleCount actual.rules.length expected.rules.length)
  else firstDifference? (RuleSnapshot.difference? tolerance) expected.rules actual.rules

/-! ## Samples -/

/-- The first difference of two samples. -/
def QuerySample.difference? (tolerance : Int) (expected actual : QuerySample) :
    Option Difference :=
  if !expected.metric.same actual.metric then some (.metric actual.metric expected.metric)
  else if !expected.value.equal actual.value then
    some (.sampleValue actual.metric actual.value expected.value)
  else if !withinTolerance expected.timestamp actual.timestamp tolerance then
    some (.sampleTime actual.metric actual.timestamp tolerance expected.timestamp)
  else none

/-- The first difference of two vectors in any order; no vector at all is
an empty one. -/
def samplesDifference? (tolerance : Int) (expected : Option (List QuerySample))
    (actual : List QuerySample) : Option Difference :=
  let expected := expected.getD []
  if expected.length ≠ actual.length then some (.sampleCount actual.length expected.length)
  else
    firstDifference? (QuerySample.difference? tolerance) (sortByKey QuerySample.key expected)
      (sortByKey QuerySample.key actual)

/-! ## Observations -/

/-- Pass when some candidate has no difference; else report the first
difference of each. -/
def checkAgainst {α : Type} (difference? : α → Option Difference) (subject : String)
    (actual : Literal) (toLiteral : α → Literal) (candidates : List α) : Result Unit :=
  let differences := candidates.map difference?
  if differences.any Option.isNone then .ok ()
  else
    let reasons := differences.filterMap fun difference => difference.map Difference.message
    .error (.mismatch {
      subject
      actual
      candidates := candidates.map toLiteral
      reason :=
        if reasons.isEmpty then "no candidate is valid at this time"
        else " | ".intercalate reasons })

def alertsLiteral (alerts : List Alert) : Literal := .list (alerts.map Alert.toLiteral)

def samplesLiteral (samples : List QuerySample) : Literal :=
  .list (samples.map QuerySample.toLiteral)

/-- A vector that may be absent, as messages show it. -/
def vectorLiteral (samples : Option (List QuerySample)) : Literal :=
  (samples.map samplesLiteral).getD .none

def checkAlerts (candidates : List (List Alert)) (actual : List Alert) (tolerance : Int) :
    Result Unit :=
  checkAgainst (fun candidate => alertsDifference? tolerance candidate actual) "alerts"
    (alertsLiteral actual) alertsLiteral candidates

def checkGroup (candidates : List GroupSnapshot) (actual : GroupSnapshot) (tolerance : Int) :
    Result Unit :=
  checkAgainst (fun candidate => candidate.difference? tolerance actual)
    s!"rule group {actual.name}" actual.toLiteral GroupSnapshot.toLiteral candidates

def checkSamples (candidates : List (Option (List QuerySample))) (actual : List QuerySample)
    (tolerance : Int) : Result Unit :=
  checkAgainst (fun candidate => samplesDifference? tolerance candidate actual) "samples"
    (samplesLiteral actual) vectorLiteral candidates

/-- The observed group that has to be checked at an elapsed time. A group
that is missing is tolerated until one interval has passed. -/
def dueGroup? (elapsed interval : Int) (actual : Option GroupSnapshot) :
    Result (Option GroupSnapshot) :=
  if elapsed < interval then .ok none
  else match actual with
    | some group => .ok (some group)
    | none => .error (.mismatch {
        subject := "rule group"
        actual := .none
        candidates := []
        reason := "no rule group found" })

end AlertConformance
