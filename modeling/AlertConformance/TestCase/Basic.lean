/-
AlertConformance.TestCase.Basic — test cases.

A test case feeds series to an engine that evaluates a rule group, and
tells what the engine may show at any time of the test. It is a table of
outcomes: each one belongs to some scenarios and lists the alerts that
every rule of the group then has. The outcomes whose scenarios are all
valid at a time are the candidates of that time, and the alerts, the rule
group and the samples that may be observed are three views of them.

* `TestCase.outcomesAt` — the outcomes that are possible at a time.
* `expectedAlerts`, `expectedGroups`, `expectedSamples` — the views.
* `checkAlerts`, `checkGroup`, `checkSamples` — an observation against
  them.
* `expectedNotifications` — what a receiver gets.

Every case also tells on its own, rule by rule, what it expects:
`Expectations`. It does so in its own way, from its own templates.
-/
import AlertConformance.Check
import AlertConformance.Origin
import AlertConformance.Schedule
import AlertConformance.Series
import AlertConformance.Template
import AlertConformance.Window

namespace AlertConformance

/-! ## Outcomes -/

/-- The states of an active alert. -/
inductive ActiveState where
  | pending
  | firing
  deriving DecidableEq, Repr

def ActiveState.text : ActiveState → String
  | pending => AlertState.pending
  | firing => AlertState.firing

/-- An alert while it is active, since some time after the start. -/
structure ActiveAlert where
  template : Template
  state : ActiveState
  value : String
  activeAt : Int

/-- The alert of a test that starts at `zeroTime`. -/
def ActiveAlert.alert (active : ActiveAlert) (zeroTime : Int) : Alert :=
  active.template.alert active.state.text active.value (some (zeroTime + active.activeAt))

/-- The sample that indicates the alert at a time. -/
def ActiveAlert.sample (active : ActiveAlert) (time : Int) : QuerySample :=
  active.template.activeSample active.state.text time

/-- What is shown while some scenarios are valid: the active alerts of
each rule. -/
structure Outcome where
  scenarios : List String
  rules : List (List ActiveAlert)

/-- All active alerts, in order of the rules. -/
def Outcome.active (outcome : Outcome) : List ActiveAlert := outcome.rules.flatten

/-! ## Test cases -/

/-- How a test case is set up: the intervals between samples and between
evaluations, and the delays of the notification path. -/
structure Setup where
  sampleInterval : Int
  groupInterval : Int
  settings : Settings := {}

/-- A test case. Its samples come first and `sampleCount` intervals are
observed; `bursts` are the notifications it leads to. -/
structure TestCase where
  title : String
  description : String
  setup : Setup
  group : RuleGroup
  series : List TimeSeries
  sampleCount : Nat
  classifier : Classifier
  outcomes : List Outcome
  bursts : List Burst

namespace TestCase

/-- How long a test lasts. -/
def duration (test : TestCase) : Int := test.sampleCount * test.setup.sampleInterval

/-- The outcomes that are possible at an elapsed time. -/
def outcomesAt (test : TestCase) (elapsed : Int) : List Outcome :=
  let states := test.classifier.states elapsed
  test.outcomes.filter fun outcome => outcome.scenarios.all states.contains

/-! ## Views

The views of a test that starts at `zeroTime`, at a time. -/

def expectedAlerts (test : TestCase) (zeroTime time : Int) : List (List Alert) :=
  (test.outcomesAt (time - zeroTime)).map fun outcome =>
    outcome.active.map fun active => active.alert zeroTime

/-- The rule group of an outcome. -/
def groupOf (test : TestCase) (zeroTime : Int) (outcome : Outcome) : Result GroupSnapshot := do
  let rules ← (test.group.rules.zip outcome.rules).mapM fun (rule, active) =>
    let alerts := active.map fun active => active.alert zeroTime
    rule.snapshot (ruleState alerts) alerts
  groupSnapshot test.group rules

def expectedGroups (test : TestCase) (zeroTime time : Int) : Result (List GroupSnapshot) :=
  (test.outcomesAt (time - zeroTime)).mapM (test.groupOf zeroTime)

/-- The samples of an outcome; there is no series at all when no alert is
active. -/
def samplesOf (time : Int) (outcome : Outcome) : Option (List QuerySample) :=
  if outcome.active.isEmpty then none
  else some (outcome.active.map fun active => active.sample time)

def expectedSamples (test : TestCase) (zeroTime time : Int) : List (Option (List QuerySample)) :=
  (test.outcomesAt (time - zeroTime)).map (samplesOf time)

/-! ## Checks

An observation at a time of a test that starts at `zeroTime`. Times may
differ by one evaluation interval. -/

def checkAlerts (test : TestCase) (zeroTime time : Int) (actual : List Alert) : Result Unit :=
  AlertConformance.checkAlerts (test.expectedAlerts zeroTime time) actual test.setup.groupInterval

def checkGroup (test : TestCase) (zeroTime time : Int) (actual : Option GroupSnapshot) :
    Result Unit := do
  match ← dueGroup? (time - zeroTime) test.setup.groupInterval actual with
  | none => return ()
  | some group =>
    AlertConformance.checkGroup (← test.expectedGroups zeroTime time) group
      test.setup.groupInterval

def checkSamples (test : TestCase) (zeroTime time : Int) (actual : List QuerySample) :
    Result Unit :=
  AlertConformance.checkSamples (test.expectedSamples zeroTime time) actual
    test.setup.groupInterval

/-! ## Notifications -/

/-- The notifications of a test that starts at `zeroTime`. -/
def scheduleFrom (test : TestCase) (zeroTime : Int) : Result Schedule := do
  test.bursts.foldlM Schedule.add
    (← Schedule.new zeroTime test.setup.groupInterval test.setup.settings)

/-- The notifications of a test; a test without any needs no start. -/
def expectedNotifications (test : TestCase) (origin : Origin) :
    Result (List ScheduledNotification) :=
  if test.bursts.isEmpty then .ok []
  else do return (← test.scheduleFrom (← origin.zeroTime)).events

end TestCase

/-! ## Expectations of a case -/

/-- What a case expects of the alerts page, the rules page and the samples,
at a time and once its test has started. -/
structure Expectations where
  alerts : Origin → Int → Result (List (List Alert))
  groups : Origin → Int → Result (List GroupSnapshot)
  samples : Origin → Int → Result (List (Option (List QuerySample)))

/-- A list, or nothing when it is empty. -/
def nonempty? {α : Type} (items : List α) : Option (List α) :=
  if items.isEmpty then none else some items

/-- The value of a key in a table that should have one. -/
def lookup {κ α : Type} [DecidableEq κ] (title : κ → String) (key : κ) (table : List (κ × α)) :
    Result α :=
  match Keyed.find? key table with
  | some value => .ok value
  | none => .error (.unknownName (title key))

/-! ## Building test cases -/

/-- How many sample intervals a test goes on after its last sample. -/
def trailingSamples : Nat := 20

/-- A rule that alerts while its series is above a threshold. -/
def thresholdRule (group name threshold : String) (hold : Int)
    (labels annotations : List (String × String)) : Result Rule :=
  Rule.new name (formatLabels (metricLabels group name) ++ " > " ++ threshold) hold
    (.ofList labels) (.ofList annotations)

/-- An action of an annotation template. -/
def templateAction (body : String) : String := "\x7b\x7b" ++ body ++ "\x7d\x7d"

/-- The text of the value of a sample. -/
def valueText (samples : List Sample) (index : Nat) : String :=
  ((samples[index]?).map fun sample => formatValue sample.value).getD ""

/-- The least time that covers a hold in whole evaluation intervals. A
hold is counted from the evaluation that found the alert active. -/
def holdInIntervals (hold interval : Int) : Int := -(-hold / interval) * interval

end AlertConformance
