/-
AlertConformance.TestCase.LongHold — an alert that is pending for many
evaluations.

The alert waits for its whole hold before it fires. It resolves, and its
resolved notification is sent again until the retention is over.
-/
import AlertConformance.TestCase.Basic

namespace AlertConformance.LongHold

def groupName : String := "PendingAndFiringAndResolved"

def ruleName : String := groupName ++ "_SimpleAlert"

def description : String :=
  "(1) Alert goes into pending and stays there for its whole 'for' duration before firing. " ++
  "(2) Firing alert resolves and the resolved notification is resent until the retention ends. " ++
  "(3) Annotations render the alert value."

/-- The samples: too low for an alert, then high, then low for long
enough to see the resends stop. -/
def tokens : List String := ["3", "0x5", "15", "0x15", "9", "0x59"]

/-- The first high sample and the first low one after it. -/
def becomesActive : Nat := 6

def becomesInactive : Nat := 22

def hold : Int := 2 * minute

/-- The intervals the case is meant for. -/
def usual : Setup := { sampleInterval := 15 * second, groupInterval := 10 * second }

/-- The rule of the case. -/
def rule : Result Rule :=
  thresholdRule groupName ruleName "10" hold
    [("foo", "bar"), ("rulegroup", groupName)]
    [("description", "SimpleAlert is firing"),
      ("summary", "The value is " ++ templateAction "$value" ++ " " ++ templateAction ".Value")]

/-- The annotations for an alert with a value. -/
def rendered (value : String) : Labels :=
  .ofList [("description", "SimpleAlert is firing"), ("summary", s!"The value is {value} {value}")]

/-- When the alert becomes active, fires and becomes inactive. -/
def activeAt (setup : Setup) : Int := becomesActive * setup.sampleInterval

def firesAt (setup : Setup) : Int := activeAt setup + holdInIntervals hold setup.groupInterval

def inactiveAt (setup : Setup) : Int := becomesInactive * setup.sampleInterval

/-- The windows of the phases. -/
def windows (setup : Setup) (sampleCount : Nat) : Result (List Window) := do
  let transitions ← [activeAt setup, firesAt setup, inactiveAt setup].mapM inSeconds
  let horizon ← inSeconds (sampleCount * setup.sampleInterval + setup.groupInterval)
  phaseWindows transitions horizon (← inSeconds setup.groupInterval)

def phases : List String := ["inactive", "pending", "firing", "resolved"]

/-! ## The case -/

/-- What a case is made of. -/
structure Case where
  setup : Setup
  samples : List Sample
  template : Template
  group : RuleGroup
  classifier : Classifier

namespace Case

def new (setup : Setup) : Result Case := do
  let samples ← sampleSlice setup.sampleInterval tokens
  let template ← Template.new (← rule) (rendered (valueText samples becomesActive)) .empty
  let group ← RuleGroup.new groupName setup.groupInterval [template.rule]
  let windows ← windows setup (samples.length + trailingSamples)
  let classifier ← Classifier.new (phases.zip (windows.map fun window => [window]))
  return { setup, samples, template, group, classifier }

variable (made : Case)

/-- The value that the alert has. -/
def value : String := valueText made.samples becomesActive

/-! ## Its expectations -/

section Expectations

variable (origin : Origin) (time : Int)

/-- The alerts of each phase that is possible. -/
def candidates : Result (List (List Alert)) := do
  let states := made.classifier.states (← origin.elapsed time)
  let since ← origin.after (activeAt made.setup)
  let byPhase := [
    ("inactive", []),
    ("pending", [made.template.alert AlertState.pending made.value (some since)]),
    ("firing", [made.template.alert AlertState.firing made.value (some since)]),
    ("resolved", [])]
  (phases.filter states.contains).mapM fun phase => lookup id phase byPhase

def expectedAlerts : Result (List (List Alert)) := made.candidates origin time

def expectedGroups : Result (List GroupSnapshot) := do
  (← made.candidates origin time).mapM fun alerts => do
    groupSnapshot made.group [← made.template.rule.snapshot (ruleState alerts) alerts]

def expectedSamples : Result (List (Option (List QuerySample))) := do
  (← made.candidates origin time).mapM fun alerts => do
    return nonempty? (← alerts.mapM fun alert => made.template.indicator alert.state time)

end Expectations

def expectations : Expectations where
  alerts := made.expectedAlerts
  groups := made.expectedGroups
  samples := made.expectedSamples

/-! ## Its table of outcomes -/

/-- The alert in an active state. -/
def active (state : ActiveState) : ActiveAlert :=
  ⟨made.template, state, made.value, activeAt made.setup⟩

def testCase : TestCase where
  title := groupName
  description := description
  setup := made.setup
  group := made.group
  series := [⟨metricLabels groupName ruleName, made.samples⟩]
  sampleCount := made.samples.length + trailingSamples
  classifier := made.classifier
  outcomes := [
    ⟨["inactive"], [[]]⟩,
    ⟨["pending"], [[made.active .pending]]⟩,
    ⟨["firing"], [[made.active .firing]]⟩,
    ⟨["resolved"], [[]]⟩]
  bursts :=
    let template := made.template
    [.firing template.labels template.rendered (firesAt made.setup) (inactiveAt made.setup) none,
      .resolved template.labels template.rendered (firesAt made.setup) (inactiveAt made.setup) none]

end Case

/-- The case for a set-up. -/
def testCase (setup : Setup) : Result TestCase := do return (← Case.new setup).testCase

end AlertConformance.LongHold
