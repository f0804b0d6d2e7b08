/-
AlertConformance.TestCase.NeverFiring — an alert that resolves while it is
pending.

Beside it is a rule that never matches. Neither alert fires, so no
notification is sent.
-/
import AlertConformance.TestCase.Basic

namespace AlertConformance.NeverFiring

def groupName : String := "PendingAndResolved_AlwaysInactive"

def pendingRuleName : String := groupName ++ "_PendingAlert"

def inactiveRuleName : String := groupName ++ "_InactiveAlert"

def description : String :=
  "(1) Alert that goes into pending and back to inactive without ever firing, " ++
  "so no notification is sent. (2) Alert that is never active."

/-- The samples: high for four of them only, well short of the hold. -/
def tokens : List String := ["5", "0x7", "15", "0x3", "3", "0x30"]

def becomesActive : Nat := 8

def becomesInactive : Nat := 12

def hold : Int := 1 * minute

/-- The intervals the case is meant for. -/
def usual : Setup := { sampleInterval := 5 * second, groupInterval := 10 * second }

def pendingTemplate : Result Template := do
  let notes := [("description", "SimpleAlert is firing")]
  let rule ← thresholdRule groupName pendingRuleName "10" hold
    [("foo", "bar"), ("rulegroup", groupName)] notes
  Template.new rule (.ofList notes) .empty

def inactiveTemplate : Result Template := do
  let notes := [("description", "This should never fire")]
  let rule ← thresholdRule groupName inactiveRuleName "99" hold
    [("ba_dum", "tss"), ("rulegroup", groupName)] notes
  Template.new rule (.ofList notes) .empty

/-- The windows of the two scenarios. -/
def classifier (setup : Setup) (sampleCount : Nat) : Result Classifier := do
  let sample ← inSeconds setup.sampleInterval
  let evaluation ← inSeconds setup.groupInterval
  let active := .ofInt becomesActive * sample
  let inactive := .ofInt becomesInactive * sample
  let before ← Window.new 0 (active + evaluation)
  let afterwards ← Window.new (inactive - 1) (.ofInt sampleCount * sample + evaluation)
  let pending ← Window.new (active - 1) (inactive + evaluation)
  Classifier.new [("inactive", [before, afterwards]), ("pending", [pending])]

/-! ## The case -/

/-- What a case is made of. -/
structure Case where
  setup : Setup
  pending : Template
  inactive : Template
  group : RuleGroup
  samples : List Sample
  classifier : Classifier

namespace Case

def new (setup : Setup) : Result Case := do
  let pending ← pendingTemplate
  let inactive ← inactiveTemplate
  let group ← RuleGroup.new groupName setup.groupInterval [pending.rule, inactive.rule]
  let samples ← sampleSlice setup.sampleInterval tokens
  let classifier ← NeverFiring.classifier setup (samples.length + trailingSamples)
  return { setup, pending, inactive, group, samples, classifier }

variable (made : Case)

/-- The value of the pending alert, and since when it is active. -/
def value : String := valueText made.samples becomesActive

def activeAt : Int := becomesActive * made.setup.sampleInterval

/-! ## Its expectations -/

section Expectations

variable (origin : Origin) (time : Int)

/-- No alert, the pending one, or either. -/
def candidates : Result (List (List Alert)) := do
  let states := made.classifier.states (← origin.elapsed time)
  let quiet := if states.contains "inactive" then [[]] else []
  if states.contains "pending" then
    let since ← origin.after made.activeAt
    return quiet ++ [[made.pending.alert AlertState.pending made.value (some since)]]
  else return quiet

def expectedAlerts : Result (List (List Alert)) := made.candidates origin time

/-- The first rule is pending when it has an alert, and the second one is
never anything but inactive. -/
def expectedGroups : Result (List GroupSnapshot) := do
  (← made.candidates origin time).mapM fun alerts => do
    let state := if alerts.isEmpty then AlertState.inactive else AlertState.pending
    groupSnapshot made.group [
      ← made.pending.rule.snapshot state alerts,
      ← made.inactive.rule.snapshot AlertState.inactive []]

def expectedSamples : Result (List (Option (List QuerySample))) := do
  (← made.candidates origin time).mapM fun alerts => do
    return nonempty? (← alerts.mapM fun alert => made.pending.indicator alert.state time)

end Expectations

def expectations : Expectations where
  alerts := made.expectedAlerts
  groups := made.expectedGroups
  samples := made.expectedSamples

/-! ## Its table of outcomes -/

def testCase : TestCase where
  title := groupName
  description := description
  setup := made.setup
  group := made.group
  series := [
    ⟨metricLabels groupName pendingRuleName, made.samples⟩,
    ⟨metricLabels groupName inactiveRuleName, made.samples⟩]
  sampleCount := made.samples.length + trailingSamples
  classifier := made.classifier
  outcomes := [
    ⟨["inactive"], [[], []]⟩,
    ⟨["pending"], [[⟨made.pending, .pending, made.value, made.activeAt⟩], []]⟩]
  bursts := []

end Case

/-- The case for a set-up. -/
def testCase (setup : Setup) : Result TestCase := do return (← Case.new setup).testCase

end AlertConformance.NeverFiring
