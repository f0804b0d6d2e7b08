/-
AlertConformance.TestCase.ShortHold — holds of zero and of less than an
evaluation interval.

The alert without a hold fires at once, resolves and fires again. The one
with a short hold is pending at one evaluation and fires at the next. The
windows are derived for samples every five and evaluations every ten
seconds.
-/
import AlertConformance.TestCase.Basic

namespace AlertConformance.ShortHold

def groupName : String := "ZeroFor_SmallFor"

def zeroRuleName : String := groupName ++ "_ZeroFor"

def smallRuleName : String := groupName ++ "_SmallFor"

def description : String :=
  "(1) Alert that goes directly to firing state (skipping the pending state) because of " ++
  "zero for duration. " ++
  "(2) When the for duration is non-zero and less than the evaluation interval, firing alert " ++
  "must be sent after the second evaluation of the rule and not before. " ++
  "(3) Alert that becomes active after having fired already and gone into inactive state where " ++
  "'for' duration is zero and the inactive alert was not being sent anymore. " ++
  "(4) Alert goes into inactive when there is no more data when in firing."

/-- The samples: high twice, with a pause that outlasts the resends. -/
def tokens : List String := [
  "3", "5", "0x2", "9", "0x3", "15", "0x12", "9", "0x71", "11", "0x12", "9"]

/-- Where the series changes. -/
def becomesActive : Nat := 8

def becomesInactive : Nat := 21

def activeAgain : Nat := 93

def inactiveAgain : Nat := 106

/-- Up to which sample the alert stays inactive in the end. -/
def inactiveHorizon : Nat := 240

/-- The intervals the case is meant for. -/
def usual : Setup := { sampleInterval := 5 * second, groupInterval := 10 * second }

/-! ## Rules -/

/-- The annotation of the first rule, which tries the functions on
numbers, and what it renders to. -/
def zeroTemplateTest : String :=
  " ".intercalate (["humanize 1048576", "humanize1024 1048576", "humanizeDuration 135.3563",
    "humanizePercentage 0.959", "humanizeTimestamp 1643114203"].map templateAction)

def zeroTemplateRendered : String := "1.049M 1Mi 2m 15s 95.9% 2022-01-25 12:36:43 +0000 UTC"

/-- The annotation of the second rule, which tries the functions on text,
and what it renders to. -/
def smallTemplateTest : String :=
  templateAction "title \"this part\"" ++ " " ++ templateAction "toUpper \"is testing\"" ++ " " ++
  templateAction "toLower \"THE STRINGS\"" ++ ". " ++
  templateAction "if match \"[0-9]+\" \"1234\"" ++
  templateAction "reReplaceAll \"r.*d\" \"replaced\" \"rpld text\"" ++ templateAction "end" ++
  ". " ++
  templateAction "if match \"[0-9]+$\" \"1234a\"" ++ "WRONG" ++ templateAction "end" ++ "."

def smallTemplateRendered : String := "This Part IS TESTING the strings. replaced text. ."

/-- The rule without a hold. -/
def zeroTemplate : Result Template := do
  let notes (test : String) :=
    [("description", "This should immediately fire"), ("template_test", test)]
  let rule ← thresholdRule groupName zeroRuleName "10" 0
    [("foo", "bar"), ("rulegroup", groupName)] (notes zeroTemplateTest)
  Template.new rule (.ofList (notes zeroTemplateRendered)) .empty

/-- The rule with a hold of half an evaluation interval. -/
def smallTemplate (setup : Setup) : Result Template := do
  let notes (test : String) :=
    [("description", "This should fire after an interval"), ("template_test", test)]
  let rule ← thresholdRule groupName smallRuleName "13" (setup.groupInterval / 2)
    [("ba_dum", "tss"), ("rulegroup", groupName)] (notes smallTemplateTest)
  Template.new rule (.ofList (notes smallTemplateRendered)) .empty

/-! ## Windows -/

def classifier (setup : Setup) : Result Classifier := do
  let sample ← inSeconds setup.sampleInterval
  let evaluation ← inSeconds setup.groupInterval
  let edge (index : Nat) : Binary64 := .ofInt index * sample
  let active := edge becomesActive
  let inactive := edge becomesInactive
  let again := edge activeAgain
  let overAgain := edge inactiveAgain
  let before ← Window.new 0 (active + evaluation)
  let between ← Window.new (inactive - 1) (again + evaluation)
  let afterwards ← Window.new overAgain (edge inactiveHorizon)
  let zeroFiring ← Window.new (active - 1) (inactive + evaluation)
  let zeroAgain ← Window.new (again - 1) (overAgain + evaluation)
  let smallPending ← Window.new (active - 1) (active + 2 * evaluation)
  let smallFiring ← Window.new (active + evaluation) (inactive + evaluation)
  Classifier.new [
    ("inactive", [before, between, afterwards]),
    ("zf_firing", [zeroFiring]),
    ("zf_firing_again", [zeroAgain]),
    ("sf_pending", [smallPending]),
    ("sf_firing", [smallFiring])]

/-! ## The case -/

/-- What a case is made of. -/
structure Case where
  setup : Setup
  zero : Template
  small : Template
  group : RuleGroup
  samples : List Sample
  classifier : Classifier

namespace Case

def new (setup : Setup) : Result Case := do
  let zero ← zeroTemplate
  let small ← smallTemplate setup
  let group ← RuleGroup.new groupName setup.groupInterval [zero.rule, small.rule]
  let samples ← sampleSlice setup.sampleInterval tokens
  let classifier ← ShortHold.classifier setup
  return { setup, zero, small, group, samples, classifier }

variable (made : Case)

/-- The time of a sample, and its value. -/
def sampleTime (index : Nat) : Int := index * made.setup.sampleInterval

def value (index : Nat) : String := valueText made.samples index

/-! ## Its expectations -/

section Expectations

variable (origin : Origin) (time : Int)

def possibleStates : Result (List String) := do
  return made.classifier.states (← origin.elapsed time)

/-- The alerts of the first rule and of the second one, for each candidate
in some states. -/
def activeAlerts (states : List String) : Result (List (List Alert × List Alert)) := do
  let since ← origin.after (made.sampleTime becomesActive)
  let sinceAgain ← origin.after (made.sampleTime activeAgain)
  let value := made.value becomesActive
  let alert (template : Template) (state : String) := template.alert state value (some since)
  let again := made.zero.alert AlertState.firing (made.value activeAgain) (some sinceAgain)
  let quiet := if states.contains "inactive" then [([], [])] else []
  let pending := if states.contains "zf_firing" && states.contains "sf_pending" then
    [([alert made.zero AlertState.firing], [alert made.small AlertState.pending])] else []
  let firing := if states.contains "zf_firing" && states.contains "sf_firing" then
    [([alert made.zero AlertState.firing], [alert made.small AlertState.firing])] else []
  let firingAgain := if states.contains "zf_firing_again" then [([again], [])] else []
  return quiet ++ pending ++ firing ++ firingAgain

def candidates : Result (List (List Alert × List Alert)) := do
  made.activeAlerts origin (← made.possibleStates origin time)

def expectedAlerts : Result (List (List Alert)) := do
  return (← made.candidates origin time).map fun (zero, small) => zero ++ small

def expectedGroups : Result (List GroupSnapshot) := do
  (← made.candidates origin time).mapM fun (zero, small) => do
    groupSnapshot made.group [
      ← made.zero.rule.snapshot (ruleState zero) zero,
      ← made.small.rule.snapshot (ruleState small) small]

def expectedSamples : Result (List (Option (List QuerySample))) := do
  (← made.candidates origin time).mapM fun (zero, small) => do
    if zero.isEmpty && small.isEmpty then return none
    else
      let first ← zero.mapM fun alert => made.zero.indicator alert.state time
      let second ← small.mapM fun alert => made.small.indicator alert.state time
      return some (first ++ second)

end Expectations

def expectations : Expectations where
  alerts := made.expectedAlerts
  groups := made.expectedGroups
  samples := made.expectedSamples

/-! ## Its table of outcomes -/

/-- An alert that is active since a sample. -/
def active (template : Template) (state : ActiveState) (index : Nat) : ActiveAlert :=
  ⟨template, state, made.value index, made.sampleTime index⟩

def firing (template : Template) (fires : Int) (inactive : Nat) : Burst :=
  .firing template.labels template.rendered fires (made.sampleTime inactive) none

def resolved (template : Template) (fires : Int) (inactive : Nat) (next : Option Int) : Burst :=
  .resolved template.labels template.rendered fires (made.sampleTime inactive) next

/-- When the alert with the short hold fires. -/
def smallFires : Int := made.sampleTime becomesActive + made.setup.groupInterval

def testCase : TestCase where
  title := groupName
  description := description
  setup := made.setup
  group := made.group
  series := [
    ⟨metricLabels groupName zeroRuleName, made.samples⟩,
    ⟨metricLabels groupName smallRuleName, made.samples⟩]
  sampleCount := made.samples.length + trailingSamples
  classifier := made.classifier
  outcomes := [
    ⟨["inactive"], [[], []]⟩,
    ⟨["zf_firing", "sf_pending"], [[made.active made.zero .firing becomesActive],
      [made.active made.small .pending becomesActive]]⟩,
    ⟨["zf_firing", "sf_firing"], [[made.active made.zero .firing becomesActive],
      [made.active made.small .firing becomesActive]]⟩,
    ⟨["zf_firing_again"], [[made.active made.zero .firing activeAgain], []]⟩]
  bursts := [
    made.firing made.zero (made.sampleTime becomesActive) becomesInactive,
    made.resolved made.zero (made.sampleTime becomesActive) becomesInactive
      (some (made.sampleTime activeAgain)),
    made.firing made.zero (made.sampleTime activeAgain) inactiveAgain,
    made.resolved made.zero (made.sampleTime activeAgain) inactiveAgain none,
    made.firing made.small made.smallFires becomesInactive,
    made.resolved made.small made.smallFires becomesInactive none]

end Case

/-- The case for a set-up. -/
def testCase (setup : Setup) : Result TestCase := do return (← Case.new setup).testCase

end AlertConformance.ShortHold
