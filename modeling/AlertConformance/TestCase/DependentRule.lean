/-
AlertConformance.TestCase.DependentRule — a rule on top of other alerts.

The first rule has an alert for each of the two variants of its series.
The second rule fires as soon as both variants fire, in the very same
evaluation, so its notifications follow those of the first rule.
-/
import AlertConformance.TestCase.Basic

namespace AlertConformance.DependentRule

def groupName : String := "NewAlerts_OrderCheck"

def firstRuleName : String := groupName ++ "_Rule1"

def secondRuleName : String := groupName ++ "_Rule2"

def description : String :=
  "(1) New alerts of a rule become active and fire while another alert of the same rule is " ++
  "firing. " ++
  "(2) A rule based on ALERTS fires in the same evaluation as the alert it depends on, and its " ++
  "notifications are sent after that alert's. " ++
  "(3) Both rules resolve and their resolved notifications keep that order."

/-- The samples of the two variants. -/
def oneTokens : List String := ["3", "0x3", "15", "0x15", "9", "0x61"]

def twoTokens : List String := ["3", "0x5", "15", "0x15", "9", "0x59"]

/-- Where the series of the variants change. -/
def oneActive : Nat := 4

def oneInactive : Nat := 20

def twoActive : Nat := 6

def twoInactive : Nat := 22

def hold : Int := 1 * minute

/-- The intervals the case is meant for. -/
def usual : Setup := { sampleInterval := 15 * second, groupInterval := 10 * second }

/-! ## Rules -/

def firstRule : Result Rule :=
  thresholdRule groupName firstRuleName "10" hold [("foo", "bar"), ("rulegroup", groupName)]
    [("description", "This should produce more alerts later")]

/-- The alert of a variant. -/
def variantTemplate (rule : Rule) (variant : String) : Result Template :=
  Template.new rule rule.annotations (.ofList [("variant", variant)])

/-- The selector of the series that tells whether a variant fires. -/
def firingSelector (variant : String) : String :=
  let matchers : List (String × Text) := [
    ("alertstate", AlertState.firing), ("alertname", firstRuleName), ("foo", "bar"),
    ("rulegroup", groupName), ("variant", variant)]
  alertsMetricName ++ "\x7b" ++ ", ".intercalate (matchers.map formatMatcher) ++ "\x7d"

def secondExpr : String :=
  "(" ++ firingSelector "one" ++ " + ignoring(variant) " ++ firingSelector "two" ++ ") == 2"

/-- The rule on top of the first one, which has a label of its own where
the series have one of the same name. -/
def secondTemplate : Result Template := do
  let notes (alert foo : String) :=
    [("description", s!"Based on ALERTS. Old alertname was {alert}. foo was {foo}.")]
  let rule ← Rule.new secondRuleName secondExpr 0
    (.ofList [("ba_dum", "tss"), ("foo", "baz"), ("rulegroup", groupName)])
    (.ofList (notes (templateAction "$labels.alertname") (templateAction ".Labels.foo")))
  Template.new rule (.ofList (notes firstRuleName "bar"))
    (.ofList [("alertstate", AlertState.firing), ("foo", "bar"), ("rulegroup", groupName)])

/-! ## Phases -/

/-- The time of a sample. -/
def sampleTime (setup : Setup) (index : Nat) : Int := index * setup.sampleInterval

/-- When an alert fires that becomes active with a sample. -/
def firesAt (setup : Setup) (index : Nat) : Int :=
  sampleTime setup index + holdInIntervals hold setup.groupInterval

/-- The transitions between the phases. -/
def transitions (setup : Setup) : List Int := [
  sampleTime setup oneActive,
  sampleTime setup twoActive,
  firesAt setup oneActive,
  firesAt setup twoActive,
  sampleTime setup oneInactive,
  sampleTime setup twoInactive]

def windows (setup : Setup) (sampleCount : Nat) : Result (List Window) := do
  let edges ← (transitions setup).mapM inSeconds
  let horizon ← inSeconds (sampleCount * setup.sampleInterval + setup.groupInterval)
  phaseWindows edges horizon (← inSeconds setup.groupInterval)

/-- A phase: the states of the first variant, of the second variant and of
the second rule, where an alert may be inactive. -/
structure Phase where
  name : String
  one : Option ActiveState
  two : Option ActiveState
  derived : Option ActiveState

def phases : List Phase := [
  ⟨"inactive", none, none, none⟩,
  ⟨"one_pending", some .pending, none, none⟩,
  ⟨"both_pending", some .pending, some .pending, none⟩,
  ⟨"one_firing", some .firing, some .pending, none⟩,
  ⟨"all_firing", some .firing, some .firing, some .firing⟩,
  ⟨"two_firing", none, some .firing, none⟩,
  ⟨"resolved", none, none, none⟩]

/-! ## The case -/

/-- The notifications of an alert that fires and resolves. -/
def alertBursts (template : Template) (fires inactive : Int) : List Burst := [
  .firing template.labels template.rendered fires inactive none,
  .resolved template.labels template.rendered fires inactive none]

/-- What a case is made of: the samples and the alerts of both variants,
and the alert of the second rule. -/
structure Case where
  setup : Setup
  oneSamples : List Sample
  twoSamples : List Sample
  one : Template
  two : Template
  derived : Template
  group : RuleGroup
  classifier : Classifier

namespace Case

def new (setup : Setup) : Result Case := do
  let oneSamples ← sampleSlice setup.sampleInterval oneTokens
  let twoSamples ← sampleSlice setup.sampleInterval twoTokens
  let rule ← firstRule
  let one ← variantTemplate rule "one"
  let two ← variantTemplate rule "two"
  let derived ← secondTemplate
  let group ← RuleGroup.new groupName setup.groupInterval [rule, derived.rule]
  let windows ← windows setup (max oneSamples.length twoSamples.length + trailingSamples)
  let classifier ← Classifier.new
    ((phases.map Phase.name).zip (windows.map fun window => [window]))
  return { setup, oneSamples, twoSamples, one, two, derived, group, classifier }

variable (made : Case)

/-- The values of the alerts of the variants. -/
def oneValue : String := valueText made.oneSamples oneActive

def twoValue : String := valueText made.twoSamples twoActive

/-! ## Its expectations -/

section Expectations

variable (origin : Origin) (time : Int)

/-- The alerts of the first rule and of the second one in a phase. -/
def phaseAlerts (phase : Phase) : Result (List Alert × List Alert) := do
  let alert (template : Template) (value : String) (activeAt : Int) (state : ActiveState) :
      Result Alert := do
    return template.alert state.text value (some (← origin.after activeAt))
  let one ← phase.one.toList.mapM
    (alert made.one made.oneValue (sampleTime made.setup oneActive))
  let two ← phase.two.toList.mapM
    (alert made.two made.twoValue (sampleTime made.setup twoActive))
  let derived ← phase.derived.toList.mapM
    (alert made.derived "2" (firesAt made.setup twoActive))
  return (one ++ two, derived)

def candidates : Result (List (List Alert × List Alert)) := do
  let states := made.classifier.states (← origin.elapsed time)
  (phases.filter fun phase => states.contains phase.name).mapM (made.phaseAlerts origin)

def expectedAlerts : Result (List (List Alert)) := do
  return (← made.candidates origin time).map fun (first, second) => first ++ second

def expectedGroups : Result (List GroupSnapshot) := do
  (← made.candidates origin time).mapM fun (first, second) => do
    groupSnapshot made.group [
      ← made.one.rule.snapshot (ruleState first) first,
      ← made.derived.rule.snapshot (ruleState second) second]

/-- The templates by the labels of their alerts. -/
def templates : List (LabelKey × Template) :=
  Keyed.ofList ([made.one, made.two, made.derived].map fun template =>
    (template.labels.key, template))

/-- The pairs of an identity, as messages show them. -/
def showKey (key : LabelKey) : String :=
  (Literal.tuple (key.map fun (name, value) => .tuple [.text name, .text value])).render

/-- Each alert is indicated by the template that has its labels. -/
def expectedSamples : Result (List (Option (List QuerySample))) := do
  (← made.candidates origin time).mapM fun (first, second) => do
    return nonempty? (← (first ++ second).mapM fun alert => do
      (← lookup showKey alert.key made.templates).indicator alert.state time)

end Expectations

def expectations : Expectations where
  alerts := made.expectedAlerts
  groups := made.expectedGroups
  samples := made.expectedSamples

/-! ## Its table of outcomes -/

/-- The alert of a template, when it is active. -/
def active (template : Template) (value : String) (activeAt : Int) (state : Option ActiveState) :
    List ActiveAlert :=
  state.toList.map fun state => ⟨template, state, value, activeAt⟩

def outcome (phase : Phase) : Outcome := ⟨[phase.name], [
  active made.one made.oneValue (sampleTime made.setup oneActive) phase.one ++
    active made.two made.twoValue (sampleTime made.setup twoActive) phase.two,
  active made.derived "2" (firesAt made.setup twoActive) phase.derived]⟩

def testCase : TestCase where
  title := groupName
  description := description
  setup := made.setup
  group := made.group
  series := [
    ⟨(metricLabels groupName firstRuleName).insert "variant" "one", made.oneSamples⟩,
    ⟨(metricLabels groupName firstRuleName).insert "variant" "two", made.twoSamples⟩]
  sampleCount := max made.oneSamples.length made.twoSamples.length + trailingSamples
  classifier := made.classifier
  outcomes := phases.map made.outcome
  bursts :=
    alertBursts made.one (firesAt made.setup oneActive) (sampleTime made.setup oneInactive) ++
    alertBursts made.two (firesAt made.setup twoActive) (sampleTime made.setup twoInactive) ++
    alertBursts made.derived (firesAt made.setup twoActive) (sampleTime made.setup oneInactive)

end Case

/-- The case for a set-up. -/
def testCase (setup : Setup) : Result TestCase := do return (← Case.new setup).testCase

end AlertConformance.DependentRule
