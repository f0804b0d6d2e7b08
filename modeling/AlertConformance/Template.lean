/-
AlertConformance.Template — expected alerts from a rule.

A template is a rule with the texts that its annotations render to and the
labels that its expression returns.

* `Template.alert` — the alert on the alerts page.
* `Template.indicator` — the sample that indicates the alert.
* `Rule.snapshot`, `groupSnapshot` — a rule and its group on the rules
  page.
-/
import AlertConformance.Rule

namespace AlertConformance

/-- A rule, its rendered annotations, and the labels of the series that
its expression returns. -/
structure Template where
  rule : Rule
  rendered : Labels
  seriesLabels : Labels

namespace Template

/-- A checked template: the rendered annotations are those of the rule. -/
def new (rule : Rule) (rendered seriesLabels : Labels) : Result Template :=
  if rendered.sameNames rule.annotations then .ok { rule, rendered, seriesLabels }
  else .error (.definition (.annotationsNotCovered rule.name))

/-- The labels of an alert: those of the series under those of the rule,
and the rule's name. -/
def labels (template : Template) : Labels :=
  (template.seriesLabels.override template.rule.labels).insert "alertname" template.rule.name

def alert (template : Template) (state value : String) (activeAt : Option Int) : Alert where
  labels := template.labels
  annotations := template.rendered
  state := state
  value := value
  activeAt := activeAt

/-- The sample that indicates an alert in an active state at a time. -/
def activeSample (template : Template) (state : String) (time : Int) : QuerySample where
  metric := (template.labels.insert "__name__" alertsMetricName).insert "alertstate" state
  timestamp := time
  value := 1

/-- The sample that indicates an alert in a state at a time. An inactive
alert has none. -/
def indicator (template : Template) (state : String) (time : Int) : Result QuerySample :=
  if state = AlertState.inactive then .error .inactiveIndicator
  else .ok (template.activeSample state time)

end Template

/-! ## Rules and groups -/

/-- A rule on the rules page, where annotations are not rendered. -/
def Rule.snapshot (rule : Rule) (state : String) (alerts : List Alert) : Result RuleSnapshot := do
  return {
    name := rule.name
    query := rule.expr
    state := state
    labels := rule.labels
    annotations := rule.annotations
    duration := ← rule.holdSeconds
    alerts := alerts }

/-- A rule is in the most advanced state of its alerts. -/
def ruleState (alerts : List Alert) : String :=
  if alerts.any fun alert => alert.state = AlertState.firing then AlertState.firing
  else if alerts.any fun alert => alert.state = AlertState.pending then AlertState.pending
  else AlertState.inactive

/-- A group on the rules page, with one snapshot for each of its rules. -/
def groupSnapshot (group : RuleGroup) (rules : List RuleSnapshot) : Result GroupSnapshot :=
  if rules.length ≠ group.rules.length then
    .error (.definition (.snapshotSize group.name group.rules.length rules.length))
  else do
    return { name := group.name, interval := ← group.intervalSeconds, rules := rules }

end AlertConformance
