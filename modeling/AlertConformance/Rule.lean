/-
AlertConformance.Rule — alerting rules and rule groups.

* `Rule.new`, `RuleGroup.new` — definitions are checked when they are
  made: names and expressions are there, durations and intervals make
  sense, and a group has each rule once.
* `formatLabels` — a label set as a series selector.
* `rulesDocument` — the groups of all cases as one document, each group
  name once.
-/
import AlertConformance.Duration
import AlertConformance.Json.Printer
import AlertConformance.Settings

namespace AlertConformance

/-! ## Selectors -/

/-- The labels of the series that the rule of a case reads. -/
def metricLabels (group alert : String) : Labels :=
  .ofList [("__name__", testMetricName), ("alertname", alert), ("rulegroup", group)]

/-- The same labels for any names of a group and an alert. -/
def metricTexts (group alert : Text) : LabelTexts :=
  .ofList [("__name__", testMetricName), ("alertname", alert), ("rulegroup", group)]

theorem texts_metricLabels (group alert : String) :
    (metricLabels group alert).texts = metricTexts group alert := rfl

/-- One matcher of a selector. -/
def formatMatcher (entry : String × Text) : String := s!"{entry.1}={Json.quotedText entry.2}"

/-- A label set as a series selector, names in order. -/
def formatLabels (labels : LabelTexts) : String :=
  "\x7b" ++ ", ".intercalate (labels.sorted.map formatMatcher) ++ "\x7d"

/-! ## Rules -/

/-- An alerting rule; `hold` is how long its expression has to match
before the alert fires. -/
structure Rule where
  name : String
  expr : String
  hold : Int
  labels : Labels
  annotations : Labels
  name_ne_empty : name ≠ ""
  expr_ne_empty : expr ≠ ""
  hold_nonneg : 0 ≤ hold
  names_ne_empty : "" ∉ labels.names ++ annotations.names

/-- A checked rule. -/
def Rule.new (name expr : String) (hold : Int) (labels annotations : Labels) : Result Rule :=
  if hName : name = "" then .error (.definition .ruleWithoutName)
  else if hExpr : expr = "" then .error (.definition (.ruleWithoutExpression name))
  else if hHold : hold < 0 then .error (.definition (.negativeHold name))
  else if hNames : "" ∈ labels.names ++ annotations.names then
    .error (.definition (.emptyLabelName name))
  else .ok {
    name, expr, hold, labels, annotations
    name_ne_empty := hName
    expr_ne_empty := hExpr
    hold_nonneg := Int.not_lt.mp hHold
    names_ne_empty := hNames }

/-- How long a rule holds an alert back, in seconds. -/
def Rule.holdSeconds (rule : Rule) : Result Binary64 := inSeconds rule.hold

/-! ## Groups -/

/-- Rules that are evaluated together, every `interval`. -/
structure RuleGroup where
  name : String
  interval : Int
  rules : List Rule
  name_ne_empty : name ≠ ""
  interval_pos : 0 < interval
  rules_ne_nil : rules ≠ []
  distinct : (rules.map Rule.name).Nodup

/-- The first name that has come before. -/
def firstRepeated? (seen : List String) : List String → Option String
  | [] => none
  | name :: rest => if name ∈ seen then some name else firstRepeated? (name :: seen) rest

theorem nodup_of_firstRepeated?_eq_none {seen names : List String}
    (h : firstRepeated? seen names = none) : names.Nodup ∧ ∀ name ∈ names, name ∉ seen := by
  induction names generalizing seen with
  | nil => simp
  | cons name rest ih =>
    by_cases hm : name ∈ seen
    · simp [firstRepeated?, hm] at h
    · simp only [firstRepeated?, if_neg hm] at h
      obtain ⟨nodup, fresh⟩ := ih h
      refine ⟨List.nodup_cons.mpr ⟨fun hr => fresh name hr (by simp), nodup⟩, ?_⟩
      intro other ho
      rcases List.mem_cons.mp ho with rfl | hr
      · exact hm
      · exact fun hs => fresh other hr (List.mem_cons_of_mem _ hs)

/-- A checked group. -/
def RuleGroup.new (name : String) (interval : Int) (rules : List Rule) : Result RuleGroup :=
  if hName : name = "" then .error (.definition .groupWithoutName)
  else if hInterval : interval ≤ 0 then .error (.definition (.groupInterval name))
  else if hRules : rules = [] then .error (.definition (.groupWithoutRules name))
  else match hTwice : firstRepeated? [] (rules.map Rule.name) with
    | some rule => .error (.definition (.ruleTwice name rule))
    | none => .ok {
        name, interval, rules
        name_ne_empty := hName
        interval_pos := Int.not_le.mp hInterval
        rules_ne_nil := hRules
        distinct := (nodup_of_firstRepeated?_eq_none hTwice).1 }

namespace RuleGroup

def intervalSeconds (group : RuleGroup) : Result Binary64 := inSeconds group.interval

/-- The rule of a name. -/
def rule (group : RuleGroup) (name : String) : Result Rule :=
  match group.rules.find? fun rule => rule.name = name with
  | some rule => .ok rule
  | none => .error (.unknownName name)

end RuleGroup

/-! ## Documents -/

/-- A rule as it stands in a rules file. A hold of zero and empty label
sets are left out. -/
structure RuleDocument where
  alert : String
  expr : String
  hold : Option String
  labels : Option Labels
  annotations : Option Labels

/-- A group as it stands in a rules file. -/
structure GroupDocument where
  name : String
  interval : String
  rules : List RuleDocument

/-- A label set that is left out when it is empty. -/
def Labels.nonempty? (labels : Labels) : Option Labels :=
  if labels.isEmpty then none else some labels

def Rule.document (rule : Rule) : RuleDocument where
  alert := rule.name
  expr := rule.expr
  hold := if rule.hold = 0 then none else some (durationText rule.hold.toNat)
  labels := rule.labels.nonempty?
  annotations := rule.annotations.nonempty?

def RuleGroup.document (group : RuleGroup) : GroupDocument where
  name := group.name
  interval := durationText group.interval.toNat
  rules := group.rules.map Rule.document

/-- The documents of groups, each group name once. -/
def rulesDocument (groups : List RuleGroup) : Result (List GroupDocument) :=
  match firstRepeated? [] (groups.map RuleGroup.name) with
  | some name => .error (.definition (.groupTwice name))
  | none => .ok (groups.map RuleGroup.document)

end AlertConformance
