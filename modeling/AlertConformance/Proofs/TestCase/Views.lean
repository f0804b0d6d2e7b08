/-
AlertConformance.Proofs.TestCase.Views — the views of a test agree.

What a test expects of the alerts page, the rules page and the samples are
three views of one table of outcomes. They tell the same alerts, candidate
by candidate, as long as the table gives every rule its own alerts and no
two alerts of an outcome have the same labels.

* `Rule.Shown` — what the rules page says of a rule.
* `TestCase.Agree` — three candidates that say the same.
* `TestCase.Coherent` — a table that gives every rule its own alerts.
* `TestCase.Coherent.views_agree` — then the candidates agree, one by one.
-/
import AlertConformance.Proofs.TestCase.Acceptance

namespace AlertConformance

/-! ## Candidates that agree -/

/-- What the rules page says of a rule: the definition of the rule with the
hold in seconds, alerts with its name and labels, and the most advanced
state of these. -/
structure Rule.Shown (rule : Rule) (snapshot : RuleSnapshot) : Prop where
  name : snapshot.name = rule.name
  query : snapshot.query = rule.expr
  labels : snapshot.labels = rule.labels
  annotations : snapshot.annotations = rule.annotations
  duration : rule.holdSeconds = .ok snapshot.duration
  alertname : ∀ alert ∈ snapshot.alerts, alert.labels.get? "alertname" = some rule.name
  included : ∀ alert ∈ snapshot.alerts, ∀ name value,
    rule.labels.get? name = some value → alert.labels.get? name = some value
  firing : (∃ alert ∈ snapshot.alerts, alert.state = AlertState.firing) →
    snapshot.state = AlertState.firing
  pending : (∀ alert ∈ snapshot.alerts, alert.state ≠ AlertState.firing) →
    (∃ alert ∈ snapshot.alerts, alert.state = AlertState.pending) →
    snapshot.state = AlertState.pending
  inactive : (∀ alert ∈ snapshot.alerts,
      alert.state ≠ AlertState.firing ∧ alert.state ≠ AlertState.pending) →
    snapshot.state = AlertState.inactive

/-- Candidates of the three views at a time that say the same: the rules of
the group have the alerts of the page, in order, and the samples indicate
them, one each. There is no vector at all when there is no alert. -/
structure TestCase.Agree (test : TestCase) (time : Int) (page : List Alert)
    (group : GroupSnapshot) (vector : Option (List QuerySample)) : Prop where
  name : group.name = test.group.name
  interval : test.group.intervalSeconds = .ok group.interval
  rules : List.Forall₂ Rule.Shown test.group.rules group.rules
  alerts : group.rules.flatMap RuleSnapshot.alerts = page
  none_iff : vector = none ↔ page = []
  samples : vector.getD [] = page.map fun alert => alert.indicator time
  distinct : (page.map Alert.key).Nodup
  distinct_samples : ((vector.getD []).map QuerySample.key).Nodup

/-- The outcomes of a test give every rule alerts of its own, which can be
told apart, and intervals and holds can be told in seconds. The name of an
alert is left to its rule. -/
structure TestCase.Coherent (test : TestCase) : Prop where
  interval : ∃ x, inSeconds test.group.interval = .ok x
  holds : ∀ rule ∈ test.group.rules, ∃ x, inSeconds rule.hold = .ok x
  unnamed : ∀ rule ∈ test.group.rules, rule.labels.get? "alertname" = none
  owned : ∀ outcome ∈ test.outcomes,
    List.Forall₂ (fun rule active => ∀ a ∈ active, a.template.rule = rule)
      test.group.rules outcome.rules
  distinct : ∀ outcome ∈ test.outcomes, outcome.Distinct

variable {test : TestCase} {outcome : Outcome} {zeroTime time : Int}

/-! ## Rules -/

/-- An alert has the labels of its rule, as these leave the name to it. -/
theorem Template.get?_rule_label {template : Template} {name value : String}
    (hunnamed : template.rule.labels.get? "alertname" = none)
    (h : template.rule.labels.get? name = some value) :
    template.labels.get? name = some value := by
  have hname : "alertname" ≠ name := by
    rintro rfl
    rw [hunnamed] at h
    simp at h
  rw [Template.labels, Labels.get?_insert, if_neg hname, Labels.get?_override, h, Option.some_or]

/-- A rule is shown by its snapshot when its alerts are its own. -/
theorem Rule.shown_of_snapshot {rule : Rule} {active : List ActiveAlert} {snapshot : RuleSnapshot}
    (hunnamed : rule.labels.get? "alertname" = none)
    (howned : ∀ a ∈ active, a.template.rule = rule)
    (h : rule.snapshot (ruleState (active.map fun a => a.alert zeroTime))
      (active.map fun a => a.alert zeroTime) = .ok snapshot) :
    rule.Shown snapshot ∧ snapshot.alerts = active.map fun a => a.alert zeroTime := by
  obtain ⟨x, hx, h⟩ := bind_eq_ok_iff.mp h
  obtain rfl := Except.ok.inj h
  refine ⟨?_, rfl⟩
  constructor
  case name => rfl
  case query => rfl
  case labels => rfl
  case annotations => rfl
  case duration => exact hx
  case alertname =>
    intro alert hmem
    obtain ⟨a, ha, rfl⟩ := List.mem_map.mp hmem
    rw [← howned a ha]
    exact a.template.get?_alertname
  case included =>
    intro alert hmem name value hlabel
    obtain ⟨a, ha, rfl⟩ := List.mem_map.mp hmem
    obtain rfl := howned a ha
    exact Template.get?_rule_label hunnamed hlabel
  case firing =>
    intro hfiring
    simp only [ruleState]
    rw [if_pos (by simpa using hfiring)]
  case pending =>
    intro hfiring hpending
    simp only [ruleState]
    rw [if_neg (by simpa using hfiring), if_pos (by simpa using hpending)]
  case inactive =>
    intro hnone
    simp only [ruleState]
    rw [if_neg (by simpa using fun a ha => (hnone _ (List.mem_map_of_mem ha)).1),
      if_neg (by simpa using fun a ha => (hnone _ (List.mem_map_of_mem ha)).2)]

/-- The snapshots of rules that show alerts of their own. -/
theorem shown_of_snapshots {rules : List Rule} {actives : List (List ActiveAlert)}
    {snapshots : List RuleSnapshot}
    (hunnamed : ∀ rule ∈ rules, rule.labels.get? "alertname" = none)
    (howned : List.Forall₂ (fun rule active => ∀ a ∈ active, a.template.rule = rule) rules actives)
    (h : List.Forall₂ (fun p s => Rule.snapshot p.1 (ruleState p.2) p.2 = .ok s)
      (rules.zip (actives.map fun active => active.map fun a => a.alert zeroTime)) snapshots) :
    List.Forall₂ Rule.Shown rules snapshots ∧
      snapshots.flatMap RuleSnapshot.alerts =
        actives.flatten.map fun a => a.alert zeroTime := by
  induction howned generalizing snapshots with
  | nil =>
    cases h
    exact ⟨.nil, rfl⟩
  | cons hhead _ ih =>
    cases h with
    | cons hsnapshot hrest =>
      obtain ⟨hshown, halerts⟩ :=
        Rule.shown_of_snapshot (hunnamed _ List.mem_cons_self) hhead hsnapshot
      obtain ⟨htail, hflat⟩ :=
        ih (fun rule hmem => hunnamed rule (List.mem_cons_of_mem _ hmem)) hrest
      refine ⟨.cons hshown htail, ?_⟩
      rw [List.flatMap_cons, halerts, hflat, List.flatten_cons, List.map_append]

/-! ## Samples -/

theorem TestCase.samplesOf_eq_none_iff : samplesOf time outcome = none ↔ outcome.active = [] := by
  rw [samplesOf, ← List.isEmpty_iff]
  by_cases hempty : outcome.active.isEmpty = true
  · simp [hempty]
  · simp [hempty]

/-! ## Views -/

namespace TestCase.Coherent

/-- An outcome has a rule group, and its three views agree. -/
theorem outcome_agree (h : test.Coherent) (hmem : outcome ∈ test.outcomes) (zeroTime time : Int) :
    ∃ group, test.groupOf zeroTime outcome = .ok group ∧
      test.Agree time (outcome.active.map fun a => a.alert zeroTime) group
        (samplesOf time outcome) := by
  obtain ⟨x, hx⟩ := h.interval
  have howned := h.owned outcome hmem
  have hdistinct := h.distinct outcome hmem
  obtain ⟨snapshots, hpage, hsnapshots⟩ := RuleGroup.page_eq_ok hx h.holds
    ((List.length_map fun active => active.map fun a => a.alert zeroTime).trans
      howned.length_eq.symm)
  obtain ⟨hshown, halerts⟩ := shown_of_snapshots h.unnamed howned hsnapshots
  refine ⟨_, (groupOf_eq test zeroTime outcome).trans hpage, ?_⟩
  constructor
  case name => rfl
  case interval => exact hx
  case rules => exact hshown
  case alerts => exact halerts
  case none_iff => rw [samplesOf_eq_none_iff, List.map_eq_nil_iff]
  case samples =>
    rw [samplesOf_getD, List.map_map]
    rfl
  case distinct =>
    rw [List.map_map]
    exact hdistinct.nodup_keys (fun a => a.template.labels) fun _ => rfl
  case distinct_samples =>
    rw [samplesOf_getD, List.map_map]
    exact hdistinct.nodup_keys (fun a => (a.sample time).metric) fun a => a.identity_metric time

/-- **Agreement**: at any time the views of a test have the same number of
candidates, and those that stand at one place agree. -/
theorem views_agree (h : test.Coherent) (zeroTime time : Int) :
    ∃ groups, test.expectedGroups zeroTime time = .ok groups ∧
      groups.length = (test.expectedAlerts zeroTime time).length ∧
      (test.expectedSamples zeroTime time).length = (test.expectedAlerts zeroTime time).length ∧
      ∀ (i : Nat) page group vector, (test.expectedAlerts zeroTime time)[i]? = some page →
        groups[i]? = some group → (test.expectedSamples zeroTime time)[i]? = some vector →
        test.Agree time page group vector := by
  have hviews : ∀ outcome ∈ test.outcomesAt (time - zeroTime), ∃ group,
      test.groupOf zeroTime outcome = .ok group ∧
        test.Agree time (outcome.active.map fun a => a.alert zeroTime) group
          (samplesOf time outcome) :=
    fun outcome hmem => h.outcome_agree (mem_outcomesAt.mp hmem).1 zeroTime time
  obtain ⟨groups, hgroups⟩ : ∃ groups, test.expectedGroups zeroTime time = .ok groups := by
    refine exists_mapM_eq_ok fun outcome hmem => ?_
    obtain ⟨group, hgroup, -⟩ := hviews outcome hmem
    exact ⟨group, hgroup⟩
  have hpairs := mapM_eq_ok_iff.mp hgroups
  refine ⟨groups, hgroups, ?_, ?_, ?_⟩
  · rw [expectedAlerts, List.length_map, hpairs.length_eq]
  · rw [expectedAlerts, expectedSamples, List.length_map, List.length_map]
  · intro i page group vector hpage hgroup hvector
    rw [expectedAlerts, List.getElem?_map, Option.map_eq_some_iff] at hpage
    obtain ⟨outcome, houtcome, rfl⟩ := hpage
    rw [expectedSamples, List.getElem?_map, houtcome, Option.map_some, Option.some.injEq] at hvector
    obtain rfl := hvector
    obtain ⟨hi, hget⟩ := List.getElem?_eq_some_iff.mp houtcome
    obtain ⟨hi', hget'⟩ := List.getElem?_eq_some_iff.mp hgroup
    have hpair := (List.forall₂_iff_get.mp hpairs).2 i hi hi'
    obtain ⟨shown, hshown, hagree⟩ := hviews outcome (hget ▸ List.getElem_mem hi)
    have hsame : shown = group := by
      simp only [List.get_eq_getElem, hget, hget'] at hpair
      exact Except.ok.inj (hshown.symm.trans hpair)
    exact hsame ▸ hagree

end TestCase.Coherent

end AlertConformance
