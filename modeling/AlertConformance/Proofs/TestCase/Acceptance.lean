/-
AlertConformance.Proofs.TestCase.Acceptance — when a test case accepts
what an engine shows.

The alerts page, the rules page and the samples are three views of the
same alerts. When what the engine shows fits an outcome that is possible
at the time, all three checks pass, in whatever order the engine lists its
alerts.

* `Lists`, `RuleGroup.page`, `Alert.indicator` — the views of an engine.
* `TestCase.Accepts` — all three checks pass.
* `TestCase.Foresees` — what is shown fits a possible outcome.
* `TestCase.Viewable` — the outcomes of a test have all views.
* `TestCase.Viewable.accepts` — what fits is accepted.
-/
import AlertConformance.Proofs.Check.Matching
import AlertConformance.Proofs.Evaluation.Evaluator
import AlertConformance.Proofs.Window.Coverage

namespace AlertConformance

/-! ## Views of an engine -/

/-- A page lists some alerts, in any order. -/
def Lists (alerts page : List Alert) : Prop := Matches (fun a b => a.same b = true) alerts page

/-- The rules page of a group whose rules have some alerts. -/
def RuleGroup.page (group : RuleGroup) (alerts : List (List Alert)) : Result GroupSnapshot := do
  let rules ← (group.rules.zip alerts).mapM fun (rule, alerts) =>
    rule.snapshot (ruleState alerts) alerts
  groupSnapshot group rules

/-- The sample that indicates an alert at a time. -/
def Alert.indicator (alert : Alert) (time : Int) : QuerySample where
  metric := (alert.labels.insert "__name__" alertsMetricName).insert "alertstate" alert.state
  timestamp := time
  value := 1

/-- Two samples say the same. -/
structure QuerySample.Agrees (a b : QuerySample) : Prop where
  metric : a.metric.same b.metric = true
  value : a.value.equal b.value = true
  timestamp : a.timestamp = b.timestamp

/-- A test that starts at `zeroTime` accepts an engine that shows alerts,
rule by rule, at an elapsed time: the page of its alerts, the page of its
rules and the samples of its alerts all pass. -/
structure TestCase.Accepts (test : TestCase) (zeroTime time : Int) (shown : List (List Alert)) :
    Prop where
  alerts : ∀ page, Lists (shown.flatten.map fun alert => alert.since zeroTime) page →
    test.checkAlerts zeroTime (zeroTime + time) page = .ok ()
  group : ∀ listed,
    List.Forall₂ Lists (shown.map fun alerts => alerts.map fun alert => alert.since zeroTime)
      listed →
    ∃ page, test.group.page listed = .ok page ∧
      test.checkGroup zeroTime (zeroTime + time) (some page) = .ok ()
  samples : ∀ vector,
    Matches QuerySample.Agrees
      (shown.flatten.map fun alert => alert.indicator (zeroTime + time)) vector →
    test.checkSamples zeroTime (zeroTime + time) vector = .ok ()

/-- Some outcome that is possible at an elapsed time has the alerts that
an engine shows, rule by rule. -/
def TestCase.Foresees (test : TestCase) (time : Int) (shown : List (List Alert)) : Prop :=
  ∃ outcome ∈ test.outcomesAt time, outcome.Fits test.setup.groupInterval shown

/-! ## Views of a test -/

/-- The labels that tell the alerts of a test apart. -/
def Labels.identity (labels : Labels) : Option String × Option String :=
  (labels.get? "alertname", labels.get? "variant")

/-- Equal label sets tell the same alert. -/
theorem Labels.identity_eq_of_key_eq {a b : Labels} (h : a.key = b.key) :
    a.identity = b.identity := by
  have hsame := (Labels.key_eq_iff_same a b).mp h
  rw [identity, identity, get?_eq_of_same hsame, get?_eq_of_same hsame]

theorem Template.get?_alertname (template : Template) :
    template.labels.get? "alertname" = some template.rule.name := by
  rw [labels, Labels.get?_insert, if_pos rfl]

/-- No two alerts of an outcome are the same. -/
def Outcome.Distinct (outcome : Outcome) : Prop :=
  (outcome.active.map fun active => active.template.labels.identity).Nodup

/-- The outcomes of a test tell the alerts of every rule, each one once,
and intervals and holds are small enough to be shown in seconds. -/
structure TestCase.Viewable (test : TestCase) : Prop where
  interval : test.group.interval.natAbs < 2 ^ 53
  holds : ∀ rule ∈ test.group.rules, rule.hold.natAbs < 2 ^ 53
  complete : ∀ outcome ∈ test.outcomes, outcome.rules.length = test.group.rules.length
  distinct : ∀ outcome ∈ test.outcomes, outcome.Distinct

variable {test : TestCase} {outcome : Outcome} {shown : List (List Alert)}
  {zeroTime time tolerance : Int}

/-- Label sets from which the alerts of an outcome can be told have
different keys. -/
theorem Outcome.Distinct.nodup_keys (h : outcome.Distinct) (labels : ActiveAlert → Labels)
    (hlabels : ∀ active, (labels active).identity = active.template.labels.identity) :
    (outcome.active.map fun active => (labels active).key).Nodup := by
  rw [Distinct, List.Nodup, List.pairwise_map] at h
  rw [List.Nodup, List.pairwise_map]
  refine h.imp fun {a b} hne hkey => hne ?_
  rw [← hlabels a, ← hlabels b]
  exact Labels.identity_eq_of_key_eq hkey

/-! ## Alerts -/

/-- An expected alert does not differ from its listing on a page. -/
theorem ActiveAlert.Agrees.difference?_eq_none {expected : ActiveAlert} {alert listed : Alert}
    (h : expected.Agrees tolerance alert) (hsame : (alert.since zeroTime).same listed = true) :
    (expected.alert zeroTime).difference? tolerance listed = none := by
  obtain ⟨elapsed, helapsed, hwithin⟩ := h.activeAt
  simp only [Alert.same, Alert.since, Bool.and_eq_true, decide_eq_true_eq, helapsed,
    Option.map_some] at hsame
  obtain ⟨⟨⟨⟨hlabels, hannotations⟩, hstate⟩, hvalue⟩, hactive⟩ := hsame
  refine Alert.difference?_eq_none_iff.mpr ⟨?_, ?_, ?_, ?_, ?_⟩
  · exact Labels.same_trans h.labels hlabels
  · exact h.state.trans hstate
  · exact Labels.same_trans h.annotations hannotations
  · show valuesEqual expected.value listed.value = true
    rw [h.value, hvalue]
    exact valuesEqual_self _
  · rw [← hactive]
    simp only [withinTolerance, decide_eq_true_eq] at hwithin
    show bothWithin (some (zeroTime + expected.activeAt)) (some (zeroTime + elapsed)) _ = true
    simp only [bothWithin, withinTolerance, decide_eq_true_eq]
    omega

/-- The alerts of a rule do not differ from their listing. -/
theorem alertsDifference?_eq_none {expected : List ActiveAlert} {alerts listed : List Alert}
    (hagrees : List.Forall₂ (ActiveAlert.Agrees tolerance) expected alerts)
    (hlists : Lists (alerts.map fun alert => alert.since zeroTime) listed)
    (hdistinct : (expected.map fun active => active.template.labels.key).Nodup) :
    alertsDifference? tolerance (expected.map fun active => active.alert zeroTime) listed =
      none := by
  refine Matches.alertsDifference? (by rwa [List.map_map]) ?_
  exact hlists.comp hagrees fun _ _ _ h hsame => h.difference?_eq_none hsame

/-! ## Rules -/

/-- A rule is in the state that its listed alerts tell. -/
theorem ruleState_eq {expected listed : List Alert}
    (h : (expected.map Alert.state).Perm (listed.map Alert.state)) :
    ruleState expected = ruleState listed := by
  have hany : ∀ state : String, (expected.any fun alert => alert.state = state) =
      listed.any fun alert => alert.state = state := by
    intro state
    have hperm := h.any_eq (f := fun other => decide (other = state))
    rwa [List.any_map, List.any_map] at hperm
  rw [ruleState, ruleState, hany, hany]

/-- The state of a rule is the one of its listing. -/
theorem ruleState_listed {expected : List ActiveAlert} {alerts listed : List Alert}
    (hagrees : List.Forall₂ (ActiveAlert.Agrees tolerance) expected alerts)
    (hlists : Lists (alerts.map fun alert => alert.since zeroTime) listed) :
    ruleState (expected.map fun active => active.alert zeroTime) = ruleState listed := by
  have hstates : Matches (fun a b => a.state = b.state)
      (expected.map fun active => active.alert zeroTime) listed := by
    refine hlists.comp hagrees fun e s a h hsame => ?_
    simp only [Alert.same, Alert.since, Bool.and_eq_true] at hsame
    exact h.state.trans (of_decide_eq_true hsame.1.1.2)
  exact ruleState_eq (hstates.map_perm fun _ _ h => h)

/-- A time that is not too long can be told in seconds, and the number is
close to itself. -/
theorem exists_inSeconds {duration : Int} (h : duration.natAbs < 2 ^ 53) :
    ∃ x, inSeconds duration = .ok x ∧ x.isClose x = true := by
  obtain ⟨s, m, e, heq, -⟩ := (Binary64.holds_ofInt h).exists_finite
  refine ⟨.finite s m e / 1000, by rw [inSeconds, Binary64.ofInt?, heq], ?_⟩
  exact Binary64.isClose_self (Binary64.isNaN_div rfl Binary64.holds_thousand (by decide))

/-- A rule with alerts, and its hold in seconds. -/
def Rule.snapshotIn (rule : Rule) (duration : Binary64) (state : String) (alerts : List Alert) :
    RuleSnapshot where
  name := rule.name
  query := rule.expr
  state := state
  labels := rule.labels
  annotations := rule.annotations
  duration := duration
  alerts := alerts

theorem Rule.snapshot_eq_ok {rule : Rule} {x : Binary64} (h : inSeconds rule.hold = .ok x)
    (state : String) (alerts : List Alert) :
    rule.snapshot state alerts = .ok (rule.snapshotIn x state alerts) :=
  bind_eq_ok_iff.mpr ⟨x, h, rfl⟩

/-- The snapshots of rules do not differ when neither their states nor
their alerts do. -/
theorem snapshots_agree {rules : List Rule} {expected actual : List (List Alert)}
    {es as : List RuleSnapshot} (hholds : ∀ rule ∈ rules, rule.hold.natAbs < 2 ^ 53)
    (halerts : List.Forall₂ (fun e a => ruleState e = ruleState a ∧
      alertsDifference? tolerance e a = none) expected actual)
    (hes : List.Forall₂ (fun p s => Rule.snapshot p.1 (ruleState p.2) p.2 = .ok s)
      (rules.zip expected) es)
    (has : List.Forall₂ (fun p s => Rule.snapshot p.1 (ruleState p.2) p.2 = .ok s)
      (rules.zip actual) as) :
    List.Forall₂ (fun e a => RuleSnapshot.difference? tolerance e a = none) es as := by
  induction halerts generalizing rules es as with
  | nil =>
    rw [List.zip_nil_right] at hes has
    cases hes
    cases has
    exact .nil
  | cons hhead _ ih =>
    cases rules with
    | nil =>
      cases hes
      cases has
      exact .nil
    | cons rule rules =>
      obtain ⟨x, hx, hclose⟩ := exists_inSeconds (hholds rule List.mem_cons_self)
      cases hes with
      | cons he hes =>
      cases has with
      | cons ha has =>
      rw [Rule.snapshot_eq_ok hx] at he ha
      cases he
      cases ha
      refine .cons ?_ (ih (fun other hmem => hholds other (List.mem_cons_of_mem _ hmem)) hes has)
      rw [← hhead.1]
      exact RuleSnapshot.difference?_eq_none (rule.snapshotIn x _ _) hclose hhead.2

/-- A group that shows alerts for each of its rules has a page. -/
theorem RuleGroup.page_eq_ok {group : RuleGroup} {x : Binary64} {alerts : List (List Alert)}
    (hx : inSeconds group.interval = .ok x)
    (hholds : ∀ rule ∈ group.rules, ∃ y, inSeconds rule.hold = .ok y)
    (hlength : alerts.length = group.rules.length) :
    ∃ snapshots, group.page alerts = .ok ⟨group.name, x, snapshots⟩ ∧
      List.Forall₂ (fun p s => Rule.snapshot p.1 (ruleState p.2) p.2 = .ok s)
        (group.rules.zip alerts) snapshots := by
  obtain ⟨snapshots, hsnapshots⟩ : ∃ snapshots, (group.rules.zip alerts).mapM
      (fun p => Rule.snapshot p.1 (ruleState p.2) p.2) = .ok snapshots := by
    refine exists_mapM_eq_ok fun p hp => ?_
    obtain ⟨y, hy⟩ := hholds p.1 (List.of_mem_zip hp).1
    exact ⟨_, Rule.snapshot_eq_ok hy _ _⟩
  have hpairs := mapM_eq_ok_iff.mp hsnapshots
  have hcount : snapshots.length = group.rules.length := by
    rw [← hpairs.length_eq, List.length_zip, hlength, Nat.min_self]
  refine ⟨snapshots, bind_eq_ok_iff.mpr ⟨snapshots, hsnapshots, ?_⟩, hpairs⟩
  rw [groupSnapshot, if_neg (not_not_intro hcount)]
  exact bind_eq_ok_iff.mpr ⟨x, hx, rfl⟩

/-- An outcome's rule group is the page of its alerts. -/
theorem TestCase.groupOf_eq (test : TestCase) (zeroTime : Int) (outcome : Outcome) :
    test.groupOf zeroTime outcome = test.group.page
      (outcome.rules.map fun active => active.map fun active => active.alert zeroTime) := by
  rw [groupOf, RuleGroup.page, List.zip_map_right, List.mapM_map]
  rfl

/-! ## Samples -/

/-- The samples of an outcome, none when there is no vector. -/
theorem TestCase.samplesOf_getD (time : Int) (outcome : Outcome) :
    (samplesOf time outcome).getD [] = outcome.active.map fun active => active.sample time := by
  unfold samplesOf
  split
  · rename_i hempty
    rw [List.isEmpty_iff.mp hempty]
    rfl
  · rfl

/-- The metric of a sample tells alerts apart as their labels do. -/
theorem ActiveAlert.identity_metric (active : ActiveAlert) (time : Int) :
    (active.sample time).metric.identity = active.template.labels.identity := by
  simp [Labels.identity, ActiveAlert.sample, Template.activeSample, Labels.get?_insert]

/-- An expected sample does not differ from the one of the alert. -/
theorem ActiveAlert.Agrees.sample_difference?_eq_none {expected : ActiveAlert} {alert : Alert}
    {listed : QuerySample} (htolerance : 0 ≤ tolerance) (h : expected.Agrees tolerance alert)
    (hsame : (alert.indicator time).Agrees listed) :
    (expected.sample time).difference? tolerance listed = none := by
  refine QuerySample.difference?_eq_none_iff.mpr ⟨?_, hsame.value, ?_⟩
  · have hlabels := Labels.same_insert (Labels.same_insert h.labels "__name__" alertsMetricName)
      "alertstate" expected.state.text
    refine Labels.same_trans hlabels ?_
    rw [h.state]
    exact hsame.metric
  · have htime : time = listed.timestamp := hsame.timestamp
    show withinTolerance time listed.timestamp tolerance = true
    rw [← htime, withinTolerance, decide_eq_true_eq]
    omega

/-! ## Acceptance -/

namespace TestCase.Viewable

/-- The alerts of each rule of an outcome do not differ from their
listing. -/
theorem rules_agree (hdistinct : outcome.Distinct) (hfits : outcome.Fits tolerance shown)
    {listed : List (List Alert)}
    (hlisted : List.Forall₂ Lists
      (shown.map fun alerts => alerts.map fun alert => alert.since zeroTime) listed) :
    List.Forall₂ (fun e a => ruleState e = ruleState a ∧
      alertsDifference? tolerance e a = none)
      (outcome.rules.map fun active => active.map fun active => active.alert zeroTime) listed := by
  have hkeys := hdistinct.nodup_keys (fun active => active.template.labels) fun _ => rfl
  rw [Outcome.active] at hkeys
  unfold Outcome.Fits at hfits
  generalize outcome.rules = rules at hfits hkeys ⊢
  rw [List.forall₂_map_left_iff] at hlisted ⊢
  induction hfits generalizing listed with
  | nil =>
    cases hlisted
    exact .nil
  | cons hhead _ ih =>
    cases hlisted with
    | cons hlists hlisted =>
      rw [List.flatten_cons, List.map_append, List.nodup_append] at hkeys
      exact .cons ⟨ruleState_listed hhead hlists, alertsDifference?_eq_none hhead hlists hkeys.1⟩
        (ih hlisted hkeys.2.1)

section

variable (hview : test.Viewable) (hmem : outcome ∈ test.outcomesAt time)
  (hfits : outcome.Fits test.setup.groupInterval shown)

include hview hmem hfits

theorem checkAlerts_ok {page : List Alert}
    (hlists : Lists (shown.flatten.map fun alert => alert.since zeroTime) page) :
    test.checkAlerts zeroTime (zeroTime + time) page = .ok () := by
  have hdistinct := hview.distinct outcome (mem_outcomesAt.mp hmem).1
  refine checkAgainst_ok (outcome.active.map fun active => active.alert zeroTime)
    ?_ ?_ _ _ _
  · rw [expectedAlerts, add_sub_cancel_left]
    exact List.mem_map_of_mem hmem
  · exact alertsDifference?_eq_none (List.rel_flatten hfits) hlists
      (hdistinct.nodup_keys (fun active => active.template.labels) fun _ => rfl)

theorem checkGroup_ok {listed : List (List Alert)}
    (hlisted : List.Forall₂ Lists
      (shown.map fun alerts => alerts.map fun alert => alert.since zeroTime) listed) :
    ∃ page, test.group.page listed = .ok page ∧
      test.checkGroup zeroTime (zeroTime + time) (some page) = .ok () := by
  have houtcome := (mem_outcomesAt.mp hmem).1
  have hrules := rules_agree (hview.distinct outcome houtcome) hfits hlisted
  have hlength := hview.complete outcome houtcome
  obtain ⟨x, hx, hclose⟩ := exists_inSeconds hview.interval
  have hholds : ∀ rule ∈ test.group.rules, ∃ y, inSeconds rule.hold = .ok y := by
    intro rule hrule
    obtain ⟨y, hy, -⟩ := exists_inSeconds (hview.holds rule hrule)
    exact ⟨y, hy⟩
  obtain ⟨as, hpage, has⟩ := RuleGroup.page_eq_ok hx hholds
    (hrules.length_eq ▸ (List.length_map _).trans hlength)
  refine ⟨_, hpage, ?_⟩
  rw [checkGroup, add_sub_cancel_left]
  -- before one interval has passed the group is not looked at
  by_cases hdue : time < test.setup.groupInterval
  · rw [dueGroup?, if_pos hdue]
    rfl
  rw [dueGroup?, if_neg hdue]
  obtain ⟨es, hexpected, hes⟩ := RuleGroup.page_eq_ok hx hholds
    ((List.length_map _).trans hlength)
  rw [← groupOf_eq] at hexpected
  obtain ⟨pages, hpages⟩ : ∃ pages, (test.outcomesAt time).mapM (test.groupOf zeroTime) =
      .ok pages := by
    refine exists_mapM_eq_ok fun other hother => ?_
    obtain ⟨snapshots, hok, -⟩ := RuleGroup.page_eq_ok hx hholds ((List.length_map _).trans
      (hview.complete other (mem_outcomesAt.mp hother).1))
    exact ⟨_, (groupOf_eq test zeroTime other).trans hok⟩
  refine bind_eq_ok_iff.mpr ⟨_, rfl, bind_eq_ok_iff.mpr ⟨pages, ?_, ?_⟩⟩
  · rw [expectedGroups, add_sub_cancel_left, hpages]
  · refine checkAgainst_ok _ (mem_of_mapM_eq_ok hpages hmem hexpected) ?_ _ _ _
    exact GroupSnapshot.difference?_eq_none ⟨test.group.name, x, es⟩ hclose
      (snapshots_agree hview.holds hrules hes has)

theorem checkSamples_ok (hinterval : 0 ≤ test.setup.groupInterval) {vector : List QuerySample}
    (hvector : Matches QuerySample.Agrees
      (shown.flatten.map fun alert => alert.indicator (zeroTime + time)) vector) :
    test.checkSamples zeroTime (zeroTime + time) vector = .ok () := by
  have hdistinct := hview.distinct outcome (mem_outcomesAt.mp hmem).1
  refine checkAgainst_ok (samplesOf (zeroTime + time) outcome) ?_ ?_ _ _ _
  · rw [expectedSamples, add_sub_cancel_left]
    exact List.mem_map_of_mem hmem
  · refine Matches.samplesDifference? ?_ ?_
    · rw [samplesOf_getD, List.map_map]
      exact hdistinct.nodup_keys (fun active => (active.sample _).metric) fun active =>
        active.identity_metric _
    · rw [samplesOf_getD]
      exact hvector.comp (List.rel_flatten hfits) fun _ _ _ h hsame =>
        h.sample_difference?_eq_none hinterval hsame

end

/-- **Acceptance**: a test accepts an engine that shows the alerts of an
outcome that is possible at the time. -/
theorem accepts (hview : test.Viewable) (hinterval : 0 ≤ test.setup.groupInterval)
    (hforesees : test.Foresees time shown) : test.Accepts zeroTime time shown := by
  obtain ⟨outcome, hmem, hfits⟩ := hforesees
  exact
    { alerts := fun _ hlists => checkAlerts_ok hview hmem hfits hlists
      group := fun _ hlisted => checkGroup_ok hview hmem hfits hlisted
      samples := fun _ hvector => checkSamples_ok hview hmem hfits hinterval hvector }

end TestCase.Viewable

end AlertConformance
