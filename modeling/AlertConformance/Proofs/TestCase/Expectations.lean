/-
AlertConformance.Proofs.TestCase.Expectations — what a case expects is what
its table of outcomes shows.

Every case makes its expectations in its own way: it finds the candidates
of a time, and turns each one into a page of alerts, into a rule group and
into samples. Once the test has started, the candidates are renderings of
the outcomes that are possible then, in order, and each of the three
conversions yields the view of the outcome.

* `Expectations.Views` — expectations that are the views of a table.
* `bind_mapM_outcomes` — candidates that are converted, one by one.
* `groupOf_one`, `groupOf_two`, `mapM_indicator` — the views of an outcome,
  as a case makes them.
* `Case.views`, for each case — its expectations are the views.
-/
import AlertConformance.Proofs.LabelKey
import AlertConformance.Proofs.TestCase.DependentRule
import AlertConformance.Proofs.TestCase.LongHold
import AlertConformance.Proofs.TestCase.NeverFiring
import AlertConformance.Proofs.TestCase.ShortHold

namespace AlertConformance

/-- Expectations that are the views of a table of outcomes, whenever the
test has started. -/
structure Expectations.Views (expectations : Expectations) (test : TestCase) : Prop where
  alerts : ∀ zeroTime time,
    expectations.alerts ⟨some zeroTime⟩ time = .ok (test.expectedAlerts zeroTime time)
  groups : ∀ zeroTime time,
    expectations.groups ⟨some zeroTime⟩ time = test.expectedGroups zeroTime time
  samples : ∀ zeroTime time,
    expectations.samples ⟨some zeroTime⟩ time = .ok (test.expectedSamples zeroTime time)

/-! ## Candidates -/

section Candidates

variable {α β γ : Type}

/-- Two lists of which the same places are kept, when a step at each place
of the one gives what the other has there. -/
theorem mapM_filter_eq_ok {f : α → Result γ} {g : β → γ} {p : α → Bool} {q : β → Bool}
    {xs : List α} {ys : List β} (h : List.Forall₂ (fun x y => p x = q y ∧ f x = .ok (g y)) xs ys) :
    (xs.filter p).mapM f = .ok ((ys.filter q).map g) := by
  rw [mapM_eq_ok_iff, List.forall₂_map_right_iff]
  induction h with
  | nil => exact .nil
  | @cons x y _ _ hhead _ ih =>
    rw [List.filter_cons, List.filter_cons, hhead.1]
    split
    · exact .cons hhead.2 ih
    · exact ih

/-- Candidates that render outcomes, each one turned into the view of its
outcome. -/
theorem bind_mapM_outcomes {candidates : Result (List γ)} {outcomes : List α} {render : α → γ}
    {convert : γ → Result β} {view : α → Result β}
    (hcandidates : candidates = .ok (outcomes.map render))
    (hview : ∀ outcome ∈ outcomes, convert (render outcome) = view outcome) :
    (candidates >>= fun found => found.mapM convert) = outcomes.mapM view := by
  rw [hcandidates]
  show (outcomes.map render).mapM convert = _
  clear hcandidates
  induction outcomes with
  | nil => rfl
  | cons outcome rest ih =>
    rw [List.map_cons, List.mapM_cons, List.mapM_cons, hview outcome List.mem_cons_self,
      ih fun other hmem => hview other (List.mem_cons_of_mem _ hmem)]

theorem mapM_ok (f : α → β) (xs : List α) :
    (xs.mapM fun x => (.ok (f x) : Result β)) = .ok (xs.map f) := by
  rw [mapM_eq_ok_iff, List.forall₂_map_right_iff, List.forall₂_same]
  exact fun _ _ => rfl

end Candidates

/-! ## The views of an outcome -/

section Views

variable {test : TestCase} {zeroTime time : Int} {scenarios : List String}

/-- The alerts of the first rule and of the second one in an outcome. -/
def Outcome.pair (outcome : Outcome) (zeroTime : Int) : List Alert × List Alert :=
  ((outcome.rules.getD 0 []).map fun a => a.alert zeroTime,
    (outcome.rules.getD 1 []).map fun a => a.alert zeroTime)

theorem Outcome.active_one (active : List ActiveAlert) :
    Outcome.active ⟨scenarios, [active]⟩ = active :=
  List.flatten_singleton

theorem Outcome.active_two (active other : List ActiveAlert) :
    Outcome.active ⟨scenarios, [active, other]⟩ = active ++ other := by
  simp [Outcome.active]

/-- The pages of candidates that keep the alerts of two rules apart. -/
theorem bind_append_pairs {candidates : Result (List (List Alert × List Alert))}
    {outcomes : List Outcome}
    (hcandidates : candidates = .ok (outcomes.map fun outcome => outcome.pair zeroTime))
    (htwo : ∀ outcome ∈ outcomes, ∃ active other, outcome.rules = [active, other]) :
    (do return (← candidates).map fun (active, other) => active ++ other) =
      (.ok (outcomes.map fun outcome => outcome.active.map fun a => a.alert zeroTime) :
        Result (List (List Alert))) := by
  refine bind_eq_ok_iff.mpr ⟨_, hcandidates, congrArg Except.ok ?_⟩
  rw [List.map_map]
  refine List.map_congr_left fun outcome hmem => ?_
  obtain ⟨active, other, hrules⟩ := htwo outcome hmem
  simp [Outcome.pair, Outcome.active, hrules]

theorem TestCase.groupOf_one (test : TestCase) {rule : Rule} (hrules : test.group.rules = [rule])
    (active : List ActiveAlert) :
    test.groupOf zeroTime ⟨scenarios, [active]⟩ = (do
      let alerts := active.map fun active => active.alert zeroTime
      groupSnapshot test.group [← rule.snapshot (ruleState alerts) alerts]) := by
  simp only [groupOf, hrules, List.zip_cons_cons, List.zip_nil_right, List.mapM_cons,
    List.mapM_nil, pure_bind, bind_assoc]

theorem TestCase.groupOf_two (test : TestCase) {first second : Rule}
    (hrules : test.group.rules = [first, second]) (active other : List ActiveAlert) :
    test.groupOf zeroTime ⟨scenarios, [active, other]⟩ = (do
      let alerts := active.map fun active => active.alert zeroTime
      let others := other.map fun active => active.alert zeroTime
      groupSnapshot test.group [
        ← first.snapshot (ruleState alerts) alerts,
        ← second.snapshot (ruleState others) others]) := by
  simp only [groupOf, hrules, List.zip_cons_cons, List.zip_nil_right, List.mapM_cons,
    List.mapM_nil, pure_bind, bind_assoc]

/-- An active alert is indicated by its sample. -/
theorem ActiveAlert.indicator_alert (active : ActiveAlert) (zeroTime time : Int) :
    active.template.indicator (active.alert zeroTime).state time = .ok (active.sample time) := by
  have hactive : (active.alert zeroTime).state ≠ AlertState.inactive := by
    show active.state.text ≠ _
    cases active.state <;> decide
  rw [Template.indicator, if_neg hactive]
  rfl

theorem mapM_samples {convert : Alert → Result QuerySample} {active : List ActiveAlert}
    (h : ∀ a ∈ active, convert (a.alert zeroTime) = .ok (a.sample time)) :
    (active.map fun a => a.alert zeroTime).mapM convert =
      .ok (active.map fun a => a.sample time) := by
  rw [mapM_eq_ok_iff, List.forall₂_map_left_iff, List.forall₂_map_right_iff, List.forall₂_same]
  exact h

/-- The samples of alerts that have one template. -/
theorem mapM_indicator {template : Template} {active : List ActiveAlert}
    (h : ∀ a ∈ active, a.template = template) :
    (active.map fun a => a.alert zeroTime).mapM
        (fun alert => template.indicator alert.state time) =
      .ok (active.map fun a => a.sample time) :=
  mapM_samples fun a ha => h a ha ▸ a.indicator_alert zeroTime time

theorem nonempty?_samples (outcome : Outcome) :
    nonempty? (outcome.active.map fun a => a.sample time) = TestCase.samplesOf time outcome := by
  rw [nonempty?, TestCase.samplesOf, List.isEmpty_map]

end Views

/-! ## The case of the long hold -/

namespace LongHold.Case

variable {setup : Setup} (made : Case) (zeroTime time : Int)

/-- Its candidates are the alerts of the possible outcomes. -/
theorem candidates_eq : made.candidates ⟨some zeroTime⟩ time =
    .ok (made.testCase.expectedAlerts zeroTime time) := by
  refine mapM_filter_eq_ok (.cons ⟨?_, rfl⟩ (.cons ⟨?_, rfl⟩ (.cons ⟨?_, rfl⟩
    (.cons ⟨?_, rfl⟩ .nil))))
  all_goals exact (Bool.and_true _).symm

/-- An outcome tells the alerts of the one rule. -/
theorem exists_eq_of_mem {outcome : Outcome} (h : outcome ∈ made.testCase.outcomes) :
    ∃ scenarios active, outcome = ⟨scenarios, [active]⟩ ∧
      ∀ a ∈ active, a.template = made.template := by
  simp only [testCase, List.mem_cons, List.not_mem_nil, or_false] at h
  rcases h with rfl | rfl | rfl | rfl
  · exact ⟨_, [], rfl, by simp⟩
  · exact ⟨_, [made.active .pending], rfl, by simp [active]⟩
  · exact ⟨_, [made.active .firing], rfl, by simp [active]⟩
  · exact ⟨_, [], rfl, by simp⟩

theorem views {made : Case} (h : Case.new setup = .ok made) :
    made.expectations.Views made.testCase where
  alerts := made.candidates_eq
  groups zeroTime time := by
    refine bind_mapM_outcomes (made.candidates_eq zeroTime time) fun outcome hmem => ?_
    obtain ⟨scenarios, active, rfl, -⟩ := made.exists_eq_of_mem (TestCase.mem_outcomesAt.mp hmem).1
    rw [Outcome.active_one]
    exact (made.testCase.groupOf_one (of_new_eq_ok h).2.1 active).symm
  samples zeroTime time := by
    rw [TestCase.expectedSamples, ← mapM_ok]
    refine bind_mapM_outcomes (made.candidates_eq zeroTime time) fun outcome hmem => ?_
    obtain ⟨scenarios, active, rfl, htemplate⟩ :=
      made.exists_eq_of_mem (TestCase.mem_outcomesAt.mp hmem).1
    rw [← nonempty?_samples, Outcome.active_one, mapM_indicator htemplate]
    rfl

end LongHold.Case

/-! ## The case that never fires -/

namespace NeverFiring.Case

variable {setup : Setup} (made : Case) (zeroTime time : Int)

/-- Its candidates are the alerts of the possible outcomes. -/
theorem candidates_eq : made.candidates ⟨some zeroTime⟩ time =
    .ok (made.testCase.expectedAlerts zeroTime time) := by
  simp only [candidates, TestCase.expectedAlerts, TestCase.outcomesAt, testCase, List.filter_cons,
    List.filter_nil, List.all_cons, List.all_nil, Bool.and_true]
  show (if (made.classifier.states (time - zeroTime)).contains "pending" = true then _ else _) = _
  generalize (made.classifier.states (time - zeroTime)).contains "inactive" = quiet
  generalize (made.classifier.states (time - zeroTime)).contains "pending" = pending
  cases quiet <;> cases pending <;> rfl

/-- An outcome tells the alerts of the first rule, which is pending if
there are any. -/
theorem exists_eq_of_mem {outcome : Outcome} (h : outcome ∈ made.testCase.outcomes) :
    ∃ scenarios active, outcome = ⟨scenarios, [active, []]⟩ ∧
      (∀ a ∈ active, a.template = made.pending) ∧
      ruleState (active.map fun a => a.alert zeroTime) =
        if active.isEmpty then AlertState.inactive else AlertState.pending := by
  simp only [testCase, List.mem_cons, List.not_mem_nil, or_false] at h
  rcases h with rfl | rfl
  · exact ⟨_, [], rfl, by simp, rfl⟩
  · exact ⟨_, [⟨made.pending, .pending, made.value, made.activeAt⟩], rfl, by simp, rfl⟩

theorem views {made : Case} (h : Case.new setup = .ok made) :
    made.expectations.Views made.testCase where
  alerts := made.candidates_eq
  groups zeroTime time := by
    refine bind_mapM_outcomes (made.candidates_eq zeroTime time) fun outcome hmem => ?_
    obtain ⟨scenarios, active, rfl, -, hstate⟩ :=
      made.exists_eq_of_mem zeroTime (TestCase.mem_outcomesAt.mp hmem).1
    rw [made.testCase.groupOf_two (of_new_eq_ok h).2.1, Outcome.active_two,
      List.append_nil]
    simp only [hstate, List.isEmpty_map]
    rfl
  samples zeroTime time := by
    rw [TestCase.expectedSamples, ← mapM_ok]
    refine bind_mapM_outcomes (made.candidates_eq zeroTime time) fun outcome hmem => ?_
    obtain ⟨scenarios, active, rfl, htemplate, -⟩ :=
      made.exists_eq_of_mem zeroTime (TestCase.mem_outcomesAt.mp hmem).1
    rw [← nonempty?_samples, Outcome.active_two, List.append_nil, mapM_indicator htemplate]
    rfl

end NeverFiring.Case

/-! ## The case of the short hold -/

namespace ShortHold.Case

variable {setup : Setup} (made : Case) (zeroTime time : Int)

/-- Its candidates are the alerts of the possible outcomes, rule by rule. -/
theorem candidates_eq : made.candidates ⟨some zeroTime⟩ time =
    .ok ((made.testCase.outcomesAt (time - zeroTime)).map fun outcome => outcome.pair zeroTime) := by
  simp only [TestCase.outcomesAt, testCase, List.filter_cons, List.filter_nil, List.all_cons,
    List.all_nil, Bool.and_true]
  show made.activeAlerts ⟨some zeroTime⟩ (made.classifier.states (time - zeroTime)) = _
  generalize made.classifier.states (time - zeroTime) = states
  unfold activeAlerts
  generalize states.contains "inactive" = quiet
  generalize (states.contains "zf_firing" && states.contains "sf_pending") = pending
  generalize (states.contains "zf_firing" && states.contains "sf_firing") = firing
  generalize states.contains "zf_firing_again" = again
  cases quiet <;> cases pending <;> cases firing <;> cases again <;> rfl

/-- An outcome tells the alerts of both rules. -/
theorem exists_eq_of_mem {outcome : Outcome} (h : outcome ∈ made.testCase.outcomes) :
    ∃ scenarios zero small, outcome = ⟨scenarios, [zero, small]⟩ ∧
      (∀ a ∈ zero, a.template = made.zero) ∧ ∀ a ∈ small, a.template = made.small := by
  simp only [testCase, List.mem_cons, List.not_mem_nil, or_false] at h
  rcases h with rfl | rfl | rfl | rfl
  · exact ⟨_, _, _, rfl, by simp⟩
  · exact ⟨_, _, _, rfl, by simp [active]⟩
  · exact ⟨_, _, _, rfl, by simp [active]⟩
  · exact ⟨_, _, _, rfl, by simp [active]⟩

theorem views {made : Case} (h : Case.new setup = .ok made) :
    made.expectations.Views made.testCase where
  alerts zeroTime time := by
    refine bind_append_pairs (made.candidates_eq zeroTime time) fun outcome hmem => ?_
    obtain ⟨_, zero, small, rfl, -⟩ := made.exists_eq_of_mem (TestCase.mem_outcomesAt.mp hmem).1
    exact ⟨zero, small, rfl⟩
  groups zeroTime time := by
    refine bind_mapM_outcomes (made.candidates_eq zeroTime time) fun outcome hmem => ?_
    obtain ⟨_, zero, small, rfl, -⟩ := made.exists_eq_of_mem (TestCase.mem_outcomesAt.mp hmem).1
    exact (made.testCase.groupOf_two (of_new_eq_ok h).2.1 zero small).symm
  samples zeroTime time := by
    rw [TestCase.expectedSamples, ← mapM_ok]
    refine bind_mapM_outcomes (made.candidates_eq zeroTime time) fun outcome hmem => ?_
    obtain ⟨_, zero, small, rfl, hzero, hsmall⟩ :=
      made.exists_eq_of_mem (TestCase.mem_outcomesAt.mp hmem).1
    have hempty : (zero ++ small).isEmpty = (zero.isEmpty && small.isEmpty) := by
      cases zero <;> rfl
    simp only [Outcome.pair, List.getD_cons_zero, List.getD_cons_succ, List.isEmpty_map,
      mapM_indicator hzero, mapM_indicator hsmall]
    rw [TestCase.samplesOf, Outcome.active_two, hempty, List.map_append]
    split
    · rfl
    · rfl

end ShortHold.Case

/-! ## The case of the rule on top of other alerts -/

namespace DependentRule.Case

variable {setup : Setup} (made : Case) (zeroTime time : Int)

/-- The alerts of a phase, once the test has started. -/
theorem phaseAlerts_eq (phase : Phase) : made.phaseAlerts ⟨some zeroTime⟩ phase =
    .ok ((made.outcome phase).pair zeroTime) := by
  obtain ⟨name, one, two, derived⟩ := phase
  cases one <;> cases two <;> cases derived <;> rfl

/-- Its candidates are the alerts of the possible outcomes, rule by rule. -/
theorem candidates_eq : made.candidates ⟨some zeroTime⟩ time =
    .ok ((made.testCase.outcomesAt (time - zeroTime)).map fun outcome =>
      outcome.pair zeroTime) := by
  refine mapM_filter_eq_ok ?_
  show List.Forall₂ _ phases (phases.map made.outcome)
  rw [List.forall₂_map_right_iff, List.forall₂_same]
  exact fun phase _ => ⟨(Bool.and_true _).symm, made.phaseAlerts_eq zeroTime phase⟩

/-- The templates of the case. -/
def alertTemplates : List Template := [made.one, made.two, made.derived]

/-- An outcome tells the alerts of both rules. -/
theorem exists_eq_of_mem {outcome : Outcome} (h : outcome ∈ made.testCase.outcomes) :
    ∃ scenarios first second, outcome = ⟨scenarios, [first, second]⟩ ∧
      ∀ a ∈ first ++ second, a.template ∈ made.alertTemplates := by
  obtain ⟨phase, -, rfl⟩ := List.mem_map.mp h
  refine ⟨_, _, _, rfl, fun a ha => ?_⟩
  simp only [active, List.mem_append, List.mem_map] at ha
  rcases ha with (⟨_, -, rfl⟩ | ⟨_, -, rfl⟩) | ⟨_, -, rfl⟩ <;> simp [alertTemplates]

/-- No two alerts of a case have the same labels, so the templates are
found by them. -/
theorem lookup_templates {made : Case} (h : Case.new setup = .ok made) {template : Template}
    (hmem : template ∈ made.alertTemplates) :
    lookup showKey template.labels.key made.templates = .ok template := by
  have hall : made.outcome ⟨"all_firing", some .firing, some .firing, some .firing⟩ ∈
      made.testCase.outcomes := List.mem_map_of_mem (by simp [phases])
  have hnodup : (Keyed.keys (made.alertTemplates.map fun t => (t.labels.key, t))).Nodup :=
    ((of_new_eq_ok h).2.2.2.distinct _ hall).nodup_keys (fun a => a.template.labels) fun _ => rfl
  have htemplates : made.templates = made.alertTemplates.map fun t => (t.labels.key, t) :=
    Keyed.ofList_eq_self hnodup
  rw [lookup, htemplates, Keyed.find?_of_mem hnodup (List.mem_map_of_mem hmem)]

theorem views {made : Case} (h : Case.new setup = .ok made) :
    made.expectations.Views made.testCase where
  alerts zeroTime time := by
    refine bind_append_pairs (made.candidates_eq zeroTime time) fun outcome hmem => ?_
    obtain ⟨_, first, second, rfl, -⟩ := made.exists_eq_of_mem (TestCase.mem_outcomesAt.mp hmem).1
    exact ⟨first, second, rfl⟩
  groups zeroTime time := by
    refine bind_mapM_outcomes (made.candidates_eq zeroTime time) fun outcome hmem => ?_
    obtain ⟨_, first, second, rfl, -⟩ := made.exists_eq_of_mem (TestCase.mem_outcomesAt.mp hmem).1
    exact (made.testCase.groupOf_two (of_new_eq_ok h).2.1 first second).symm
  samples zeroTime time := by
    rw [TestCase.expectedSamples, ← mapM_ok]
    refine bind_mapM_outcomes (made.candidates_eq zeroTime time) fun outcome hmem => ?_
    obtain ⟨_, first, second, rfl, htemplate⟩ :=
      made.exists_eq_of_mem (TestCase.mem_outcomesAt.mp hmem).1
    have hsamples : ((first ++ second).map fun a => a.alert zeroTime).mapM (fun alert => do
        (← lookup showKey alert.key made.templates).indicator alert.state time) =
        .ok ((first ++ second).map fun a => a.sample time) := by
      refine mapM_samples fun a ha => ?_
      exact bind_eq_ok_iff.mpr ⟨a.template, lookup_templates h (htemplate a ha),
        a.indicator_alert zeroTime time⟩
    simp only [Outcome.pair, List.getD_cons_zero, List.getD_cons_succ, ← List.map_append]
    rw [hsamples, ← nonempty?_samples, Outcome.active_two]
    rfl

end DependentRule.Case

end AlertConformance
