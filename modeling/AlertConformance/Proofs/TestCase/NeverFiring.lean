/-
AlertConformance.Proofs.TestCase.NeverFiring — the case without a firing
alert accepts every engine that evaluates as it should.

When the series is high for no longer than the hold, no engine lets the
alert fire: it is pending from the first evaluation that sees the series
high to the first one that does not. The second rule never sees anything.

* `pendingReading`, `inactiveReading`, `watched` — what the rules read.
* `Made`, `exists_made` — what a case is made of.
* `Made.inactive_valid`, `Made.pending_valid` — when the scenarios are
  valid.
* `Made.conforms` — the case accepts every such engine.
-/
import AlertConformance.Proofs.TestCase.Conformance
import AlertConformance.TestCase.NeverFiring

namespace AlertConformance.NeverFiring

/-- What the rule of the pending alert reads. -/
def pendingReading : Reading where
  selector := metricLabels groupName pendingRuleName
  threshold := "10"
  rendered _ := .ofList [("description", "SimpleAlert is firing")]

/-- What the rule that never matches reads. -/
def inactiveReading : Reading where
  selector := metricLabels groupName inactiveRuleName
  threshold := "99"
  rendered _ := .ofList [("description", "This should never fire")]

/-- The levels of both series. -/
def levels : List (Nat × Binary64) := [(8, 5), (4, 15), (31, 3)]

/-- The series that a rule reads. -/
def watched (setup : Setup) (ruleName : String) : TimeSeries :=
  ⟨metricLabels groupName ruleName, stamp setup.sampleInterval (blocks levels)⟩

/-- When the series of the pending alert becomes high and low again. -/
def activeAt (setup : Setup) : Int := becomesActive * setup.sampleInterval

def inactiveAt (setup : Setup) : Int := becomesInactive * setup.sampleInterval

/-- The pending alert that the case expects. -/
def expected (rule : Rule) (setup : Setup) : ActiveAlert :=
  ⟨⟨rule, pendingReading.rendered "15", .empty⟩, .pending, "15", activeAt setup⟩

theorem expandValues_tokens : (expandValues tokens).toOption = some (blocks levels) := by
  decide +kernel

/-! ## The parts of the case -/

/-- What a case is made of. -/
structure Made (test : TestCase) (pending inactive : Rule) : Prop where
  name : pending.name = pendingRuleName
  expr : pending.expr = pendingReading.expr
  hold : pending.hold = NeverFiring.hold
  labels : pending.labels = .ofList [("foo", "bar"), ("rulegroup", groupName)]
  inactive_expr : inactive.expr = inactiveReading.expr
  inactive_hold : inactive.hold = NeverFiring.hold
  inactive_labels : inactive.labels = .ofList [("ba_dum", "tss"), ("rulegroup", groupName)]
  interval : test.group.interval = test.setup.groupInterval
  rules : test.group.rules = [pending, inactive]
  sampleCount : test.sampleCount = 63
  series : test.series = [watched test.setup pendingRuleName, watched test.setup inactiveRuleName]
  outcomes : test.outcomes =
    [⟨["inactive"], [[], []]⟩, ⟨["pending"], [[expected pending test.setup], []]⟩]
  classifier : NeverFiring.classifier test.setup 63 = .ok test.classifier
  bursts : test.bursts = []

variable {setup : Setup} {test : TestCase} {pending inactive : Rule}

theorem Case.of_new_eq_ok {made : Case} (h : Case.new setup = .ok made) :
    made.setup = setup ∧ made.group.rules = [made.pending.rule, made.inactive.rule] ∧
      Made made.testCase made.pending.rule made.inactive.rule := by
  unfold Case.new at h
  obtain ⟨template, htemplate, h⟩ := bind_eq_ok_iff.mp h
  obtain ⟨other, hother, h⟩ := bind_eq_ok_iff.mp h
  obtain ⟨group, hgroup, h⟩ := bind_eq_ok_iff.mp h
  obtain ⟨samples, hsamples, h⟩ := bind_eq_ok_iff.mp h
  obtain ⟨classifier, hclassifier, h⟩ := bind_eq_ok_iff.mp h
  obtain rfl := Except.ok.inj h
  obtain ⟨pending, hpending, htemplate⟩ := bind_eq_ok_iff.mp htemplate
  obtain ⟨inactive, hinactive, hother⟩ := bind_eq_ok_iff.mp hother
  obtain rfl := Template.of_new_eq_ok htemplate
  obtain rfl := Template.of_new_eq_ok hother
  obtain ⟨values, hvalues, rfl⟩ := of_sampleSlice_eq_ok hsamples
  rw [eq_ok_of_toOption expandValues_tokens] at hvalues
  obtain rfl := Except.ok.inj hvalues
  obtain ⟨-, hinterval, hrules⟩ := RuleGroup.of_new_eq_ok hgroup
  obtain ⟨hname, hexpr, hhold, hlabels, -⟩ := Rule.of_thresholdRule_eq_ok hpending
  obtain ⟨-, hexpr', hhold', hlabels', -⟩ := Rule.of_thresholdRule_eq_ok hinactive
  have hvalue : valueText (stamp setup.sampleInterval (blocks levels)) becomesActive = "15" := by
    rw [valueText_stamp]
    decide +kernel
  have hcount : (stamp setup.sampleInterval (blocks levels)).length + trailingSamples = 63 := by
    rw [length_stamp]
    rfl
  rw [hcount] at hclassifier
  refine ⟨rfl, hrules, ⟨hname, hexpr, hhold, hlabels, hexpr', hhold', hlabels', hinterval, hrules,
    ?sampleCount, ?series, ?outcomes, ?classifier, rfl⟩⟩
  case sampleCount => simpa only [testCase] using hcount
  case series => simp only [testCase, watched]
  case outcomes =>
    simp only [testCase, value, Case.activeAt, hvalue, expected, NeverFiring.activeAt,
      pendingReading]
  case classifier => simpa only [testCase] using hclassifier

theorem exists_made (h : testCase setup = .ok test) :
    test.setup = setup ∧ ∃ pending inactive, Made test pending inactive := by
  obtain ⟨made, hmade, h⟩ := bind_eq_ok_iff.mp h
  obtain rfl := Except.ok.inj h
  obtain ⟨hsetup, -, hparts⟩ := Case.of_new_eq_ok hmade
  exact ⟨hsetup, _, _, hparts⟩

/-! ## Windows -/

theorem Made.valid (h : Made test pending inactive) (hwhole : test.setup.Whole) :
    ∃ before afterwards during : Window,
      Classifier.new [("inactive", [before, afterwards]), ("pending", [during])] =
        .ok test.classifier ∧
      before.Covers 0 (activeAt test.setup + test.setup.groupInterval) ∧
      afterwards.Covers (inactiveAt test.setup - 1000)
        (63 * test.setup.sampleInterval + test.setup.groupInterval) ∧
      during.Covers (activeAt test.setup - 1000)
        (inactiveAt test.setup + test.setup.groupInterval) := by
  obtain ⟨hspos, hslt, hswhole⟩ := hwhole.sample
  obtain ⟨hgpos, hglt, hgwhole⟩ := hwhole.group
  have hclassifier := h.classifier
  unfold NeverFiring.classifier at hclassifier
  obtain ⟨sample, hsample, hclassifier⟩ := bind_eq_ok_iff.mp hclassifier
  obtain ⟨evaluation, hevaluation, hclassifier⟩ := bind_eq_ok_iff.mp hclassifier
  obtain ⟨before, hbefore, hclassifier⟩ := bind_eq_ok_iff.mp hclassifier
  obtain ⟨afterwards, hafterwards, hclassifier⟩ := bind_eq_ok_iff.mp hclassifier
  obtain ⟨during, hduring, hclassifier⟩ := bind_eq_ok_iff.mp hclassifier
  have hunit : sample.Marks test.setup.sampleInterval :=
    Binary64.marks_of_inSeconds hsample hswhole (by omega)
  have hslack : evaluation.Marks test.setup.groupInterval :=
    Binary64.marks_of_inSeconds hevaluation hgwhole (by omega)
  have hactive : (Binary64.ofInt becomesActive * sample).Marks (activeAt test.setup) :=
    hunit.ofInt_mul (by decide) (by unfold becomesActive; omega)
  have hinactive : (Binary64.ofInt becomesInactive * sample).Marks (inactiveAt test.setup) :=
    hunit.ofInt_mul (by decide) (by unfold becomesInactive; omega)
  have hend : (Binary64.ofInt (63 : Nat) * sample).Marks ((63 : Nat) * test.setup.sampleInterval) :=
    hunit.ofInt_mul (by decide) (by omega)
  have hactive' : activeAt test.setup = 8 * test.setup.sampleInterval := rfl
  have hinactive' : inactiveAt test.setup = 12 * test.setup.sampleInterval := rfl
  refine ⟨before, afterwards, during, hclassifier, ?_, ?_, ?_⟩
  · exact Window.covers_of_new hbefore Binary64.marks_zero (hactive.add hslack (by omega))
  · exact Window.covers_of_new hafterwards (hinactive.sub Binary64.marks_one (by omega))
      (hend.add hslack (by omega))
  · exact Window.covers_of_new hduring (hactive.sub Binary64.marks_one (by omega))
      (hinactive.add hslack (by omega))

theorem Made.inactive_possible (h : Made test pending inactive) (hwhole : test.setup.Whole)
    {elapsed : Int}
    (helapsed : 0 ≤ elapsed ∧ elapsed < activeAt test.setup + test.setup.groupInterval ∨
      inactiveAt test.setup - 1000 ≤ elapsed ∧
        elapsed < 63 * test.setup.sampleInterval + test.setup.groupInterval) :
    ⟨["inactive"], [[], []]⟩ ∈ test.outcomesAt elapsed := by
  obtain ⟨before, afterwards, during, hclassifier, hbefore, hafterwards, -⟩ := h.valid hwhole
  refine TestCase.mem_outcomesAt.mpr ⟨by simp [h.outcomes], fun scenario hscenario => ?_⟩
  rw [List.mem_singleton.mp hscenario]
  rcases helapsed with ⟨hlow, hhigh⟩ | ⟨hlow, hhigh⟩
  · exact Classifier.mem_states_of_covers hclassifier (by simp [Keyed.keys]) (.head _) (.head _)
      hbefore hlow hhigh
  · exact Classifier.mem_states_of_covers hclassifier (by simp [Keyed.keys]) (.head _)
      (.tail _ (.head _)) hafterwards hlow hhigh

theorem Made.pending_possible (h : Made test pending inactive) (hwhole : test.setup.Whole)
    {elapsed : Int} (hlow : activeAt test.setup - 1000 ≤ elapsed)
    (hhigh : elapsed < inactiveAt test.setup + test.setup.groupInterval) :
    ⟨["pending"], [[expected pending test.setup], []]⟩ ∈ test.outcomesAt elapsed := by
  obtain ⟨before, afterwards, during, hclassifier, -, -, hduring⟩ := h.valid hwhole
  refine TestCase.mem_outcomesAt.mpr ⟨by simp [h.outcomes], fun scenario hscenario => ?_⟩
  rw [List.mem_singleton.mp hscenario]
  exact Classifier.mem_states_of_covers hclassifier (by simp [Keyed.keys]) (.tail _ (.head _))
    (.head _) hduring hlow hhigh

/-! ## Levels -/

section Levels

variable {ruleName : String} {elapsed : Int}

theorem watched_quiet_after (hpos : 0 < setup.sampleInterval) (hlow : inactiveAt setup ≤ elapsed) :
    pendingReading.Quiet (watched setup ruleName) elapsed :=
  Reading.quiet_of_last_runs [(8, 5), (4, 15)] [(31, 3)] (by decide) hpos (by decide)
    (by decide +kernel) hlow

theorem watched_peak (hpos : 0 < setup.sampleInterval) :
    pendingReading.Peak (watched setup ruleName) 0 (activeAt setup) (inactiveAt setup) 15 :=
  Reading.first_peak_of_runs [(8, 5)] [(31, 3)] (by decide) hpos (by decide +kernel)
    (by decide +kernel)

/-- The threshold of the other rule is above all levels. -/
theorem watched_quiet_always (hpos : 0 < setup.sampleInterval) (hlow : 0 ≤ elapsed) :
    inactiveReading.Quiet (watched setup ruleName) elapsed :=
  Reading.quiet_of_last_runs [] levels (by decide) hpos (by decide) (by decide +kernel)
    (by rwa [runsLength_nil, Int.natCast_zero, Int.zero_mul])

end Levels

/-! ## Conformance -/

theorem Made.expects (h : Made test pending inactive) :
    pendingReading.Expects pending (watched test.setup pendingRuleName) (activeAt test.setup) 15
      (expected pending test.setup) := by
  rw [watched, ← h.name]
  exact Reading.expects_metric .pending (by rw [h.labels]; rfl) (by decide +kernel)

theorem Made.distinct (h : Made test pending inactive) :
    ∀ outcome ∈ test.outcomes, outcome.Distinct := by
  rw [h.outcomes]
  simp [Outcome.Distinct, Outcome.active]

theorem Made.viewable (h : Made test pending inactive) (hwhole : test.setup.Whole) :
    test.Viewable where
  interval := h.interval ▸ hwhole.group.natAbs_lt
  holds := by
    rw [h.rules, List.forall_mem_cons, List.forall_mem_singleton, h.hold, h.inactive_hold]
    decide
  complete := by
    rw [h.outcomes, h.rules]
    simp
  distinct := h.distinct

theorem selectors_differ :
    pendingReading.selects (metricLabels groupName inactiveRuleName) = false ∧
      inactiveReading.selects (metricLabels groupName pendingRuleName) = false := by
  decide +kernel

/-- At an evaluation only the first rule may have an alert. -/
theorem Made.evaluate_eq (h : Made test pending inactive) (hwhole : test.setup.Whole)
    (cadence : Cadence test.setup.groupInterval) (k : Nat) :
    test.evaluate [pendingReading, inactiveReading] cadence k =
      [(pendingReading.alertAt? pending (watched test.setup pendingRuleName) cadence k).toList,
        []] := by
  rw [TestCase.evaluate_eq_pair h.rules h.series pendingReading.selects_selector
    selectors_differ.1 selectors_differ.2 inactiveReading.selects_selector,
    (watched_quiet_always hwhole.sample.pos (cadence.instant_nonneg k)).alertAt?_eq_none,
    Option.toList_none]

section Evaluation

variable {cadence : Cadence test.setup.groupInterval} {k : Nat} {time : Int}

/-- When the series is low no alert is foreseen, before the peak and after
it. -/
theorem Made.foresees_quiet (h : Made test pending inactive) (hwhole : test.setup.Whole)
    (htime : 0 ≤ time ∧ time < activeAt test.setup + test.setup.groupInterval ∨
      inactiveAt test.setup - 1000 ≤ time ∧
        time < 63 * test.setup.sampleInterval + test.setup.groupInterval)
    (hquiet : pendingReading.Quiet (watched test.setup pendingRuleName) (cadence.instant k)) :
    test.Foresees time (test.evaluate [pendingReading, inactiveReading] cadence k) := by
  refine ⟨_, h.inactive_possible hwhole htime, ?_⟩
  rw [h.evaluate_eq hwhole, hquiet.alertAt?_eq_none]
  exact .cons .nil (.cons .nil .nil)

/-- While the series is high, for no longer than the hold, a pending alert
is foreseen: the run began no earlier than the peak. -/
theorem Made.foresees_high (h : Made test pending inactive) (hwhole : test.setup.Whole)
    (hshort : 4 * test.setup.sampleInterval ≤ NeverFiring.hold)
    (hle : cadence.instant k ≤ time) (hlt : time < cadence.instant k + test.setup.groupInterval)
    (hlow : activeAt test.setup ≤ cadence.instant k)
    (hhigh : cadence.instant k < inactiveAt test.setup) :
    test.Foresees time (test.evaluate [pendingReading, inactiveReading] cadence k) := by
  have hpos := hwhole.sample.pos
  have hactive : activeAt test.setup = 8 * test.setup.sampleInterval := rfl
  have hinactive : inactiveAt test.setup = 12 * test.setup.sampleInterval := rfl
  have hfirst := cadence.le_instant_first (activeAt test.setup)
  have hstate : ActiveState.pending = stateAfter pending.hold
      (cadence.instant k - cadence.instant (cadence.first (activeAt test.setup))) := by
    rw [h.hold, stateAfter, if_pos (by omega)]
  obtain ⟨alert, halert, hagrees⟩ := (watched_peak hpos).agrees h.expects (by omega)
    (.inl (Int.le_refl 0)) hlow hhigh hstate
  refine ⟨_, h.pending_possible hwhole (by omega) (by omega), ?_⟩
  rw [h.evaluate_eq hwhole, halert]
  exact .cons (.cons hagrees .nil) (.cons .nil .nil)

end Evaluation

/-- **Conformance**: the case accepts every engine that evaluates as it
should when the series is high for no longer than the hold. -/
theorem Made.conforms (h : Made test pending inactive) (hwhole : test.setup.Whole)
    (hshort : 4 * test.setup.sampleInterval ≤ NeverFiring.hold) :
    test.Conforms [pendingReading, inactiveReading] where
  reads := by
    rw [h.rules]
    exact .cons h.expr (.cons h.inactive_expr .nil)
  accepts cadence zeroTime time htime hend := by
    have hpos := hwhole.sample.pos
    have hgroup := hwhole.group.pos
    have hactive : activeAt test.setup = 8 * test.setup.sampleInterval := rfl
    have hduration : time < 63 * test.setup.sampleInterval := by
      rwa [TestCase.duration, h.sampleCount] at hend
    refine (h.viewable hwhole).accepts_shown (fun hfirst => ?_) (fun k hle hlt => ?_)
    · refine ⟨_, h.inactive_possible hwhole (.inl ⟨htime, by omega⟩), ?_⟩
      rw [h.rules]
      exact .cons .nil (.cons .nil .nil)
    rcases Int.lt_or_le (cadence.instant k) (activeAt test.setup) with hbefore | hseen
    · exact h.foresees_quiet hwhole (.inl ⟨htime, by omega⟩)
        ((watched_peak hpos).before _ (cadence.instant_nonneg k) hbefore)
    rcases Int.lt_or_le (cadence.instant k) (inactiveAt test.setup) with hduring | hover
    · exact h.foresees_high hwhole hshort hle hlt hseen hduring
    · exact h.foresees_quiet hwhole (.inr ⟨by omega, by omega⟩) (watched_quiet_after hpos hover)

end AlertConformance.NeverFiring
