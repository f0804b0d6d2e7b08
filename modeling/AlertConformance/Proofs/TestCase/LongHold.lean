/-
AlertConformance.Proofs.TestCase.LongHold — the case of the long hold
accepts every engine that evaluates as it should.

The series exceeds the threshold from one sample to another. An engine
finds the alert active at the first evaluation after the former, lets it
fire when the hold is covered in whole intervals from there, and drops it
at the first evaluation after the latter.

* `reading`, `watched` — what the rule reads.
* `Made`, `exists_made` — what a case is made of.
* `Made.possible` — when the phases are valid.
* `Made.conforms` — the case accepts every such engine.
-/
import AlertConformance.Proofs.Schedule.Sequence
import AlertConformance.Proofs.TestCase.Conformance
import AlertConformance.TestCase.LongHold

namespace AlertConformance.LongHold

/-- What the rule of the case reads. -/
def reading : Reading where
  selector := metricLabels groupName ruleName
  threshold := "10"
  rendered := rendered

/-- The levels of the series. -/
def levels : List (Nat × Binary64) := [(6, 3), (16, 15), (60, 9)]

/-- The series that the rule reads. -/
def watched (setup : Setup) : TimeSeries :=
  ⟨metricLabels groupName ruleName, stamp setup.sampleInterval (blocks levels)⟩

/-- The alert that the case expects in an active state. -/
def expected (rule : Rule) (setup : Setup) (state : ActiveState) : ActiveAlert :=
  ⟨⟨rule, rendered "15", .empty⟩, state, "15", activeAt setup⟩

theorem expandValues_tokens : (expandValues tokens).toOption = some (blocks levels) := by
  decide +kernel

/-! ## The parts of the case -/

/-- What a case is made of. -/
structure Made (test : TestCase) (rule : Rule) : Prop where
  name : rule.name = ruleName
  expr : rule.expr = reading.expr
  hold : rule.hold = LongHold.hold
  labels : rule.labels = .ofList [("foo", "bar"), ("rulegroup", groupName)]
  interval : test.group.interval = test.setup.groupInterval
  rules : test.group.rules = [rule]
  sampleCount : test.sampleCount = 102
  series : test.series = [watched test.setup]
  outcomes : test.outcomes = [
    ⟨["inactive"], [[]]⟩,
    ⟨["pending"], [[expected rule test.setup .pending]]⟩,
    ⟨["firing"], [[expected rule test.setup .firing]]⟩,
    ⟨["resolved"], [[]]⟩]
  windows : ∃ windows, LongHold.windows test.setup 102 = .ok windows ∧
    Classifier.new (phases.zip (windows.map fun window => [window])) = .ok test.classifier
  bursts : test.bursts = Burst.episode (expected rule test.setup .firing).template.labels
    (rendered "15") (firesAt test.setup) (inactiveAt test.setup) none

variable {setup : Setup} {test : TestCase} {rule : Rule}

theorem Case.of_new_eq_ok {made : Case} (h : Case.new setup = .ok made) :
    made.setup = setup ∧ made.group.rules = [made.template.rule] ∧
      Made made.testCase made.template.rule := by
  unfold Case.new at h
  obtain ⟨samples, hsamples, h⟩ := bind_eq_ok_iff.mp h
  obtain ⟨rule, hrule, h⟩ := bind_eq_ok_iff.mp h
  obtain ⟨template, htemplate, h⟩ := bind_eq_ok_iff.mp h
  obtain ⟨group, hgroup, h⟩ := bind_eq_ok_iff.mp h
  obtain ⟨windows, hwindows, h⟩ := bind_eq_ok_iff.mp h
  obtain ⟨classifier, hclassifier, h⟩ := bind_eq_ok_iff.mp h
  obtain rfl := Except.ok.inj h
  obtain ⟨values, hvalues, rfl⟩ := of_sampleSlice_eq_ok hsamples
  rw [eq_ok_of_toOption expandValues_tokens] at hvalues
  obtain rfl := Except.ok.inj hvalues
  obtain rfl := Template.of_new_eq_ok htemplate
  obtain ⟨-, hinterval, hrules⟩ := RuleGroup.of_new_eq_ok hgroup
  obtain ⟨hname, hexpr, hhold, hlabels, -⟩ := Rule.of_thresholdRule_eq_ok hrule
  have hvalue : valueText (stamp setup.sampleInterval (blocks levels)) becomesActive = "15" := by
    rw [valueText_stamp]
    decide +kernel
  have hcount : (stamp setup.sampleInterval (blocks levels)).length + trailingSamples = 102 := by
    rw [length_stamp]
    rfl
  rw [hcount] at hwindows
  refine ⟨rfl, hrules, ⟨hname, hexpr, hhold, hlabels, hinterval, hrules, ?sampleCount, ?series,
    ?outcomes, ⟨windows, hwindows, hclassifier⟩, ?bursts⟩⟩
  case sampleCount => simpa only [testCase] using hcount
  case series => simp only [testCase, watched]
  case outcomes => simp only [testCase, active, value, hvalue, expected]
  case bursts => simp only [testCase, hvalue, Burst.episode, expected]

theorem exists_made (h : testCase setup = .ok test) :
    test.setup = setup ∧ ∃ rule, Made test rule := by
  obtain ⟨made, hmade, h⟩ := bind_eq_ok_iff.mp h
  obtain rfl := Except.ok.inj h
  obtain ⟨hsetup, -, hparts⟩ := Case.of_new_eq_ok hmade
  exact ⟨hsetup, _, hparts⟩

/-! ## Windows -/

/-- The spans of the phases. -/
def spans (setup : Setup) : List (Int × Int) :=
  phaseSpans [activeAt setup, firesAt setup, inactiveAt setup]
    ((102 : Nat) * setup.sampleInterval + setup.groupInterval) setup.groupInterval

theorem transitions_whole (hwhole : setup.Whole) :
    ∀ time ∈ [activeAt setup, firesAt setup, inactiveAt setup],
      1000 ∣ time ∧ 0 ≤ time ∧ time < exactLimit := by
  obtain ⟨hspos, hslt, hswhole⟩ := hwhole.sample
  obtain ⟨hgpos, hglt, hgwhole⟩ := hwhole.group
  have hactive : activeAt setup = 6 * setup.sampleInterval := rfl
  have hinactive : inactiveAt setup = 22 * setup.sampleInterval := rfl
  have hhold : LongHold.hold = 120000 := rfl
  have hlow := le_holdInIntervals LongHold.hold hgpos
  have hhigh := holdInIntervals_lt LongHold.hold hgpos
  have hdvd := hwhole.group.dvd_holdInIntervals LongHold.hold
  unfold exactLimit
  intro time hmem
  simp only [List.mem_cons, List.not_mem_nil, or_false] at hmem
  rcases hmem with rfl | rfl | rfl
  · omega
  · unfold firesAt
    omega
  · omega

/-- A phase is valid during its span. -/
theorem Made.possible (h : Made test rule) (hwhole : test.setup.Whole) {phase : String}
    {span : Int × Int} (hmem : (phase, span) ∈ phases.zip (spans test.setup)) {elapsed : Int}
    (hlow : span.1 ≤ elapsed) (hhigh : elapsed < span.2) :
    phase ∈ test.classifier.states elapsed := by
  obtain ⟨windows, hwindows, hclassifier⟩ := h.windows
  obtain ⟨edges, hedges, hwindows⟩ := bind_eq_ok_iff.mp hwindows
  obtain ⟨x, hx, hwindows⟩ := bind_eq_ok_iff.mp hwindows
  obtain ⟨y, hy, hwindows⟩ := bind_eq_ok_iff.mp hwindows
  refine Classifier.phase_mem_states hclassifier (by decide) ?_ hmem hlow hhigh
  exact hwhole.phaseWindows_covers hedges (transitions_whole hwhole) hx hy (by decide) hwindows

/-- The transitions of a case come one after another. -/
theorem Made.increase (h : Made test rule) (hwhole : test.setup.Whole) :
    [activeAt test.setup, firesAt test.setup, inactiveAt test.setup].IsChain (· < ·) := by
  obtain ⟨windows, hwindows, -⟩ := h.windows
  obtain ⟨edges, hedges, hwindows⟩ := bind_eq_ok_iff.mp hwindows
  obtain ⟨x, -, hwindows⟩ := bind_eq_ok_iff.mp hwindows
  obtain ⟨y, -, hwindows⟩ := bind_eq_ok_iff.mp hwindows
  exact transitions_increase hwindows (marks_of_transitions hedges (transitions_whole hwhole))

/-! ## Levels -/

theorem watched_quiet_after (hpos : 0 < setup.sampleInterval) {elapsed : Int}
    (hlow : inactiveAt setup ≤ elapsed) : reading.Quiet (watched setup) elapsed :=
  Reading.quiet_of_last_runs [(6, 3), (16, 15)] [(60, 9)] (by decide) hpos (by decide)
    (by decide +kernel) hlow

theorem watched_peak (hpos : 0 < setup.sampleInterval) :
    reading.Peak (watched setup) 0 (activeAt setup) (inactiveAt setup) 15 :=
  Reading.first_peak_of_runs [(6, 3)] [(60, 9)] (by decide) hpos (by decide +kernel)
    (by decide +kernel)

/-! ## Conformance -/

theorem Made.expects (h : Made test rule) (state : ActiveState) :
    reading.Expects rule (watched test.setup) (activeAt test.setup) 15
      (expected rule test.setup state) := by
  rw [watched, ← h.name]
  exact Reading.expects_metric state (by rw [h.labels]; rfl) (by decide +kernel)

theorem Made.distinct (h : Made test rule) : ∀ outcome ∈ test.outcomes, outcome.Distinct := by
  rw [h.outcomes]
  simp [Outcome.Distinct, Outcome.active]

theorem Made.viewable (h : Made test rule) (hwhole : test.setup.Whole) : test.Viewable where
  interval := h.interval ▸ hwhole.group.natAbs_lt
  holds := by
    rw [h.rules]
    intro other hmem
    rw [List.mem_singleton.mp hmem, h.hold]
    decide
  complete := by
    rw [h.outcomes, h.rules]
    simp
  distinct := h.distinct

/-- At an evaluation the rule has the alert of its series. -/
theorem Made.evaluate_eq (h : Made test rule) (cadence : Cadence test.setup.groupInterval)
    (k : Nat) : test.evaluate [reading] cadence k =
      [(reading.alertAt? rule (watched test.setup) cadence k).toList] := by
  have hselects : ([watched test.setup].filter fun series => reading.selects series.labels) =
      [watched test.setup] := List.filter_cons_of_pos reading.selects_selector
  rw [TestCase.evaluate, h.rules, h.series, List.zipWith_cons_cons, List.zipWith_nil_left,
    Reading.alertsAt_eq_toList hselects]

/-- The outcome of a phase is possible during its span. -/
theorem Made.mem_outcomesAt (h : Made test rule) (hwhole : test.setup.Whole) {phase : String}
    {rules : List (List ActiveAlert)} (houtcome : ⟨[phase], rules⟩ ∈ test.outcomes)
    {span : Int × Int} (hmem : (phase, span) ∈ phases.zip (spans test.setup)) {elapsed : Int}
    (hlow : span.1 ≤ elapsed) (hhigh : elapsed < span.2) :
    ⟨[phase], rules⟩ ∈ test.outcomesAt elapsed := by
  refine TestCase.mem_outcomesAt.mpr ⟨houtcome, fun scenario hscenario => ?_⟩
  rw [List.mem_singleton.mp hscenario]
  exact h.possible hwhole hmem hlow hhigh

/-- When the series is low and the span of a phase without alerts lasts,
the case foresees what the rule shows. -/
theorem Made.foresees_quiet (h : Made test rule) (hwhole : test.setup.Whole) {phase : String}
    (houtcome : ⟨[phase], [[]]⟩ ∈ test.outcomes) {span : Int × Int}
    (hmem : (phase, span) ∈ phases.zip (spans test.setup)) {time : Int} (hlow : span.1 ≤ time)
    (hhigh : time < span.2) {cadence : Cadence test.setup.groupInterval} {k : Nat}
    (hquiet : reading.Quiet (watched test.setup) (cadence.instant k)) :
    test.Foresees time (test.evaluate [reading] cadence k) := by
  refine ⟨_, h.mem_outcomesAt hwhole houtcome hmem hlow hhigh, ?_⟩
  rw [h.evaluate_eq, hquiet.alertAt?_eq_none]
  exact .cons .nil .nil

/-- While the series is high the case foresees the alert in the state that
the hold tells. -/
theorem Made.foresees_high (h : Made test rule) (hwhole : test.setup.Whole)
    {cadence : Cadence test.setup.groupInterval} {k : Nat} {time : Int}
    (hle : cadence.instant k ≤ time) (hlt : time < cadence.instant k + test.setup.groupInterval)
    (hlow : activeAt test.setup ≤ cadence.instant k)
    (hhigh : cadence.instant k < inactiveAt test.setup) :
    test.Foresees time (test.evaluate [reading] cadence k) := by
  have hpos := hwhole.sample.pos
  have hactive : activeAt test.setup = 6 * test.setup.sampleInterval := rfl
  have hfires : firesAt test.setup = activeAt test.setup +
    holdInIntervals LongHold.hold test.setup.groupInterval := rfl
  have hfirst := cadence.le_instant_first (activeAt test.setup)
  have hsoon := cadence.instant_first_lt (show 0 ≤ activeAt test.setup by omega)
  have hagrees : ∀ state : ActiveState, state = stateAfter LongHold.hold
      (cadence.instant k - cadence.instant (cadence.first (activeAt test.setup))) →
      ∃ alert, reading.alertAt? rule (watched test.setup) cadence k = some alert ∧
        (expected rule test.setup state).Agrees test.setup.groupInterval alert :=
    fun state hstate => (watched_peak hpos).agrees (h.expects state) (by omega)
      (.inl (Int.le_refl 0)) hlow hhigh (h.hold ▸ hstate)
  rw [h.evaluate_eq]
  rcases cadence.held_cases LongHold.hold (cadence.first_le_iff.mpr hlow) with
    ⟨hheld, hsteps⟩ | ⟨hheld, hsteps⟩
  · obtain ⟨alert, halert, hpending⟩ := hagrees .pending (if_pos hheld).symm
    rw [halert]
    refine ⟨_, h.mem_outcomesAt hwhole (by simp [h.outcomes]) (.tail _ (.head _)) ?_ ?_,
      .cons (.cons hpending .nil) .nil⟩
    · show activeAt test.setup - 1000 ≤ time
      omega
    · show time < firesAt test.setup + test.setup.groupInterval
      omega
  · obtain ⟨alert, halert, hfiring⟩ := hagrees .firing (if_neg (Int.not_lt.mpr hheld)).symm
    rw [halert]
    refine ⟨_, h.mem_outcomesAt hwhole (by simp [h.outcomes]) (.tail _ (.tail _ (.head _))) ?_ ?_,
      .cons (.cons hfiring .nil) .nil⟩
    · show firesAt test.setup - 1000 ≤ time
      omega
    · show time < inactiveAt test.setup + test.setup.groupInterval
      omega

/-- **Conformance**: the case accepts every engine that evaluates as it
should. -/
theorem Made.conforms (h : Made test rule) (hwhole : test.setup.Whole) :
    test.Conforms [reading] where
  reads := by
    rw [h.rules]
    exact .cons h.expr .nil
  accepts cadence zeroTime time htime hend := by
    have hpos := hwhole.sample.pos
    have hactive : activeAt test.setup = 6 * test.setup.sampleInterval := rfl
    have hduration : time < 102 * test.setup.sampleInterval := by
      rwa [TestCase.duration, h.sampleCount] at hend
    refine (h.viewable hwhole).accepts_shown (fun hfirst => ?_) (fun k hle hlt => ?_)
    · refine ⟨⟨["inactive"], [[]]⟩, h.mem_outcomesAt hwhole (by simp [h.outcomes])
        (.head _) htime ?_, ?_⟩
      · show time < activeAt test.setup + test.setup.groupInterval
        omega
      · rw [h.rules]
        exact .cons .nil .nil
    rcases Int.lt_or_le (cadence.instant k) (activeAt test.setup) with hbefore | hseen
    · refine h.foresees_quiet hwhole (by simp [h.outcomes]) (.head _) htime ?_
        ((watched_peak hpos).before _ (cadence.instant_nonneg k) hbefore)
      show time < activeAt test.setup + test.setup.groupInterval
      omega
    rcases Int.lt_or_le (cadence.instant k) (inactiveAt test.setup) with hduring | hover
    · exact h.foresees_high hwhole hle hlt hseen hduring
    · refine h.foresees_quiet hwhole (by simp [h.outcomes])
        (.tail _ (.tail _ (.tail _ (.head _)))) ?_ ?_ (watched_quiet_after hpos hover)
      · show inactiveAt test.setup - 1000 ≤ time
        omega
      · have hgroup := hwhole.group.pos
        show time < 102 * test.setup.sampleInterval + test.setup.groupInterval
        omega

end AlertConformance.LongHold
