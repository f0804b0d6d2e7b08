/-
AlertConformance.Proofs.TestCase.DependentRule.Parts — what the case of the
rule on top of other alerts is made of.

* `reading`, `Variant` — what the first rule reads, and the series of its
  variants.
* `Made`, `exists_made` — the parts of a case.
* `Made.mem_outcomesAt` — when the outcome of a phase is possible.
* `Made.increase` — the transitions come one after another.
-/
import AlertConformance.Proofs.Schedule.Sequence
import AlertConformance.Proofs.TestCase.Conformance
import AlertConformance.TestCase.DependentRule

namespace AlertConformance.DependentRule

/-- What the first rule of the case reads. -/
def reading : Reading where
  selector := metricLabels groupName firstRuleName
  threshold := "10"
  rendered _ := .ofList [("description", "This should produce more alerts later")]

/-! ## Variants -/

/-- A variant of the series: it is high for sixteen samples after the
first ones, and low again at the end. -/
structure Variant where
  name : String
  active : Nat
  tail : Nat
  active_pos : 0 < active
  tail_pos : 0 < tail

namespace Variant

def one : Variant := ⟨"one", oneActive, 62, by decide, by decide⟩

def two : Variant := ⟨"two", twoActive, 60, by decide, by decide⟩

/-- The first low sample after the high ones. -/
def inactive (variant : Variant) : Nat := variant.active + 16

/-- The levels of the series. -/
def levels (variant : Variant) : List (Nat × Binary64) :=
  [(variant.active, 3), (16, 15), (variant.tail, 9)]

/-- The labels of the series. -/
def labels (variant : Variant) : Labels :=
  (metricLabels groupName firstRuleName).insert "variant" variant.name

/-- The series. -/
def series (variant : Variant) (setup : Setup) : TimeSeries :=
  ⟨variant.labels, stamp setup.sampleInterval (blocks variant.levels)⟩

/-- The alert that the case expects in an active state. -/
def expected (variant : Variant) (rule : Rule) (setup : Setup) (state : ActiveState) :
    ActiveAlert :=
  ⟨⟨rule, rule.annotations, .ofList [("variant", variant.name)]⟩, state, "15",
    sampleTime setup variant.active⟩

variable {setup : Setup} (variant : Variant) {elapsed : Int}

theorem levels_pos : ∀ run ∈ variant.levels, 0 < run.1 := by
  have hactive := variant.active_pos
  have htail := variant.tail_pos
  simp [levels, hactive, htail]

theorem quiet_after (hpos : 0 < setup.sampleInterval)
    (hlow : sampleTime setup variant.inactive ≤ elapsed) :
    reading.Quiet (variant.series setup) elapsed :=
  Reading.quiet_of_last_runs [(variant.active, 3), (16, 15)] [(variant.tail, 9)]
    variant.levels_pos hpos (List.cons_ne_nil _ _)
    (by simpa using (by decide +kernel : reading.exceededBy 9 = false)) hlow

theorem peak (hpos : 0 < setup.sampleInterval) :
    reading.Peak (variant.series setup) 0 (sampleTime setup variant.active)
      (sampleTime setup variant.inactive) 15 :=
  Reading.first_peak_of_runs [(variant.active, 3)] [(variant.tail, 9)] variant.levels_pos hpos
    (by simpa using (by decide +kernel : reading.exceededBy 3 = false)) (by decide +kernel)

end Variant

/-- When the two variants are high, in samples. -/
theorem sampleTime_variants (setup : Setup) :
    sampleTime setup Variant.one.active = 4 * setup.sampleInterval ∧
    sampleTime setup Variant.two.active = 6 * setup.sampleInterval ∧
    sampleTime setup Variant.one.inactive = 20 * setup.sampleInterval ∧
    sampleTime setup Variant.two.inactive = 22 * setup.sampleInterval :=
  ⟨rfl, rfl, rfl, rfl⟩

/-! ## The parts of the case -/

/-- What the annotations of the second rule render to. -/
def derivedNotes (alert foo : String) : Labels :=
  .ofList [("description", s!"Based on ALERTS. Old alertname was {alert}. foo was {foo}.")]

theorem expandValues_oneTokens :
    (expandValues oneTokens).toOption = some (blocks Variant.one.levels) := by
  decide +kernel

theorem expandValues_twoTokens :
    (expandValues twoTokens).toOption = some (blocks Variant.two.levels) := by
  decide +kernel

/-- The alert that the case expects of the second rule. -/
def expectedDerived (rule : Rule) (setup : Setup) (state : ActiveState) : ActiveAlert :=
  ⟨⟨rule, derivedNotes firstRuleName "bar",
    .ofList [("alertstate", AlertState.firing), ("foo", "bar"), ("rulegroup", groupName)]⟩, state,
    "2", firesAt setup twoActive⟩

/-- The outcome of a phase. -/
def outcome (first second : Rule) (setup : Setup) (phase : Phase) : Outcome := ⟨[phase.name], [
  phase.one.toList.map (Variant.one.expected first setup) ++
    phase.two.toList.map (Variant.two.expected first setup),
  phase.derived.toList.map (expectedDerived second setup)]⟩

/-- The labels of the first rule and of the second one. -/
def firstLabels : Labels := .ofList [("foo", "bar"), ("rulegroup", groupName)]

def secondLabels : Labels := .ofList [("ba_dum", "tss"), ("foo", "baz"), ("rulegroup", groupName)]

/-- The bursts of a case: an episode of each alert. -/
def bursts (first second : Rule) (setup : Setup) : List Burst :=
  let one := (Variant.one.expected first setup .firing).template
  let two := (Variant.two.expected first setup .firing).template
  let derived := (expectedDerived second setup .firing).template
  Burst.episode one.labels one.rendered (firesAt setup oneActive) (sampleTime setup oneInactive)
      none ++
    Burst.episode two.labels two.rendered (firesAt setup twoActive) (sampleTime setup twoInactive)
      none ++
    Burst.episode derived.labels derived.rendered (firesAt setup twoActive)
      (sampleTime setup oneInactive) none

/-- What a case is made of. -/
structure Made (test : TestCase) (first second : Rule) : Prop where
  first_name : first.name = firstRuleName
  first_expr : first.expr = reading.expr
  first_hold : first.hold = DependentRule.hold
  first_labels : first.labels = firstLabels
  first_annotations : first.annotations =
    .ofList [("description", "This should produce more alerts later")]
  second_name : second.name = secondRuleName
  second_expr : second.expr = secondExpr
  second_hold : second.hold = 0
  second_labels : second.labels = secondLabels
  interval : test.group.interval = test.setup.groupInterval
  rules : test.group.rules = [first, second]
  sampleCount : test.sampleCount = 102
  series : test.series = [Variant.one.series test.setup, Variant.two.series test.setup]
  outcomes : test.outcomes = phases.map (outcome first second test.setup)
  windows : ∃ windows, DependentRule.windows test.setup 102 = .ok windows ∧
    Classifier.new ((phases.map Phase.name).zip (windows.map fun window => [window])) =
      .ok test.classifier
  bursts : test.bursts = DependentRule.bursts first second test.setup

variable {setup : Setup} {test : TestCase} {first second : Rule}

theorem Case.of_new_eq_ok {made : Case} (h : Case.new setup = .ok made) :
    made.setup = setup ∧ made.group.rules = [made.one.rule, made.derived.rule] ∧
      made.two.rule = made.one.rule ∧ Made made.testCase made.one.rule made.derived.rule := by
  unfold Case.new at h
  obtain ⟨oneSamples, honeSamples, h⟩ := bind_eq_ok_iff.mp h
  obtain ⟨twoSamples, htwoSamples, h⟩ := bind_eq_ok_iff.mp h
  obtain ⟨first, hfirst, h⟩ := bind_eq_ok_iff.mp h
  obtain ⟨one, hone, h⟩ := bind_eq_ok_iff.mp h
  obtain ⟨two, htwo, h⟩ := bind_eq_ok_iff.mp h
  obtain ⟨derived, hderived, h⟩ := bind_eq_ok_iff.mp h
  obtain ⟨group, hgroup, h⟩ := bind_eq_ok_iff.mp h
  obtain ⟨windows, hwindows, h⟩ := bind_eq_ok_iff.mp h
  obtain ⟨classifier, hclassifier, h⟩ := bind_eq_ok_iff.mp h
  obtain rfl := Except.ok.inj h
  obtain ⟨second, hsecond, hderived⟩ := bind_eq_ok_iff.mp hderived
  obtain rfl := Template.of_new_eq_ok hone
  obtain rfl := Template.of_new_eq_ok htwo
  obtain rfl := Template.of_new_eq_ok hderived
  obtain ⟨oneValues, honeValues, rfl⟩ := of_sampleSlice_eq_ok honeSamples
  rw [eq_ok_of_toOption expandValues_oneTokens] at honeValues
  obtain rfl := Except.ok.inj honeValues
  obtain ⟨twoValues, htwoValues, rfl⟩ := of_sampleSlice_eq_ok htwoSamples
  rw [eq_ok_of_toOption expandValues_twoTokens] at htwoValues
  obtain rfl := Except.ok.inj htwoValues
  obtain ⟨-, hinterval, hrules⟩ := RuleGroup.of_new_eq_ok hgroup
  obtain ⟨hname, hexpr, hhold, hlabels, hannotations⟩ := Rule.of_thresholdRule_eq_ok hfirst
  obtain ⟨hname', hexpr', hhold', hlabels', -⟩ := Rule.of_new_eq_ok hsecond
  have hcount : max (stamp setup.sampleInterval (blocks Variant.one.levels)).length
      (stamp setup.sampleInterval (blocks Variant.two.levels)).length + trailingSamples = 102 := by
    rw [length_stamp, length_stamp]
    rfl
  have honeValue : valueText (stamp setup.sampleInterval (blocks Variant.one.levels)) oneActive =
      "15" := by
    rw [valueText_stamp]
    decide +kernel
  have htwoValue : valueText (stamp setup.sampleInterval (blocks Variant.two.levels)) twoActive =
      "15" := by
    rw [valueText_stamp]
    decide +kernel
  rw [hcount] at hwindows
  refine ⟨rfl, hrules, rfl, ⟨hname, hexpr, hhold, hlabels, hannotations, hname', hexpr', hhold',
    hlabels', hinterval, hrules, ?sampleCount, ?series, ?outcomes,
    ⟨windows, hwindows, hclassifier⟩, ?bursts⟩⟩
  case sampleCount => simpa only [testCase] using hcount
  case series =>
    simp only [testCase, Variant.series]
    rfl
  case bursts => rfl
  refine List.map_congr_left fun phase _ => ?_
  simp only [Case.outcome, active, oneValue, twoValue, honeValue, htwoValue]
  rfl

theorem exists_made (h : testCase setup = .ok test) :
    test.setup = setup ∧ ∃ first second, Made test first second := by
  obtain ⟨made, hmade, h⟩ := bind_eq_ok_iff.mp h
  obtain rfl := Except.ok.inj h
  obtain ⟨hsetup, -, -, hparts⟩ := Case.of_new_eq_ok hmade
  exact ⟨hsetup, _, _, hparts⟩

/-! ## Windows -/

/-- The spans of the phases. -/
def spans (setup : Setup) : List (Int × Int) :=
  phaseSpans (transitions setup) ((102 : Nat) * setup.sampleInterval + setup.groupInterval)
    setup.groupInterval

theorem transitions_whole (hwhole : setup.Whole) :
    ∀ time ∈ transitions setup, 1000 ∣ time ∧ 0 ≤ time ∧ time < exactLimit := by
  obtain ⟨hspos, hslt, hswhole⟩ := hwhole.sample
  obtain ⟨hgpos, hglt, hgwhole⟩ := hwhole.group
  have hhold : DependentRule.hold = 60000 := rfl
  have hlow := le_holdInIntervals DependentRule.hold hgpos
  have hhigh := holdInIntervals_lt DependentRule.hold hgpos
  have hdvd := hwhole.group.dvd_holdInIntervals DependentRule.hold
  unfold exactLimit
  intro time hmem
  simp only [transitions, firesAt, sampleTime, oneActive, twoActive, oneInactive, twoInactive,
    List.mem_cons, List.not_mem_nil, or_false] at hmem
  rcases hmem with rfl | rfl | rfl | rfl | rfl | rfl
  all_goals omega

/-- The outcome of a phase is possible during its span. -/
theorem Made.mem_outcomesAt (h : Made test first second) (hwhole : test.setup.Whole)
    {phase : Phase} {span : Int × Int} (hmem : (phase, span) ∈ phases.zip (spans test.setup))
    {elapsed : Int} (hlow : span.1 ≤ elapsed) (hhigh : elapsed < span.2) :
    outcome first second test.setup phase ∈ test.outcomesAt elapsed := by
  refine TestCase.mem_outcomesAt.mpr ⟨?_, fun scenario hscenario => ?_⟩
  · rw [h.outcomes]
    exact List.mem_map_of_mem (List.of_mem_zip hmem).1
  rw [List.mem_singleton.mp hscenario]
  obtain ⟨windows, hwindows, hclassifier⟩ := h.windows
  obtain ⟨edges, hedges, hwindows⟩ := bind_eq_ok_iff.mp hwindows
  obtain ⟨x, hx, hwindows⟩ := bind_eq_ok_iff.mp hwindows
  obtain ⟨y, hy, hwindows⟩ := bind_eq_ok_iff.mp hwindows
  have hcovers := hwhole.phaseWindows_covers hedges (transitions_whole hwhole) hx hy (by decide)
    hwindows
  refine Classifier.phase_mem_states hclassifier (by decide) hcovers ?_ hlow hhigh
  rw [List.zip_map_left]
  exact List.mem_map_of_mem (f := Prod.map Phase.name id) hmem

/-- The transitions of a case come one after another. -/
theorem Made.increase (h : Made test first second) (hwhole : test.setup.Whole) :
    (transitions test.setup).IsChain (· < ·) := by
  obtain ⟨windows, hwindows, -⟩ := h.windows
  obtain ⟨edges, hedges, hwindows⟩ := bind_eq_ok_iff.mp hwindows
  obtain ⟨x, -, hwindows⟩ := bind_eq_ok_iff.mp hwindows
  obtain ⟨y, -, hwindows⟩ := bind_eq_ok_iff.mp hwindows
  exact transitions_increase hwindows (marks_of_transitions hedges (transitions_whole hwhole))

end AlertConformance.DependentRule
