/-
AlertConformance.Proofs.TestCase.ShortHold — the case of the short holds
accepts every engine that evaluates as it should.

The series is high twice, and the second time it stays below the threshold
of the rule with the short hold. Without a hold the alert fires whenever
it is active; with one of half an interval it is pending at one evaluation
and fires at the next. When some evaluation falls into the pause, the
first alert becomes active anew after it.

* `zeroReading`, `smallReading`, `watched` — what the rules read.
* `Made`, `exists_made` — what a case is made of.
* `Valid`, `Made.valid` — when the scenarios are valid.
* `Made.conforms` — the case accepts every such engine.
-/
import AlertConformance.Proofs.Schedule.Sequence
import AlertConformance.Proofs.TestCase.Conformance
import AlertConformance.TestCase.ShortHold

namespace AlertConformance.ShortHold

/-- What the rule without a hold reads. -/
def zeroReading : Reading where
  selector := metricLabels groupName zeroRuleName
  threshold := "10"
  rendered _ := .ofList
    [("description", "This should immediately fire"), ("template_test", zeroTemplateRendered)]

/-- What the rule with a short hold reads. -/
def smallReading : Reading where
  selector := metricLabels groupName smallRuleName
  threshold := "13"
  rendered _ := .ofList [("description", "This should fire after an interval"),
    ("template_test", smallTemplateRendered)]

/-- The levels of both series. -/
def levels : List (Nat × Binary64) :=
  [(1, 3), (3, 5), (4, 9), (13, 15), (72, 9), (13, 11), (1, 9)]

/-- The series that a rule reads. -/
def watched (setup : Setup) (ruleName : String) : TimeSeries :=
  ⟨metricLabels groupName ruleName, stamp setup.sampleInterval (blocks levels)⟩

/-- The time of a sample. -/
def sampleTime (setup : Setup) (index : Nat) : Int := index * setup.sampleInterval

/-- The alert that the case expects of a rule, active since a sample. -/
def expected (reading : Reading) (rule : Rule) (setup : Setup) (state : ActiveState)
    (index : Nat) : ActiveAlert :=
  let value := valueText (stamp setup.sampleInterval (blocks levels)) index
  ⟨⟨rule, reading.rendered value, .empty⟩, state, value, sampleTime setup index⟩

theorem expandValues_tokens : (expandValues tokens).toOption = some (blocks levels) := by
  decide +kernel

/-! ## The parts of the case -/

/-- The outcomes of a case. -/
def outcomes (zero small : Rule) (setup : Setup) : List Outcome := [
  ⟨["inactive"], [[], []]⟩,
  ⟨["zf_firing", "sf_pending"],
    [[expected zeroReading zero setup .firing becomesActive],
      [expected smallReading small setup .pending becomesActive]]⟩,
  ⟨["zf_firing", "sf_firing"],
    [[expected zeroReading zero setup .firing becomesActive],
      [expected smallReading small setup .firing becomesActive]]⟩,
  ⟨["zf_firing_again"], [[expected zeroReading zero setup .firing activeAgain], []]⟩]

/-- The bursts of a case: two episodes of the first alert and one of the
second. -/
def bursts (zero small : Rule) (setup : Setup) : List Burst :=
  let zeroAlert := (expected zeroReading zero setup .firing becomesActive).template
  let smallAlert := (expected smallReading small setup .firing becomesActive).template
  Burst.episode zeroAlert.labels zeroAlert.rendered (sampleTime setup becomesActive)
      (sampleTime setup becomesInactive) (some (sampleTime setup activeAgain)) ++
    Burst.episode zeroAlert.labels zeroAlert.rendered (sampleTime setup activeAgain)
      (sampleTime setup inactiveAgain) none ++
    Burst.episode smallAlert.labels smallAlert.rendered
      (sampleTime setup becomesActive + setup.groupInterval) (sampleTime setup becomesInactive) none

/-- What a case is made of. -/
structure Made (test : TestCase) (zero small : Rule) : Prop where
  zero_name : zero.name = zeroRuleName
  zero_expr : zero.expr = zeroReading.expr
  zero_hold : zero.hold = 0
  zero_labels : zero.labels = .ofList [("foo", "bar"), ("rulegroup", groupName)]
  small_name : small.name = smallRuleName
  small_expr : small.expr = smallReading.expr
  small_hold : small.hold = test.setup.groupInterval / 2
  small_labels : small.labels = .ofList [("ba_dum", "tss"), ("rulegroup", groupName)]
  interval : test.group.interval = test.setup.groupInterval
  rules : test.group.rules = [zero, small]
  sampleCount : test.sampleCount = 127
  series : test.series = [watched test.setup zeroRuleName, watched test.setup smallRuleName]
  outcomes : test.outcomes = ShortHold.outcomes zero small test.setup
  classifier : ShortHold.classifier test.setup = .ok test.classifier
  bursts : test.bursts = ShortHold.bursts zero small test.setup

variable {setup : Setup} {test : TestCase} {zero small : Rule}

theorem Case.of_new_eq_ok {made : Case} (h : Case.new setup = .ok made) :
    made.setup = setup ∧ made.group.rules = [made.zero.rule, made.small.rule] ∧
      Made made.testCase made.zero.rule made.small.rule := by
  unfold Case.new at h
  obtain ⟨template, htemplate, h⟩ := bind_eq_ok_iff.mp h
  obtain ⟨other, hother, h⟩ := bind_eq_ok_iff.mp h
  obtain ⟨group, hgroup, h⟩ := bind_eq_ok_iff.mp h
  obtain ⟨samples, hsamples, h⟩ := bind_eq_ok_iff.mp h
  obtain ⟨classifier, hclassifier, h⟩ := bind_eq_ok_iff.mp h
  obtain rfl := Except.ok.inj h
  obtain ⟨zero, hzero, htemplate⟩ := bind_eq_ok_iff.mp htemplate
  obtain ⟨small, hsmall, hother⟩ := bind_eq_ok_iff.mp hother
  obtain rfl := Template.of_new_eq_ok htemplate
  obtain rfl := Template.of_new_eq_ok hother
  obtain ⟨values, hvalues, rfl⟩ := of_sampleSlice_eq_ok hsamples
  rw [eq_ok_of_toOption expandValues_tokens] at hvalues
  obtain rfl := Except.ok.inj hvalues
  obtain ⟨-, hinterval, hrules⟩ := RuleGroup.of_new_eq_ok hgroup
  obtain ⟨hname, hexpr, hhold, hlabels, -⟩ := Rule.of_thresholdRule_eq_ok hzero
  obtain ⟨hname', hexpr', hhold', hlabels', -⟩ := Rule.of_thresholdRule_eq_ok hsmall
  have hcount : (stamp setup.sampleInterval (blocks levels)).length + trailingSamples = 127 := by
    rw [length_stamp]
    rfl
  refine ⟨rfl, hrules, ⟨hname, hexpr, hhold, hlabels, hname', hexpr', hhold', hlabels', hinterval,
    hrules, ?sampleCount, ?series, ?outcomes, hclassifier, ?bursts⟩⟩
  case sampleCount => simpa only [testCase] using hcount
  case series => simp only [testCase, watched]
  case outcomes =>
    simp only [testCase, outcomes, Case.active, value, Case.sampleTime, expected, zeroReading,
      smallReading, ShortHold.sampleTime]
  case bursts => rfl

theorem exists_made (h : testCase setup = .ok test) :
    test.setup = setup ∧ ∃ zero small, Made test zero small := by
  obtain ⟨made, hmade, h⟩ := bind_eq_ok_iff.mp h
  obtain rfl := Except.ok.inj h
  obtain ⟨hsetup, -, hparts⟩ := Case.of_new_eq_ok hmade
  exact ⟨hsetup, _, _, hparts⟩

/-! ## Windows -/

/-- When the scenarios of a case are valid. -/
structure Valid (test : TestCase) : Prop where
  before : ∀ time, 0 ≤ time →
    time < sampleTime test.setup becomesActive + test.setup.groupInterval →
    "inactive" ∈ test.classifier.states time
  between : ∀ time, sampleTime test.setup becomesInactive - 1000 ≤ time →
    time < sampleTime test.setup activeAgain + test.setup.groupInterval →
    "inactive" ∈ test.classifier.states time
  afterwards : ∀ time, sampleTime test.setup inactiveAgain ≤ time →
    time < sampleTime test.setup inactiveHorizon → "inactive" ∈ test.classifier.states time
  zeroFiring : ∀ time, sampleTime test.setup becomesActive - 1000 ≤ time →
    time < sampleTime test.setup becomesInactive + test.setup.groupInterval →
    "zf_firing" ∈ test.classifier.states time
  zeroAgain : ∀ time, sampleTime test.setup activeAgain - 1000 ≤ time →
    time < sampleTime test.setup inactiveAgain + test.setup.groupInterval →
    "zf_firing_again" ∈ test.classifier.states time
  smallPending : ∀ time, sampleTime test.setup becomesActive - 1000 ≤ time →
    time < sampleTime test.setup becomesActive + 2 * test.setup.groupInterval →
    "sf_pending" ∈ test.classifier.states time
  smallFiring : ∀ time,
    sampleTime test.setup becomesActive + test.setup.groupInterval ≤ time →
    time < sampleTime test.setup becomesInactive + test.setup.groupInterval →
    "sf_firing" ∈ test.classifier.states time

/-- The edges at samples are exact and stay far below the limit. -/
theorem sampleTime_edge (hwhole : setup.Whole) {x : Binary64} (hx : x.Marks setup.sampleInterval)
    {index : Nat} (hindex : index ≤ inactiveHorizon) :
    (Binary64.ofInt index * x).Marks (sampleTime setup index) ∧
      0 ≤ sampleTime setup index ∧ sampleTime setup index < 2 ^ 48 := by
  obtain ⟨hspos, hslt, -⟩ := hwhole.sample
  unfold inactiveHorizon at hindex
  have hmul : index * setup.sampleInterval ≤ 240 * setup.sampleInterval :=
    Int.mul_le_mul_of_nonneg_right (by omega) (by omega)
  have hnonneg : 0 ≤ index * setup.sampleInterval :=
    Int.mul_nonneg (Int.natCast_nonneg _) (by omega)
  unfold sampleTime
  exact ⟨hx.ofInt_mul (by omega) (by omega), hnonneg, by omega⟩

theorem Made.valid (h : Made test zero small) (hwhole : test.setup.Whole) : Valid test := by
  have hlt := hwhole.group.lt
  have hpos := hwhole.group.pos
  have hclassifier := h.classifier
  unfold ShortHold.classifier at hclassifier
  obtain ⟨sample, hsample, hclassifier⟩ := bind_eq_ok_iff.mp hclassifier
  obtain ⟨evaluation, hevaluation, hclassifier⟩ := bind_eq_ok_iff.mp hclassifier
  obtain ⟨before, hbefore, hclassifier⟩ := bind_eq_ok_iff.mp hclassifier
  obtain ⟨between, hbetween, hclassifier⟩ := bind_eq_ok_iff.mp hclassifier
  obtain ⟨afterwards, hafterwards, hclassifier⟩ := bind_eq_ok_iff.mp hclassifier
  obtain ⟨zeroFiring, hzeroFiring, hclassifier⟩ := bind_eq_ok_iff.mp hclassifier
  obtain ⟨zeroAgain, hzeroAgain, hclassifier⟩ := bind_eq_ok_iff.mp hclassifier
  obtain ⟨smallPending, hsmallPending, hclassifier⟩ := bind_eq_ok_iff.mp hclassifier
  obtain ⟨smallFiring, hsmallFiring, hclassifier⟩ := bind_eq_ok_iff.mp hclassifier
  have hunit : sample.Marks test.setup.sampleInterval := by
    have hslt := hwhole.sample.lt
    have hspos := hwhole.sample.pos
    exact Binary64.marks_of_inSeconds hsample hwhole.sample.whole (by omega)
  have hslack : evaluation.Marks test.setup.groupInterval :=
    Binary64.marks_of_inSeconds hevaluation hwhole.group.whole (by omega)
  have htwice : (Binary64.ofInt 2 * evaluation).Marks (2 * test.setup.groupInterval) :=
    hslack.ofInt_mul (by decide) (by omega)
  have hedge := fun index hindex => @sampleTime_edge _ hwhole _ hunit index hindex
  obtain ⟨hactive, hactiveLow, hactiveHigh⟩ := hedge becomesActive (by decide)
  obtain ⟨hinactive, hinactiveLow, hinactiveHigh⟩ := hedge becomesInactive (by decide)
  obtain ⟨hagain, hagainLow, hagainHigh⟩ := hedge activeAgain (by decide)
  obtain ⟨hover, hoverLow, hoverHigh⟩ := hedge inactiveAgain (by decide)
  obtain ⟨hhorizon, -, -⟩ := hedge inactiveHorizon (Nat.le_refl _)
  have hnames : (Keyed.keys [
      ("inactive", [before, between, afterwards]), ("zf_firing", [zeroFiring]),
      ("zf_firing_again", [zeroAgain]), ("sf_pending", [smallPending]),
      ("sf_firing", [smallFiring])]).Nodup := by
    simp [Keyed.keys]
  constructor
  · exact fun _ => Classifier.mem_states_of_covers hclassifier hnames (.head _) (.head _)
      (Window.covers_of_new hbefore Binary64.marks_zero (hactive.add hslack (by omega)))
  · exact fun _ => Classifier.mem_states_of_covers hclassifier hnames (.head _) (.tail _ (.head _))
      (Window.covers_of_new hbetween (hinactive.sub Binary64.marks_one (by omega))
        (hagain.add hslack (by omega)))
  · exact fun _ => Classifier.mem_states_of_covers hclassifier hnames (.head _)
      (.tail _ (.tail _ (.head _))) (Window.covers_of_new hafterwards hover hhorizon)
  · exact fun _ => Classifier.mem_states_of_covers hclassifier hnames (.tail _ (.head _)) (.head _)
      (Window.covers_of_new hzeroFiring (hactive.sub Binary64.marks_one (by omega))
        (hinactive.add hslack (by omega)))
  · exact fun _ => Classifier.mem_states_of_covers hclassifier hnames
      (.tail _ (.tail _ (.head _))) (.head _)
      (Window.covers_of_new hzeroAgain (hagain.sub Binary64.marks_one (by omega))
        (hover.add hslack (by omega)))
  · exact fun _ => Classifier.mem_states_of_covers hclassifier hnames
      (.tail _ (.tail _ (.tail _ (.head _)))) (.head _)
      (Window.covers_of_new hsmallPending (hactive.sub Binary64.marks_one (by omega))
        (hactive.add htwice (by omega)))
  · exact fun _ => Classifier.mem_states_of_covers hclassifier hnames
      (.tail _ (.tail _ (.tail _ (.tail _ (.head _))))) (.head _)
      (Window.covers_of_new hsmallFiring (hactive.add hslack (by omega))
        (hinactive.add hslack (by omega)))

/-! ## Levels -/

section Levels

variable {reading : Reading} {ruleName : String} {elapsed : Int}

/-- A rule whose threshold lies between the first levels and the first
peak. -/
structure SeesPeak (reading : Reading) : Prop where
  quiet : ∀ run ∈ ([(1, 3), (3, 5), (4, 9)] : List (Nat × Binary64)),
    reading.exceededBy run.2 = false
  exceeds : reading.exceededBy 15 = true

theorem SeesPeak.peak (h : SeesPeak reading) (hpos : 0 < setup.sampleInterval) :
    reading.Peak (watched setup ruleName) 0 (sampleTime setup becomesActive)
      (sampleTime setup becomesInactive) 15 :=
  Reading.first_peak_of_runs [(1, 3), (3, 5), (4, 9)] [(72, 9), (13, 11), (1, 9)] (by decide) hpos
    h.quiet h.exceeds

theorem zeroReading_seesPeak : SeesPeak zeroReading := ⟨by decide +kernel, by decide +kernel⟩

theorem smallReading_seesPeak : SeesPeak smallReading := ⟨by decide +kernel, by decide +kernel⟩

/-- The second peak of the first rule, after the pause. -/
theorem zero_peak_again (hpos : 0 < setup.sampleInterval) :
    zeroReading.Peak (watched setup ruleName) (sampleTime setup becomesInactive)
      (sampleTime setup activeAgain) (sampleTime setup inactiveAgain) 11 :=
  Reading.peak_of_runs [(1, 3), (3, 5), (4, 9), (13, 15)] [(72, 9)] [(1, 9)] (by decide) hpos
    (by decide +kernel) (by decide +kernel)

theorem zero_quiet_after (hpos : 0 < setup.sampleInterval)
    (hlow : sampleTime setup inactiveAgain ≤ elapsed) :
    zeroReading.Quiet (watched setup ruleName) elapsed :=
  Reading.quiet_of_last_runs [(1, 3), (3, 5), (4, 9), (13, 15), (72, 9), (13, 11)] [(1, 9)]
    (by decide) hpos (by decide) (by decide +kernel) hlow

/-- The second time the series is high is not high enough for the second
rule. -/
theorem small_quiet_after (hpos : 0 < setup.sampleInterval)
    (hlow : sampleTime setup becomesInactive ≤ elapsed) :
    smallReading.Quiet (watched setup ruleName) elapsed :=
  Reading.quiet_of_last_runs [(1, 3), (3, 5), (4, 9), (13, 15)] [(72, 9), (13, 11), (1, 9)]
    (by decide) hpos (by decide) (by decide +kernel) hlow

end Levels

/-! ## Conformance -/

theorem valueText_stamp_levels (interval : Int) :
    valueText (stamp interval (blocks levels)) becomesActive = formatValue 15 ∧
      valueText (stamp interval (blocks levels)) activeAgain = formatValue 11 := by
  rw [valueText_stamp, valueText_stamp]
  decide +kernel

theorem Made.expects_zero (h : Made test zero small) {value : Binary64} {index : Nat}
    (hvalue : valueText (stamp test.setup.sampleInterval (blocks levels)) index =
      formatValue value) :
    zeroReading.Expects zero (watched test.setup zeroRuleName) (sampleTime test.setup index) value
      (expected zeroReading zero test.setup .firing index) := by
  rw [watched, ← h.zero_name]
  exact Reading.expects_metric .firing (by rw [h.zero_labels]; rfl) hvalue

theorem Made.expects_small (h : Made test zero small) (state : ActiveState) :
    smallReading.Expects small (watched test.setup smallRuleName)
      (sampleTime test.setup becomesActive) 15
      (expected smallReading small test.setup state becomesActive) := by
  rw [watched, ← h.small_name]
  exact Reading.expects_metric state (by rw [h.small_labels]; rfl) (valueText_stamp_levels _).1

theorem zeroRuleName_ne : zeroRuleName ≠ smallRuleName := by decide

theorem Made.distinct (h : Made test zero small) :
    ∀ outcome ∈ test.outcomes, outcome.Distinct := by
  rw [h.outcomes]
  simp [ShortHold.outcomes, Outcome.Distinct, Outcome.active, Labels.identity,
    Template.get?_alertname, expected, h.zero_name, h.small_name, zeroRuleName_ne]

theorem Made.viewable (h : Made test zero small) (hwhole : test.setup.Whole) : test.Viewable where
  interval := h.interval ▸ hwhole.group.natAbs_lt
  holds := by
    have hlt := hwhole.group.lt
    have hpos := hwhole.group.pos
    rw [h.rules, List.forall_mem_cons, List.forall_mem_singleton, h.zero_hold, h.small_hold]
    exact ⟨by decide, by omega⟩
  complete := by
    rw [h.outcomes, h.rules]
    simp [ShortHold.outcomes]
  distinct := h.distinct

theorem selectors_differ :
    zeroReading.selects (metricLabels groupName smallRuleName) = false ∧
      smallReading.selects (metricLabels groupName zeroRuleName) = false := by
  decide +kernel

theorem Made.evaluate_eq (h : Made test zero small) (cadence : Cadence test.setup.groupInterval)
    (k : Nat) : test.evaluate [zeroReading, smallReading] cadence k =
      [(zeroReading.alertAt? zero (watched test.setup zeroRuleName) cadence k).toList,
        (smallReading.alertAt? small (watched test.setup smallRuleName) cadence k).toList] :=
  TestCase.evaluate_eq_pair h.rules h.series zeroReading.selects_selector selectors_differ.1
    selectors_differ.2 smallReading.selects_selector cadence k

/-- No alert is shown while no scenario of a firing or pending alert is
needed. -/
theorem Made.inactive_possible (h : Made test zero small) {time : Int}
    (hvalid : "inactive" ∈ test.classifier.states time) :
    ⟨["inactive"], [[], []]⟩ ∈ test.outcomesAt time := by
  refine TestCase.mem_outcomesAt.mpr ⟨by simp [h.outcomes, ShortHold.outcomes], ?_⟩
  intro scenario hscenario
  rwa [List.mem_singleton.mp hscenario]

section Evaluation

variable (h : Made test zero small) {cadence : Cadence test.setup.groupInterval} {k : Nat}
  {time : Int}

include h

/-- When neither rule sees a peak no alert is foreseen. -/
theorem Made.foresees_quiet (hvalid : "inactive" ∈ test.classifier.states time)
    (hzero : zeroReading.Quiet (watched test.setup zeroRuleName) (cadence.instant k))
    (hsmall : smallReading.Quiet (watched test.setup smallRuleName) (cadence.instant k)) :
    test.Foresees time (test.evaluate [zeroReading, smallReading] cadence k) := by
  refine ⟨_, h.inactive_possible hvalid, ?_⟩
  rw [h.evaluate_eq, hzero.alertAt?_eq_none, hsmall.alertAt?_eq_none]
  exact .cons .nil (.cons .nil .nil)

/-- During the first peak the first rule fires and the second one is in
the state that its hold tells. -/
theorem Made.fits_peak (hwhole : test.setup.Whole) (scenarios : List String)
    (hlow : sampleTime test.setup becomesActive ≤ cadence.instant k)
    (hhigh : cadence.instant k < sampleTime test.setup becomesInactive) {state : ActiveState}
    (hstate : state = stateAfter (test.setup.groupInterval / 2) (cadence.instant k -
      cadence.instant (cadence.first (sampleTime test.setup becomesActive)))) :
    Outcome.Fits test.setup.groupInterval
      ⟨scenarios, [[expected zeroReading zero test.setup .firing becomesActive],
        [expected smallReading small test.setup state becomesActive]]⟩
      (test.evaluate [zeroReading, smallReading] cadence k) := by
  have hpos := hwhole.sample.pos
  have hnonneg : 0 ≤ sampleTime test.setup becomesActive :=
    Int.mul_nonneg (Int.natCast_nonneg _) (Int.le_of_lt hpos)
  have hmono := cadence.instant_mono (cadence.first_le_iff.mpr hlow)
  have hfiring : ActiveState.firing = stateAfter zero.hold (cadence.instant k -
      cadence.instant (cadence.first (sampleTime test.setup becomesActive))) := by
    rw [h.zero_hold, stateAfter, if_neg (by omega)]
  obtain ⟨first, hfirst, hagrees⟩ := (zeroReading_seesPeak.peak hpos).agrees
    (h.expects_zero (valueText_stamp_levels _).1) hnonneg (.inl (Int.le_refl 0)) hlow hhigh hfiring
  obtain ⟨second, hsecond, hagrees'⟩ := (smallReading_seesPeak.peak hpos).agrees
    (h.expects_small state) hnonneg (.inl (Int.le_refl 0)) hlow hhigh (h.small_hold ▸ hstate)
  rw [h.evaluate_eq, hfirst, hsecond]
  exact .cons (.cons hagrees .nil) (.cons (.cons hagrees' .nil) .nil)

/-- The hold of the second rule is over at the second evaluation of the
peak, and both states are foreseen. -/
theorem Made.foresees_peak (hwhole : test.setup.Whole) (hle : cadence.instant k ≤ time)
    (hlt : time < cadence.instant k + test.setup.groupInterval)
    (hlow : sampleTime test.setup becomesActive ≤ cadence.instant k)
    (hhigh : cadence.instant k < sampleTime test.setup becomesInactive) :
    test.Foresees time (test.evaluate [zeroReading, smallReading] cadence k) := by
  have hpos := hwhole.group.pos
  have hdvd := hwhole.group.whole
  have hnonneg : 0 ≤ sampleTime test.setup becomesActive :=
    Int.mul_nonneg (Int.natCast_nonneg _) (Int.le_of_lt hwhole.sample.pos)
  have hfirst := cadence.le_instant_first (sampleTime test.setup becomesActive)
  have hsoon := cadence.instant_first_lt hnonneg
  have hhold := holdInIntervals_eq (show 0 < test.setup.groupInterval / 2 by omega)
    (show test.setup.groupInterval / 2 ≤ test.setup.groupInterval by omega)
  have hvalid := h.valid hwhole
  have hzero := hvalid.zeroFiring time (by omega) (by omega)
  rcases cadence.held_cases (test.setup.groupInterval / 2) (cadence.first_le_iff.mpr hlow) with
    ⟨hheld, hsteps⟩ | ⟨hheld, hsteps⟩
  · have hsmall := hvalid.smallPending time (by omega) (by omega)
    refine ⟨_, TestCase.mem_outcomesAt.mpr ⟨?_, ?_⟩,
      h.fits_peak hwhole ["zf_firing", "sf_pending"] hlow hhigh (if_pos hheld).symm⟩
    · simp [h.outcomes, ShortHold.outcomes]
    · simp [hzero, hsmall]
  · have hsmall := hvalid.smallFiring time (by omega) (by omega)
    refine ⟨_, TestCase.mem_outcomesAt.mpr ⟨?_, ?_⟩,
      h.fits_peak hwhole ["zf_firing", "sf_firing"] hlow hhigh
        (if_neg (Int.not_lt.mpr hheld)).symm⟩
    · simp [h.outcomes, ShortHold.outcomes]
    · simp [hzero, hsmall]

/-- During the second peak only the first rule has an alert, which fires
at once since the pause had an evaluation. -/
theorem Made.foresees_again (hwhole : test.setup.Whole)
    (hpause : test.setup.groupInterval ≤ 72 * test.setup.sampleInterval)
    (hle : cadence.instant k ≤ time) (hlt : time < cadence.instant k + test.setup.groupInterval)
    (hlow : sampleTime test.setup activeAgain ≤ cadence.instant k)
    (hhigh : cadence.instant k < sampleTime test.setup inactiveAgain) :
    test.Foresees time (test.evaluate [zeroReading, smallReading] cadence k) := by
  have hpos := hwhole.sample.pos
  have hinactive : sampleTime test.setup becomesInactive = 21 * test.setup.sampleInterval := rfl
  have hagain : sampleTime test.setup activeAgain = 93 * test.setup.sampleInterval := rfl
  have hmono := cadence.instant_mono (cadence.first_le_iff.mpr hlow)
  have hfiring : ActiveState.firing = stateAfter zero.hold (cadence.instant k -
      cadence.instant (cadence.first (sampleTime test.setup activeAgain))) := by
    rw [h.zero_hold, stateAfter, if_neg (by omega)]
  obtain ⟨alert, halert, hagrees⟩ := (zero_peak_again hpos).agrees
    (h.expects_zero (valueText_stamp_levels _).2) (by omega) (.inr (by omega)) hlow hhigh hfiring
  have hvalid := (h.valid hwhole).zeroAgain time (by omega) (by omega)
  refine ⟨⟨["zf_firing_again"], [[expected zeroReading zero test.setup .firing activeAgain], []]⟩,
    TestCase.mem_outcomesAt.mpr ⟨?_, ?_⟩, ?_⟩
  · simp [h.outcomes, ShortHold.outcomes]
  · simp [hvalid]
  · rw [h.evaluate_eq, halert, (small_quiet_after hpos (by omega)).alertAt?_eq_none]
    exact .cons (.cons hagrees .nil) (.cons .nil .nil)

end Evaluation

/-- **Conformance**: the case accepts every engine that evaluates as it
should when the pause is no shorter than an interval. -/
theorem Made.conforms (h : Made test zero small) (hwhole : test.setup.Whole)
    (hpause : test.setup.groupInterval ≤ 72 * test.setup.sampleInterval) :
    test.Conforms [zeroReading, smallReading] where
  reads := by
    rw [h.rules]
    exact .cons h.zero_expr (.cons h.small_expr .nil)
  accepts cadence zeroTime time htime hend := by
    have hvalid := h.valid hwhole
    have hpos := hwhole.sample.pos
    have hactive : sampleTime test.setup becomesActive = 8 * test.setup.sampleInterval := rfl
    have hhorizon : sampleTime test.setup inactiveHorizon = 240 * test.setup.sampleInterval := rfl
    have hduration : time < 127 * test.setup.sampleInterval := by
      rwa [TestCase.duration, h.sampleCount] at hend
    refine (h.viewable hwhole).accepts_shown (fun hfirst => ?_) (fun k hle hlt => ?_)
    · refine ⟨_, h.inactive_possible (hvalid.before time htime (by omega)), ?_⟩
      rw [h.rules]
      exact .cons .nil (.cons .nil .nil)
    have hnonneg := cadence.instant_nonneg k
    rcases Int.lt_or_le (cadence.instant k) (sampleTime test.setup becomesActive) with
      hbefore | hseen
    · exact h.foresees_quiet (hvalid.before time htime (by omega))
        ((zeroReading_seesPeak.peak hpos).before _ hnonneg hbefore)
        ((smallReading_seesPeak.peak hpos).before _ hnonneg hbefore)
    rcases Int.lt_or_le (cadence.instant k) (sampleTime test.setup becomesInactive) with
      hduring | hpast
    · exact h.foresees_peak hwhole hle hlt hseen hduring
    rcases Int.lt_or_le (cadence.instant k) (sampleTime test.setup activeAgain) with
      hbefore | hresumed
    · exact h.foresees_quiet (hvalid.between time (by omega) (by omega))
        ((zero_peak_again hpos).before _ hpast hbefore) (small_quiet_after hpos hpast)
    rcases Int.lt_or_le (cadence.instant k) (sampleTime test.setup inactiveAgain) with
      hduring | hover
    · exact h.foresees_again hwhole hpause hle hlt hresumed hduring
    · exact h.foresees_quiet (hvalid.afterwards time (by omega) (by omega))
        (zero_quiet_after hpos hover) (small_quiet_after hpos hpast)

end AlertConformance.ShortHold
