/-
AlertConformance.Proofs.TestCase.DependentRule — the case of the rule on
top of other alerts accepts every engine that evaluates as it should.

Three alerts start, fire and end at evaluations that only the offset
tells, and some of these may coincide, so that a phase is skipped. Every
joint state of the three belongs to a phase that is valid at its time.

* `Shows`, `ShowsDerived` — the states of the alerts.
* `Made.foresees_one`, `Made.foresees_both`, `Made.foresees_two`,
  `Made.foresees_none` — what is foreseen, by the variants that are high.
* `testCase_accepting` — the case accepts every such engine.
-/
import AlertConformance.Proofs.TestCase.DependentRule.Evaluation

namespace AlertConformance.DependentRule

variable {setup : Setup} {test : TestCase} {first second : Rule}

/-! ## Phases -/

section Phases

variable {cadence : Cadence test.setup.groupInterval} {k : Nat}

/-- An engine shows a variant in a state, or not at all. -/
def Shows (rule : Rule) (cadence : Cadence setup.groupInterval) (k : Nat) (variant : Variant)
    (state : Option ActiveState) : Prop :=
  List.Forall₂ (ActiveAlert.Agrees setup.groupInterval)
    (state.toList.map (variant.expected rule setup)) (variantAt? rule cadence k variant).toList

/-- An engine shows the second rule in a state, or not at all. -/
def ShowsDerived (first second : Rule) (series : List TimeSeries)
    (cadence : Cadence setup.groupInterval) (k : Nat) (state : Option ActiveState) : Prop :=
  List.Forall₂ (ActiveAlert.Agrees setup.groupInterval)
    (state.toList.map (expectedDerived second setup))
    (derivedAt? second (reading.alertsAt first series cadence) cadence k).toList

theorem shows_none {rule : Rule} {cadence : Cadence setup.groupInterval} {variant : Variant}
    (h : variantAt? rule cadence k variant = none) : Shows rule cadence k variant none := by
  rw [Shows, h]
  exact .nil

theorem Made.shows_pending (h : Made test first second) (hwhole : test.setup.Whole)
    {variant : Variant} (hlow : sampleTime test.setup variant.active ≤ cadence.instant k)
    (hhigh : cadence.instant k < sampleTime test.setup variant.inactive)
    (hheld : cadence.instant k - seenAt cadence variant < DependentRule.hold) :
    Shows first cadence k variant (some .pending) := by
  obtain ⟨alert, halert, hagrees⟩ := h.variant_agrees variant hwhole hlow hhigh (if_pos hheld).symm
  rw [Shows, halert]
  exact .cons hagrees .nil

theorem Made.shows_firing (h : Made test first second) (hwhole : test.setup.Whole)
    {variant : Variant} (hlow : sampleTime test.setup variant.active ≤ cadence.instant k)
    (hhigh : cadence.instant k < sampleTime test.setup variant.inactive)
    (hheld : DependentRule.hold ≤ cadence.instant k - seenAt cadence variant) :
    Shows first cadence k variant (some .firing) := by
  obtain ⟨alert, halert, hagrees⟩ := h.variant_agrees variant hwhole hlow hhigh
    (if_neg (Int.not_lt.mpr hheld)).symm
  rw [Shows, halert]
  exact .cons hagrees .nil

theorem Made.showsDerived_none (h : Made test first second) (hwhole : test.setup.Whole)
    (hnot : cadence.instant k < heldAt cadence .two ∨
      sampleTime test.setup Variant.one.inactive ≤ cadence.instant k) :
    ShowsDerived first second test.series cadence k none := by
  have hfalse : bothFiring (reading.alertsAt first test.series cadence k) = false := by
    refine Bool.eq_false_iff.mpr fun hboth => ?_
    obtain ⟨hlow, hhigh⟩ := (h.bothFiring_iff hwhole).mp hboth
    omega
  rw [ShowsDerived, derivedAt?_eq_none hfalse]
  exact .nil

theorem Made.showsDerived_firing (h : Made test first second) (hwhole : test.setup.Whole)
    (hlow : heldAt cadence .two ≤ cadence.instant k)
    (hhigh : cadence.instant k < sampleTime test.setup Variant.one.inactive) :
    ShowsDerived first second test.series cadence k (some .firing) := by
  obtain ⟨alert, halert, hagrees⟩ := h.derived_agrees hwhole
    ((h.bothFiring_iff hwhole).mpr ⟨hlow, hhigh⟩)
  rw [ShowsDerived, halert]
  exact .cons hagrees .nil

/-- During the span of a phase the case foresees alerts in the states of the
phase. -/
theorem Made.foresees (h : Made test first second) (hwhole : test.setup.Whole) {time : Int}
    {phase : Phase} {span : Int × Int} (hmem : (phase, span) ∈ phases.zip (spans test.setup))
    (hlow : span.1 ≤ time) (hhigh : time < span.2)
    (hone : Shows first cadence k .one phase.one) (htwo : Shows first cadence k .two phase.two)
    (hderived : ShowsDerived first second test.series cadence k phase.derived) :
    test.Foresees time (evaluate first second test.series cadence k) := by
  refine ⟨_, h.mem_outcomesAt hwhole hmem hlow hhigh, .cons ?_ (.cons hderived .nil)⟩
  rw [h.firsts_eq]
  exact List.rel_append hone htwo

section High

variable (h : Made test first second) (hwhole : test.setup.Whole) {time : Int}
  (hle : cadence.instant k ≤ time) (hlt : time < cadence.instant k + test.setup.groupInterval)

include h hwhole hle hlt

/-- Only the first variant is high, and it does not fire before the second
one is high too. -/
theorem Made.foresees_one (hlow : sampleTime test.setup Variant.one.active ≤ cadence.instant k)
    (hhigh : cadence.instant k < sampleTime test.setup Variant.two.active) :
    test.Foresees time (evaluate first second test.series cadence k) := by
  obtain ⟨hone, htwo, hover, -⟩ := sampleTime_variants test.setup
  have hpos := hwhole.sample.pos
  obtain ⟨hfires, -⟩ := heldAt_bounds .one hwhole cadence
  have hheld := heldAt_le hwhole cadence
  -- the transitions of a case increase
  have horder : sampleTime test.setup Variant.two.active < firesAt test.setup Variant.one.active :=
    (List.isChain_cons_cons.mp (List.isChain_cons_cons.mp (h.increase hwhole)).2).1
  rcases held_cases .one cadence hlow with ⟨hpending, -⟩ | ⟨-, hsteps⟩
  · refine h.foresees hwhole (.tail _ (.head _)) ?_ ?_
      (h.shows_pending hwhole hlow (by omega) hpending)
      (shows_none (variantAt?_eq_none_before .two hwhole hhigh))
      (h.showsDerived_none hwhole (.inl (by omega)))
    · show sampleTime test.setup Variant.one.active - 1000 ≤ time
      omega
    · show time < sampleTime test.setup Variant.two.active + test.setup.groupInterval
      omega
  · omega

/-- While both variants are high each of them is pending or firing, and the
first one fires no later than the second. -/
theorem Made.foresees_both (hlow : sampleTime test.setup Variant.two.active ≤ cadence.instant k)
    (hhigh : cadence.instant k < sampleTime test.setup Variant.one.inactive) :
    test.Foresees time (evaluate first second test.series cadence k) := by
  obtain ⟨hone, htwo, hover, hover'⟩ := sampleTime_variants test.setup
  have hpos := hwhole.sample.pos
  have hgroup := hwhole.group.pos
  have hlowOne : sampleTime test.setup Variant.one.active ≤ cadence.instant k := by omega
  have hhighTwo : cadence.instant k < sampleTime test.setup Variant.two.inactive := by omega
  obtain ⟨hfires, hsoon⟩ := heldAt_bounds .one hwhole cadence
  obtain ⟨hfires', hsoon'⟩ := heldAt_bounds .two hwhole cadence
  have hheld := heldAt_le hwhole cadence
  rcases held_cases .one cadence hlowOne with ⟨hpending, hsteps⟩ | ⟨hfiring, hsteps⟩
  all_goals rcases held_cases .two cadence hlow with ⟨hpending', hsteps'⟩ | ⟨hfiring', hsteps'⟩
  · refine h.foresees hwhole (.tail _ (.tail _ (.head _))) ?_ ?_
      (h.shows_pending hwhole hlowOne hhigh hpending)
      (h.shows_pending hwhole hlow hhighTwo hpending')
      (h.showsDerived_none hwhole (.inl (by omega)))
    · show sampleTime test.setup Variant.two.active - 1000 ≤ time
      omega
    · show time < firesAt test.setup Variant.one.active + test.setup.groupInterval
      omega
  · omega
  · refine h.foresees hwhole (.tail _ (.tail _ (.tail _ (.head _)))) ?_ ?_
      (h.shows_firing hwhole hlowOne hhigh hfiring)
      (h.shows_pending hwhole hlow hhighTwo hpending')
      (h.showsDerived_none hwhole (.inl (by omega)))
    · show firesAt test.setup Variant.one.active - 1000 ≤ time
      omega
    · show time < firesAt test.setup Variant.two.active + test.setup.groupInterval
      omega
  · refine h.foresees hwhole (.tail _ (.tail _ (.tail _ (.tail _ (.head _))))) ?_ ?_
      (h.shows_firing hwhole hlowOne hhigh hfiring)
      (h.shows_firing hwhole hlow hhighTwo hfiring')
      (h.showsDerived_firing hwhole hsteps' hhigh)
    · show firesAt test.setup Variant.two.active - 1000 ≤ time
      omega
    · show time < sampleTime test.setup Variant.one.inactive + test.setup.groupInterval
      omega

/-- When only the second variant is still high it has been firing, as long
as it could fire one interval earlier. -/
theorem Made.foresees_two
    (hroom : firesAt test.setup twoActive + test.setup.groupInterval ≤
      sampleTime test.setup oneInactive)
    (hlow : sampleTime test.setup Variant.one.inactive ≤ cadence.instant k)
    (hhigh : cadence.instant k < sampleTime test.setup Variant.two.inactive) :
    test.Foresees time (evaluate first second test.series cadence k) := by
  obtain ⟨hone, htwo, hover, hover'⟩ := sampleTime_variants test.setup
  have hpos := hwhole.sample.pos
  have hlowTwo : sampleTime test.setup Variant.two.active ≤ cadence.instant k := by omega
  have hroomTwo : firesAt test.setup Variant.two.active + test.setup.groupInterval ≤
    sampleTime test.setup Variant.one.inactive := hroom
  obtain ⟨-, hsoon'⟩ := heldAt_bounds .two hwhole cadence
  rcases held_cases .two cadence hlowTwo with ⟨-, hsteps⟩ | ⟨hfiring, -⟩
  · have hgroup := hwhole.group.pos
    omega
  · refine h.foresees hwhole (.tail _ (.tail _ (.tail _ (.tail _ (.tail _ (.head _)))))) ?_ ?_
      (shows_none (variantAt?_eq_none_after .one hwhole hlow))
      (h.shows_firing hwhole hlowTwo hhigh hfiring) (h.showsDerived_none hwhole (.inr hlow))
    · show sampleTime test.setup Variant.one.inactive - 1000 ≤ time
      omega
    · show time < sampleTime test.setup Variant.two.inactive + test.setup.groupInterval
      omega

end High

/-- When no variant is high there is no alert. -/
theorem Made.foresees_none (h : Made test first second) (hwhole : test.setup.Whole)
    {phase : Phase} {span : Int × Int} {time : Int}
    (hmem : (phase, span) ∈ phases.zip (spans test.setup))
    (hnone : phase.one = none ∧ phase.two = none ∧ phase.derived = none)
    (hlow : span.1 ≤ time) (hhigh : time < span.2)
    (hquiet : cadence.instant k < sampleTime test.setup Variant.one.active ∨
      sampleTime test.setup Variant.two.inactive ≤ cadence.instant k) :
    test.Foresees time (evaluate first second test.series cadence k) := by
  obtain ⟨hone, htwo, hover, hover'⟩ := sampleTime_variants test.setup
  have hpos := hwhole.sample.pos
  obtain ⟨hseen, -⟩ := seenAt_bounds .two hwhole cadence
  have hheld : seenAt cadence .two ≤ heldAt cadence .two := by
    have hhold := le_holdInIntervals DependentRule.hold hwhole.group.pos
    have hminute : DependentRule.hold = 60000 := rfl
    unfold heldAt
    omega
  refine h.foresees hwhole hmem hlow hhigh ?_ ?_ ?_
  · rw [hnone.1]
    exact shows_none (hquiet.elim (variantAt?_eq_none_before .one hwhole)
      fun hlate => variantAt?_eq_none_after .one hwhole (by omega))
  · rw [hnone.2.1]
    exact shows_none (hquiet.elim
      (fun hearly => variantAt?_eq_none_before .two hwhole (by omega))
      (variantAt?_eq_none_after .two hwhole))
  · rw [hnone.2.2]
    exact h.showsDerived_none hwhole (by omega)

end Phases

/-! ## Acceptance -/

theorem Made.identity_variant (h : Made test first second) (variant : Variant)
    (state : ActiveState) :
    (variant.expected first test.setup state).template.labels.identity =
      (some firstRuleName, some variant.name) := by
  have hrule : first.labels.get? "variant" = none := by
    rw [h.first_labels]
    rfl
  refine Prod.ext ?_ ?_
  · exact (Template.get?_alertname _).trans (congrArg some h.first_name)
  · show (Template.labels ⟨first, _, _⟩).get? "variant" = _
    rw [Template.labels, Labels.get?_insert, if_neg (by decide), Labels.get?_override, hrule]
    rfl

theorem Made.identity_derived (h : Made test first second) (state : ActiveState) :
    (expectedDerived second test.setup state).template.labels.identity =
      (some secondRuleName, none) := by
  refine Prod.ext ?_ ?_
  · exact (Template.get?_alertname _).trans (congrArg some h.second_name)
  · show (Template.labels ⟨second, _, _⟩).get? "variant" = _
    rw [Template.labels, Labels.get?_insert, if_neg (by decide), Labels.get?_override,
      h.second_labels]
    rfl

theorem Made.distinct (h : Made test first second) :
    ∀ outcome ∈ test.outcomes, outcome.Distinct := by
  have hnames : firstRuleName ≠ secondRuleName := by decide
  have hone : Variant.one.name = "one" := rfl
  have htwo : Variant.two.name = "two" := rfl
  rw [h.outcomes]
  simp [phases, outcome, Outcome.Distinct, Outcome.active, h.identity_variant,
    h.identity_derived, hone, htwo, hnames]

theorem Made.viewable (h : Made test first second) (hwhole : test.setup.Whole) :
    test.Viewable where
  interval := h.interval ▸ hwhole.group.natAbs_lt
  holds := by
    rw [h.rules, List.forall_mem_cons, List.forall_mem_singleton, h.first_hold, h.second_hold]
    decide
  complete := by
    rw [h.outcomes, h.rules]
    simp [outcome]
  distinct := h.distinct

/-- A case has two rules, the second one on top of the first one, and
whatever the offset of the evaluations and the start of the test, what an
engine shows is accepted as long as the test lasts. -/
structure Accepting (test : TestCase) (first second : Rule) : Prop where
  rules : test.group.rules = [first, second]
  exprs : first.expr = reading.expr ∧ second.expr = secondExpr
  holds : first.hold = 60000 ∧ second.hold = 0
  accepts : ∀ (cadence : Cadence test.setup.groupInterval) (zeroTime time : Int),
    0 ≤ time → time < test.duration →
    test.Accepts zeroTime time
      (cadence.shown test.group.rules (evaluate first second test.series cadence) time)

/-- **Acceptance**: a case whose variants all fire an interval before the
first one ends accepts every engine that evaluates as it should. -/
theorem testCase_accepting (hwhole : setup.Whole) (h : testCase setup = .ok test)
    (hroom : firesAt setup twoActive + setup.groupInterval ≤ sampleTime setup oneInactive) :
    ∃ first second, Accepting test first second := by
  obtain ⟨rfl, first, second, hmade⟩ := exists_made h
  refine ⟨first, second, hmade.rules, ⟨hmade.first_expr, hmade.second_expr⟩,
    ⟨hmade.first_hold, hmade.second_hold⟩, fun cadence zeroTime time htime hend => ?_⟩
  obtain ⟨hone, htwo, hover, hover'⟩ := sampleTime_variants test.setup
  have hpos := hwhole.sample.pos
  have hduration : time < 102 * test.setup.sampleInterval := by
    rwa [TestCase.duration, hmade.sampleCount] at hend
  refine (hmade.viewable hwhole).accepts_shown (fun hfirst => ?_) (fun k hle hlt => ?_)
  · refine ⟨_, hmade.mem_outcomesAt hwhole (.head _) htime ?_, ?_⟩
    · show time < sampleTime test.setup Variant.one.active + test.setup.groupInterval
      omega
    · rw [hmade.rules]
      exact .cons .nil (.cons .nil .nil)
  rcases Int.lt_or_le (cadence.instant k) (sampleTime test.setup Variant.one.active) with
    hbefore | hfrom
  · refine hmade.foresees_none hwhole (.head _) ⟨rfl, rfl, rfl⟩ htime ?_ (.inl hbefore)
    show time < sampleTime test.setup Variant.one.active + test.setup.groupInterval
    omega
  rcases Int.lt_or_le (cadence.instant k) (sampleTime test.setup Variant.two.active) with
    hbefore | hfrom'
  · exact hmade.foresees_one hwhole hle hlt hfrom hbefore
  rcases Int.lt_or_le (cadence.instant k) (sampleTime test.setup Variant.one.inactive) with
    hbefore | hafter
  · exact hmade.foresees_both hwhole hle hlt hfrom' hbefore
  rcases Int.lt_or_le (cadence.instant k) (sampleTime test.setup Variant.two.inactive) with
    hbefore | hafter'
  · exact hmade.foresees_two hwhole hle hlt hroom hafter hbefore
  · refine hmade.foresees_none hwhole
      (.tail _ (.tail _ (.tail _ (.tail _ (.tail _ (.tail _ (.head _))))))) ⟨rfl, rfl, rfl⟩
      ?_ ?_ (.inr hafter')
    · show sampleTime test.setup Variant.two.inactive - 1000 ≤ time
      omega
    · show time < (102 : Nat) * test.setup.sampleInterval + test.setup.groupInterval
      have hgroup := hwhole.group.pos
      omega

/-- The intervals for which the case is meant. -/
theorem testCase_accepting_usual :
    ∃ test, testCase usual = .ok test ∧ ∃ first second, Accepting test first second := by
  obtain ⟨test, htest⟩ := exists_eq_ok_of_isOk
    (by decide +kernel : (testCase usual).isOk = true)
  exact ⟨test, htest, testCase_accepting (by decide) htest (by decide)⟩

end AlertConformance.DependentRule
