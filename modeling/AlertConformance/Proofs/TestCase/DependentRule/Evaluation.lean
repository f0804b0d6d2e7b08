/-
AlertConformance.Proofs.TestCase.DependentRule.Evaluation — how an engine
evaluates the first rule and then the second one.

The second rule has an alert while both variants of the first one are
firing. So it starts at the evaluation at which the hold of the second
variant is over, and ends when the first variant is low.

* `bothFiring`, `derivedAt?`, `evaluate` — the second rule, and both rules
  at an evaluation.
* `seenAt`, `heldAt`, `Made.variant_agrees` — the alerts of the variants.
* `Made.bothFiring_iff` — when both variants are firing.
* `Made.derived_agrees` — the alert of the second rule.
-/
import AlertConformance.Proofs.TestCase.DependentRule.Parts

namespace AlertConformance.DependentRule

/-! ## The engine -/

/-- Whether an alert is the one of a variant and firing. -/
def firingVariant (variant : String) (alert : Alert) : Bool :=
  alert.labels.get? "variant" == some variant && alert.state == AlertState.firing

/-- Whether both variants are firing. -/
def bothFiring (alerts : List Alert) : Bool :=
  alerts.any (firingVariant "one") && alerts.any (firingVariant "two")

/-- The labels of the sum of the two variants: those of the series that
indicates the first one, without its name and the variant. -/
def sumLabels (one : Alert) : Labels :=
  (one.labels.insert "alertstate" one.state).without "variant"

/-- The alert of the second rule at an evaluation, when the first one has
the alerts `firsts`. -/
def derivedAt? {interval : Int} (rule : Rule) (firsts : Nat → List Alert)
    (cadence : Cadence interval) (k : Nat) : Option Alert :=
  (Cadence.runStart? (fun j => bothFiring (firsts j)) k).bind fun start =>
    ((firsts k).find? (firingVariant "one")).map fun one =>
      { labels := rule.alertLabels (sumLabels one)
        annotations := derivedNotes (((sumLabels one).get? "alertname").getD "")
          (((sumLabels one).get? "foo").getD "")
        state := AlertState.firing
        value := formatValue (1 + 1)
        activeAt := some (cadence.instant start) }

/-- The alerts of both rules at an evaluation, the first one before the
second one. -/
def evaluate {interval : Int} (first second : Rule) (series : List TimeSeries)
    (cadence : Cadence interval) (k : Nat) : List (List Alert) :=
  [reading.alertsAt first series cadence k,
    (derivedAt? second (reading.alertsAt first series cadence) cadence k).toList]

variable {setup : Setup} {test : TestCase} {first second : Rule}

/-! ## The variants at an evaluation -/

section Evaluation

variable {cadence : Cadence test.setup.groupInterval} {k : Nat} (variant : Variant)

/-- The first evaluation that sees a variant high, and the one at which
its hold is over. -/
def seenAt (cadence : Cadence setup.groupInterval) (variant : Variant) : Int :=
  cadence.instant (cadence.first (sampleTime setup variant.active))

def heldAt (cadence : Cadence setup.groupInterval) (variant : Variant) : Int :=
  seenAt cadence variant + holdInIntervals hold setup.groupInterval

theorem seenAt_bounds (hwhole : setup.Whole) (cadence : Cadence setup.groupInterval) :
    sampleTime setup variant.active ≤ seenAt cadence variant ∧
      seenAt cadence variant < sampleTime setup variant.active + setup.groupInterval :=
  ⟨cadence.le_instant_first _, cadence.instant_first_lt
    (Int.mul_nonneg (Int.natCast_nonneg _) (Int.le_of_lt hwhole.sample.pos))⟩

/-- The hold of a variant is over less than an interval after its alert
fires as expected. -/
theorem heldAt_bounds (hwhole : setup.Whole)
    (cadence : Cadence setup.groupInterval) :
    firesAt setup variant.active ≤ heldAt cadence variant ∧
      heldAt cadence variant < firesAt setup variant.active + setup.groupInterval := by
  obtain ⟨hlow, hhigh⟩ := seenAt_bounds variant hwhole cadence
  unfold firesAt heldAt
  omega

/-- A variant is seen and then held, in steps of an interval. -/
theorem held_cases (cadence : Cadence setup.groupInterval)
    (hlow : sampleTime setup variant.active ≤ cadence.instant k) :
    (cadence.instant k - seenAt cadence variant < hold ∧
      cadence.instant k + setup.groupInterval ≤ heldAt cadence variant) ∨
    (hold ≤ cadence.instant k - seenAt cadence variant ∧
      heldAt cadence variant ≤ cadence.instant k) :=
  cadence.held_cases hold (cadence.first_le_iff.mpr hlow)

/-- The alert of a variant at an evaluation. -/
def variantAt? (rule : Rule) (cadence : Cadence setup.groupInterval) (k : Nat)
    (variant : Variant) : Option Alert :=
  reading.alertAt? rule (variant.series setup) cadence k

theorem variantAt?_eq_none_before (hwhole : setup.Whole) {cadence : Cadence setup.groupInterval}
    {rule : Rule} (hbefore : cadence.instant k < sampleTime setup variant.active) :
    variantAt? rule cadence k variant = none :=
  ((variant.peak hwhole.sample.pos).before _ (cadence.instant_nonneg k) hbefore).alertAt?_eq_none

theorem variantAt?_eq_none_after (hwhole : setup.Whole) {cadence : Cadence setup.groupInterval}
    {rule : Rule} (hafter : sampleTime setup variant.inactive ≤ cadence.instant k) :
    variantAt? rule cadence k variant = none :=
  (variant.quiet_after hwhole.sample.pos hafter).alertAt?_eq_none

/-- What the case expects of the alert of a variant. -/
theorem Made.expects (h : Made test first second) (state : ActiveState) :
    reading.Expects first (variant.series test.setup) (sampleTime test.setup variant.active) 15
      (variant.expected first test.setup state) where
  labels := by
    refine Template.labels_same_alertLabels fun name hname hrule => ?_
    have hgroup : first.labels.get? "rulegroup" = some groupName := by
      rw [h.first_labels]
      rfl
    have hmetric := get?_metricLabels_without firstRuleName hgroup hname hrule
    rw [Labels.get?_without] at hmetric
    show _ = (variant.labels.without "__name__").get? name
    rw [Labels.get?_without, Variant.labels, Labels.get?_insert]
    by_cases hvariant : "variant" = name
    · rw [if_pos hvariant, ← hvariant]
      rfl
    · rw [if_neg hvariant, hmetric]
      simp [Labels.get?, Labels.ofList, Keyed.ofList, Keyed.put, Keyed.find?, hvariant]
  rendered := by
    show first.annotations.same _ = true
    rw [h.first_annotations]
    exact Labels.same_refl _
  value := by
    show "15" = formatValue 15
    decide +kernel
  activeAt := rfl

/-- While a variant is high its alert is in the state that the hold tells,
as the case expects. -/
theorem Made.variant_agrees (h : Made test first second) (hwhole : test.setup.Whole)
    (hlow : sampleTime test.setup variant.active ≤ cadence.instant k)
    (hhigh : cadence.instant k < sampleTime test.setup variant.inactive) {state : ActiveState}
    (hstate : state = stateAfter DependentRule.hold (cadence.instant k - seenAt cadence variant)) :
    ∃ alert, variantAt? first cadence k variant = some alert ∧
      (variant.expected first test.setup state).Agrees test.setup.groupInterval alert := by
  have hpos := hwhole.sample.pos
  exact (variant.peak hpos).agrees (h.expects variant state)
    (Int.mul_nonneg (Int.natCast_nonneg _) (Int.le_of_lt hpos)) (.inl (Int.le_refl 0)) hlow hhigh
    (h.first_hold ▸ hstate)

/-- A variant is firing from the evaluation at which its hold is over
until it is low. -/
theorem Made.any_firing_iff (h : Made test first second) (hwhole : test.setup.Whole) :
    (variantAt? first cadence k variant).any (fun alert => alert.state == AlertState.firing) =
        true ↔
      heldAt cadence variant ≤ cadence.instant k ∧
        cadence.instant k < sampleTime test.setup variant.inactive := by
  obtain ⟨hseen, -⟩ := seenAt_bounds variant hwhole cadence
  have hhold := le_holdInIntervals DependentRule.hold hwhole.group.pos
  have hminute : DependentRule.hold = 60000 := rfl
  unfold heldAt
  rcases Int.lt_or_le (cadence.instant k) (sampleTime test.setup variant.active) with hlow | hlow
  · rw [variantAt?_eq_none_before variant hwhole hlow, Option.any_none]
    constructor
    · intro hfalse
      cases hfalse
    · omega
  rcases Int.lt_or_le (cadence.instant k) (sampleTime test.setup variant.inactive) with
    hhigh | hhigh
  · rcases held_cases variant cadence hlow with ⟨hheld, hsteps⟩ | ⟨hheld, hsteps⟩
    · obtain ⟨alert, halert, hagrees⟩ := h.variant_agrees variant hwhole hlow hhigh
        (if_pos hheld).symm
      unfold heldAt at hsteps
      have hpos := hwhole.group.pos
      rw [halert, Option.any_some, ← hagrees.state]
      constructor
      · intro hfiring
        have hnot : (ActiveState.pending.text == AlertState.firing) = true := hfiring
        exact absurd hnot (by decide)
      · omega
    · obtain ⟨alert, halert, hagrees⟩ := h.variant_agrees variant hwhole hlow hhigh
        (if_neg (Int.not_lt.mpr hheld)).symm
      rw [halert, Option.any_some, ← hagrees.state]
      exact ⟨fun _ => ⟨hsteps, hhigh⟩, fun _ => rfl⟩
  · rw [variantAt?_eq_none_after variant hwhole hhigh, Option.any_none]
    constructor
    · intro hfalse
      cases hfalse
    · omega

/-- The alert of a variant tells which one it is. -/
theorem Made.get?_variant (h : Made test first second) {alert : Alert}
    (halert : variantAt? first cadence k variant = some alert) :
    alert.labels.get? "variant" = some variant.name := by
  have hrule : first.labels.get? "variant" = none := by
    rw [h.first_labels]
    rfl
  rw [Reading.labels_of_alertAt? halert, Rule.alertLabels, Labels.get?_insert,
    if_neg (by decide), Labels.get?_override, hrule, Option.none_or, Labels.get?_without,
    if_neg (by decide), Variant.series, Variant.labels, Labels.get?_insert, if_pos rfl]

/-- Only the alert of a variant counts as the variant. -/
theorem Made.any_firingVariant (h : Made test first second) (name : String) :
    (variantAt? first cadence k variant).toList.any (firingVariant name) =
      (decide (variant.name = name) && (variantAt? first cadence k variant).any fun alert =>
        alert.state == AlertState.firing) := by
  cases halert : variantAt? first cadence k variant with
  | none => rw [Option.toList_none, List.any_nil, Option.any_none, Bool.and_false]
  | some alert =>
    rw [Option.toList_some, List.any_cons, List.any_nil, Bool.or_false, Option.any_some,
      firingVariant, h.get?_variant variant halert]
    rfl

end Evaluation

/-! ## Both rules at an evaluation -/

section Rules

variable {cadence : Cadence test.setup.groupInterval} {k : Nat}

/-- The first rule has the alerts of its variants. -/
theorem Made.firsts_eq (h : Made test first second) :
    reading.alertsAt first test.series cadence k =
      (variantAt? first cadence k .one).toList ++ (variantAt? first cadence k .two).toList := by
  have hone : reading.selects (Variant.one.series test.setup).labels = true := by
    show reading.selects Variant.one.labels = true
    decide +kernel
  have htwo : reading.selects (Variant.two.series test.setup).labels = true := by
    show reading.selects Variant.two.labels = true
    decide +kernel
  rw [h.series, Reading.alertsAt, variantAt?, variantAt?]
  simp only [List.filter_cons, hone, htwo, if_true, List.filter_nil, List.filterMap_cons,
    List.filterMap_nil]
  cases reading.alertAt? first (Variant.one.series test.setup) cadence k <;>
    cases reading.alertAt? first (Variant.two.series test.setup) cadence k <;> rfl

/-- The first variant is held no later than the second one. -/
theorem heldAt_le (hwhole : setup.Whole) (cadence : Cadence setup.groupInterval) :
    heldAt cadence .one ≤ heldAt cadence .two := by
  have hpos := hwhole.sample.pos
  have hone : sampleTime setup Variant.one.active = 4 * setup.sampleInterval := rfl
  have htwo : sampleTime setup Variant.two.active = 6 * setup.sampleInterval := rfl
  have hseen := cadence.le_instant_first (sampleTime setup Variant.two.active)
  have hfirst : cadence.first (sampleTime setup Variant.one.active) ≤
      cadence.first (sampleTime setup Variant.two.active) :=
    cadence.first_le_iff.mpr (by omega)
  exact Int.add_le_add_right (cadence.instant_mono hfirst) _

/-- Both variants are firing from the evaluation at which the hold of the
second one is over until the first one is low. -/
theorem Made.bothFiring_iff (h : Made test first second) (hwhole : test.setup.Whole) :
    bothFiring (reading.alertsAt first test.series cadence k) = true ↔
      heldAt cadence .two ≤ cadence.instant k ∧
        cadence.instant k < sampleTime test.setup Variant.one.inactive := by
  have hpos := hwhole.sample.pos
  have hover : sampleTime test.setup Variant.one.inactive = 20 * test.setup.sampleInterval := rfl
  have hover' : sampleTime test.setup Variant.two.inactive = 22 * test.setup.sampleInterval := rfl
  have horder := heldAt_le hwhole cadence
  rw [bothFiring, h.firsts_eq, List.any_append, List.any_append, h.any_firingVariant,
    h.any_firingVariant, h.any_firingVariant, h.any_firingVariant]
  have hname : Variant.one.name = "one" := rfl
  have hname' : Variant.two.name = "two" := rfl
  simp only [hname, hname', decide_true, Bool.true_and, Bool.and_eq_true, Bool.or_eq_true]
  rw [h.any_firing_iff .one hwhole, h.any_firing_iff .two hwhole]
  simp
  omega

theorem derivedAt?_eq_none {firsts : Nat → List Alert} (hnot : bothFiring (firsts k) = false) :
    derivedAt? second firsts cadence k = none := by
  have hrun : Cadence.runStart? (fun j => bothFiring (firsts j)) k = none :=
    Cadence.runStart?_eq_none hnot
  rw [derivedAt?, hrun, Option.bind_none]

/-- Both variants have been firing since the evaluation at which the hold
of the second one was over. -/
theorem Made.runStart?_eq (h : Made test first second) (hwhole : test.setup.Whole)
    (hboth : bothFiring (reading.alertsAt first test.series cadence k) = true) :
    ∃ start, Cadence.runStart?
        (fun j => bothFiring (reading.alertsAt first test.series cadence j)) k = some start ∧
      cadence.instant start = heldAt cadence .two := by
  obtain ⟨held, hheld⟩ := cadence.exists_instant_hold (show 0 ≤ DependentRule.hold by decide)
    (cadence.first (sampleTime test.setup Variant.two.active))
  have hinstant : cadence.instant held = heldAt cadence .two := hheld
  obtain ⟨hlow, hhigh⟩ := (h.bothFiring_iff hwhole).mp hboth
  refine ⟨cadence.first (cadence.instant held), ?_, by rw [cadence.instant_first_instant, hinstant]⟩
  refine cadence.runStart?_eq_first (by omega) (fun j hj hstart => ?_) (fun j hstart _ => ?_)
  · have hmono := cadence.instant_mono hj
    exact (h.bothFiring_iff hwhole).mpr ⟨by omega, by omega⟩
  · refine Bool.eq_false_iff.mpr fun hfiring => ?_
    have hlate := ((h.bothFiring_iff hwhole).mp hfiring).1
    omega

/-- The labels of the alert of the first variant. -/
def oneLabels : Labels :=
  ((Variant.one.labels.without "__name__").override firstLabels).insert "alertname" firstRuleName

/-- The labels of the sum are under those of the second rule. -/
theorem derivedLabels_same :
    ((Labels.override (.ofList
      [("alertstate", AlertState.firing), ("foo", "bar"), ("rulegroup", groupName)])
        secondLabels).insert "alertname" secondRuleName).same
      ((((oneLabels.insert "alertstate" AlertState.firing).without "variant").override
        secondLabels).insert "alertname" secondRuleName) = true := by
  decide +kernel

/-- While both variants are firing the second rule has the alert that the
case expects. -/
theorem Made.derived_agrees (h : Made test first second) (hwhole : test.setup.Whole)
    (hboth : bothFiring (reading.alertsAt first test.series cadence k) = true) :
    ∃ alert,
      derivedAt? second (reading.alertsAt first test.series cadence) cadence k = some alert ∧
      (expectedDerived second test.setup .firing).Agrees test.setup.groupInterval alert := by
  obtain ⟨start, hrun, hstart⟩ := h.runStart?_eq hwhole hboth
  -- the alert of the first variant comes first and is firing
  obtain ⟨one, hone, hfiring⟩ : ∃ one, variantAt? first cadence k .one = some one ∧
      (one.state == AlertState.firing) = true := by
    obtain ⟨hlow, hhigh⟩ := (h.bothFiring_iff hwhole).mp hboth
    have horder := heldAt_le hwhole cadence
    exact (Option.any_eq_true _ _).mp
      ((h.any_firing_iff .one hwhole).mpr ⟨by omega, hhigh⟩)
  have hlabels : one.labels = oneLabels := by
    rw [Reading.labels_of_alertAt? hone, Rule.alertLabels, h.first_labels, h.first_name]
    rfl
  have hfind : (reading.alertsAt first test.series cadence k).find? (firingVariant "one") =
      some one := by
    rw [h.firsts_eq, hone, Option.toList_some, List.singleton_append, List.find?_cons_of_pos]
    rw [firingVariant, h.get?_variant .one hone, hfiring]
    rfl
  refine ⟨_, by rw [derivedAt?, hrun, Option.bind_some, hfind, Option.map_some], ?_, ?_, rfl, ?_, _,
    rfl, ?_⟩
  · show (Template.labels ⟨second, _, _⟩).same (second.alertLabels (sumLabels one)) = true
    rw [sumLabels, hlabels, beq_iff_eq.mp hfiring, Template.labels, Rule.alertLabels,
      h.second_labels, h.second_name]
    exact derivedLabels_same
  · have hnames : ((sumLabels one).get? "alertname").getD "" = firstRuleName ∧
        ((sumLabels one).get? "foo").getD "" = "bar" := by
      rw [sumLabels, hlabels, beq_iff_eq.mp hfiring]
      decide +kernel
    show (derivedNotes firstRuleName "bar").same _ = true
    rw [hnames.1, hnames.2]
    exact Labels.same_refl _
  · show "2" = formatValue (1 + 1)
    decide +kernel
  · obtain ⟨hlow, hhigh⟩ := seenAt_bounds .two hwhole cadence
    have hpos := hwhole.group.pos
    have hexpected : (expectedDerived second test.setup .firing).activeAt =
        sampleTime test.setup Variant.two.active +
          holdInIntervals DependentRule.hold test.setup.groupInterval := rfl
    rw [hstart, withinTolerance, decide_eq_true_eq, hexpected]
    unfold heldAt
    omega

end Rules

end AlertConformance.DependentRule
