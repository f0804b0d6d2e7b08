/-
AlertConformance.Proofs.TestCase.Coherence — what the cases of the suite
expect agrees.

Every case gives the rules of its group their own alerts. That intervals
and holds can be told in seconds needs no bound: a case whose interval has
no double cannot be built, as its windows cannot, and the only hold that
depends on the interval is half of it.

* `Made.coherent`, for each case — its table of outcomes is coherent.
* `suite_views` — every case expects the views of its table.
* `suite_expectations_agree` — what any case expects of the three pages
  agrees, candidate by candidate.
-/
import AlertConformance.Proofs.Numeric.Range
import AlertConformance.Proofs.TestCase.Expectations
import AlertConformance.Proofs.TestCase.SingleSeries
import AlertConformance.Proofs.TestCase.Views
import AlertConformance.TestCase.Suite

namespace AlertConformance

/-! ## The cases -/

/-- A hold of a few minutes can be told in seconds. -/
theorem exists_holdSeconds {rule : Rule} {hold : Int} (h : rule.hold = hold)
    (hsmall : hold.natAbs < 2 ^ 53) : ∃ x, inSeconds rule.hold = .ok x := by
  obtain ⟨x, hx, -⟩ := exists_inSeconds hsmall
  exact ⟨x, h ▸ hx⟩

theorem LongHold.Made.coherent {test : TestCase} {rule : Rule} (h : Made test rule) :
    test.Coherent where
  interval := by
    obtain ⟨windows, hwindows, -⟩ := h.windows
    obtain ⟨edges, -, hwindows⟩ := bind_eq_ok_iff.mp hwindows
    obtain ⟨x, -, hwindows⟩ := bind_eq_ok_iff.mp hwindows
    obtain ⟨y, hy, -⟩ := bind_eq_ok_iff.mp hwindows
    exact ⟨y, h.interval ▸ hy⟩
  holds := by
    rw [h.rules, List.forall_mem_singleton]
    exact exists_holdSeconds h.hold (by decide)
  unnamed := by
    rw [h.rules, List.forall_mem_singleton, h.labels]
    rfl
  owned := by
    rw [h.outcomes, h.rules]
    simp [expected]
  distinct := h.distinct

theorem NeverFiring.Made.coherent {test : TestCase} {pending inactive : Rule}
    (h : Made test pending inactive) : test.Coherent where
  interval := by
    have hclassifier := h.classifier
    unfold NeverFiring.classifier at hclassifier
    obtain ⟨sample, -, hclassifier⟩ := bind_eq_ok_iff.mp hclassifier
    obtain ⟨evaluation, hevaluation, -⟩ := bind_eq_ok_iff.mp hclassifier
    exact ⟨evaluation, h.interval ▸ hevaluation⟩
  holds := by
    rw [h.rules, List.forall_mem_cons, List.forall_mem_singleton]
    exact ⟨exists_holdSeconds h.hold (by decide), exists_holdSeconds h.inactive_hold (by decide)⟩
  unnamed := by
    rw [h.rules, List.forall_mem_cons, List.forall_mem_singleton, h.labels, h.inactive_labels]
    exact ⟨rfl, rfl⟩
  owned := by
    rw [h.outcomes, h.rules]
    simp [expected]
  distinct := h.distinct

/-- The interval has been told in seconds for the windows. -/
theorem ShortHold.Made.exists_intervalSeconds {test : TestCase} {zero small : Rule}
    (h : Made test zero small) : ∃ x, inSeconds test.setup.groupInterval = .ok x := by
  have hclassifier := h.classifier
  unfold ShortHold.classifier at hclassifier
  obtain ⟨sample, -, hclassifier⟩ := bind_eq_ok_iff.mp hclassifier
  obtain ⟨evaluation, hevaluation, -⟩ := bind_eq_ok_iff.mp hclassifier
  exact ⟨evaluation, hevaluation⟩

/-- The second hold is half an interval. -/
theorem ShortHold.Made.coherent {test : TestCase} {zero small : Rule} (h : Made test zero small) :
    test.Coherent where
  interval := h.interval ▸ h.exists_intervalSeconds
  holds := by
    obtain ⟨x, hx⟩ := h.exists_intervalSeconds
    have hpos : 0 < test.setup.groupInterval := h.interval ▸ test.group.interval_pos
    rw [h.rules, List.forall_mem_cons, List.forall_mem_singleton, h.small_hold]
    exact ⟨exists_holdSeconds h.zero_hold (by decide), exists_inSeconds_half hpos hx⟩
  unnamed := by
    rw [h.rules, List.forall_mem_cons, List.forall_mem_singleton, h.zero_labels, h.small_labels]
    exact ⟨rfl, rfl⟩
  owned := by
    rw [h.outcomes, h.rules]
    simp [ShortHold.outcomes, expected]
  distinct := h.distinct

theorem DependentRule.Made.coherent {test : TestCase} {first second : Rule}
    (h : Made test first second) : test.Coherent where
  interval := by
    obtain ⟨windows, hwindows, -⟩ := h.windows
    obtain ⟨edges, -, hwindows⟩ := bind_eq_ok_iff.mp hwindows
    obtain ⟨x, -, hwindows⟩ := bind_eq_ok_iff.mp hwindows
    obtain ⟨y, hy, -⟩ := bind_eq_ok_iff.mp hwindows
    exact ⟨y, h.interval ▸ hy⟩
  holds := by
    rw [h.rules, List.forall_mem_cons, List.forall_mem_singleton]
    exact ⟨exists_holdSeconds h.first_hold (by decide), exists_holdSeconds h.second_hold (by decide)⟩
  unnamed := by
    rw [h.rules, List.forall_mem_cons, List.forall_mem_singleton, h.first_labels, h.second_labels]
    exact ⟨rfl, rfl⟩
  owned := by
    rw [h.outcomes, h.rules]
    intro other hmem
    obtain ⟨phase, -, rfl⟩ := List.mem_map.mp hmem
    refine .cons (fun a ha => ?_) (.cons (fun a ha => ?_) .nil)
    · rcases List.mem_append.mp ha with hone | htwo
      · obtain ⟨state, -, rfl⟩ := List.mem_map.mp hone
        rfl
      · obtain ⟨state, -, rfl⟩ := List.mem_map.mp htwo
        rfl
    · obtain ⟨state, -, rfl⟩ := List.mem_map.mp ha
      rfl
  distinct := h.distinct

/-! ## The suite -/

/-- Every case of the suite is coherent. -/
theorem suite_coherent {kind : CaseKind} (hkind : kind ∈ CaseKind.suite) {setup : Setup}
    {test : TestCase} (h : kind.build setup = .ok test) : test.Coherent := by
  simp only [CaseKind.suite, List.mem_cons, List.not_mem_nil, or_false] at hkind
  rcases hkind with rfl | rfl | rfl | rfl
  · obtain ⟨-, rule, hmade⟩ := LongHold.exists_made h
    exact hmade.coherent
  · obtain ⟨-, pending, inactive, hmade⟩ := NeverFiring.exists_made h
    exact hmade.coherent
  · obtain ⟨-, zero, small, hmade⟩ := ShortHold.exists_made h
    exact hmade.coherent
  · obtain ⟨-, first, second, hmade⟩ := DependentRule.exists_made h
    exact hmade.coherent

/-- A case can be made when its expectations can, and these are the views
of its table of outcomes. -/
theorem suite_views {kind : CaseKind} (hkind : kind ∈ CaseKind.suite) {setup : Setup}
    {expectations : Expectations} (h : kind.expectations setup = .ok expectations) :
    ∃ test, kind.build setup = .ok test ∧ expectations.Views test := by
  simp only [CaseKind.suite, List.mem_cons, List.not_mem_nil, or_false] at hkind
  rcases hkind with rfl | rfl | rfl | rfl
  all_goals
    obtain ⟨made, hmade, h⟩ := bind_eq_ok_iff.mp h
    obtain rfl := Except.ok.inj h
    refine ⟨made.testCase, bind_eq_ok_iff.mpr ⟨made, hmade, rfl⟩, ?_⟩
  · exact LongHold.Case.views hmade
  · exact NeverFiring.Case.views hmade
  · exact ShortHold.Case.views hmade
  · exact DependentRule.Case.views hmade

/-- **Agreement**: whatever set-up a case of the suite is made for, at any
time of any test it expects as many rule groups as pages of alerts, and as
many vectors of samples, and those that stand at one place agree. -/
theorem suite_expectations_agree {kind : CaseKind} (hkind : kind ∈ CaseKind.suite) {setup : Setup}
    {expectations : Expectations} (h : kind.expectations setup = .ok expectations)
    (zeroTime time : Int) :
    ∃ test pages groups vectors, kind.build setup = .ok test ∧
      expectations.alerts ⟨some zeroTime⟩ time = .ok pages ∧
      expectations.groups ⟨some zeroTime⟩ time = .ok groups ∧
      expectations.samples ⟨some zeroTime⟩ time = .ok vectors ∧
      groups.length = pages.length ∧ vectors.length = pages.length ∧
      ∀ (i : Nat) page group vector, pages[i]? = some page → groups[i]? = some group →
        vectors[i]? = some vector → test.Agree time page group vector := by
  obtain ⟨test, hbuild, hviews⟩ := suite_views hkind h
  obtain ⟨groups, hgroups, hcount, hcount', hagree⟩ :=
    (suite_coherent hkind hbuild).views_agree zeroTime time
  exact ⟨test, _, groups, _, hbuild, hviews.alerts zeroTime time,
    (hviews.groups zeroTime time).trans hgroups, hviews.samples zeroTime time, hcount, hcount',
    hagree⟩

/-- The case of the rule on top of other alerts, as it is meant. When the
first variant ends, after five minutes, two phases are possible. -/
theorem suite_expectations_agree_usual : ∃ expectations test pages groups vectors,
    CaseKind.dependentRule.expectations CaseKind.dependentRule.usual = .ok expectations ∧
      CaseKind.dependentRule.build CaseKind.dependentRule.usual = .ok test ∧
      expectations.alerts ⟨some 0⟩ (5 * minute) = .ok pages ∧
      expectations.groups ⟨some 0⟩ (5 * minute) = .ok groups ∧
      expectations.samples ⟨some 0⟩ (5 * minute) = .ok vectors ∧ pages.length = 2 ∧
      ∀ (i : Nat) page group vector, pages[i]? = some page → groups[i]? = some group →
        vectors[i]? = some vector → test.Agree (5 * minute) page group vector := by
  have hcount : (CaseKind.dependentRule.expectations CaseKind.dependentRule.usual).toOption.bind
      (fun expectations => (expectations.alerts ⟨some 0⟩ (5 * minute)).toOption.map List.length) =
        some 2 := by
    decide +kernel
  obtain ⟨expectations, hexpectations, hcount⟩ := Option.bind_eq_some_iff.mp hcount
  obtain ⟨pages, hpages, htwo⟩ := Option.map_eq_some_iff.mp hcount
  have hmade := eq_ok_of_toOption hexpectations
  obtain ⟨test, pages', groups, vectors, hbuild, hpages', hgroups, hvectors, -, -, hagree⟩ :=
    suite_expectations_agree (by simp [CaseKind.suite]) hmade 0 (5 * minute)
  obtain rfl : pages = pages' :=
    Except.ok.inj ((eq_ok_of_toOption hpages).symm.trans hpages')
  exact ⟨expectations, test, pages, groups, vectors, hmade, hbuild, hpages', hgroups, hvectors,
    htwo, hagree⟩

end AlertConformance
