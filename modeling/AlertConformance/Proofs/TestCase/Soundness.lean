/-
AlertConformance.Proofs.TestCase.Soundness — the cases of the suite pass
their own self-check.

The windows of a case leave no gap, since neighbouring ones overlap by at
least one interval, and its bursts follow each other, since the windows
could only be made from transitions that do. The case of the short holds
has windows without transitions; there the second alert has to fire before
its series ends.

* `Made.covered` — at every time some outcome is possible.
* `Made.inSequence` — the bursts come one after another.
* `Made.sound` — both, for each case.
* `suite_passes` — the self-check of every case.
-/
import AlertConformance.Proofs.TestCase.Coherence
import AlertConformance.Proofs.TestCase.SelfCheck

namespace AlertConformance

open Schedule

variable {test : TestCase} {rule first second zero small pending inactive : Rule}

/-- Label sets of alerts that can be told apart have different keys. -/
theorem Labels.key_ne_of_identity_ne {a b : Labels} (h : a.identity ≠ b.identity) :
    a.key ≠ b.key :=
  mt Labels.identity_eq_of_key_eq h

/-! ## The long hold -/

namespace LongHold

theorem Made.covered (h : Made test rule) (hwhole : test.setup.Whole) : test.Covered := by
  intro elapsed hlow hhigh
  have hgroup := hwhole.group.pos
  have hduration : elapsed < (102 : Nat) * test.setup.sampleInterval := by
    rwa [TestCase.duration, h.sampleCount] at hhigh
  obtain ⟨phase, span, hphase, hstart, hstop⟩ := exists_phase
    [activeAt test.setup, firesAt test.setup, inactiveAt test.setup]
    (show 3 < phases.length by decide) (Int.le_of_lt hgroup) hlow
    (show elapsed < (102 : Nat) * test.setup.sampleInterval + test.setup.groupInterval by omega)
  have houtcome : ∃ rules, ⟨[phase], rules⟩ ∈ test.outcomes := by
    have hmem := (List.of_mem_zip hphase).1
    simp only [phases, List.mem_cons, List.not_mem_nil, or_false] at hmem
    rw [h.outcomes]
    rcases hmem with rfl | rfl | rfl | rfl
    · exact ⟨_, .head _⟩
    · exact ⟨_, .tail _ (.head _)⟩
    · exact ⟨_, .tail _ (.tail _ (.head _))⟩
    · exact ⟨_, .tail _ (.tail _ (.tail _ (.head _)))⟩
  obtain ⟨rules, hrules⟩ := houtcome
  exact List.ne_nil_of_mem (h.mem_outcomesAt hwhole hrules hphase hstart hstop)

theorem Made.inSequence (h : Made test rule) (hwhole : test.setup.Whole) :
    InSequence test.setup.settings test.bursts := by
  have hincrease := h.increase hwhole
  simp only [List.isChain_cons_cons, List.isChain_singleton, and_true] at hincrease
  rw [h.bursts]
  exact inSequence_episode _ _ hincrease.2 (by simp)

end LongHold

/-! ## The case without a firing alert -/

namespace NeverFiring

theorem Made.covered (h : Made test pending inactive) (hwhole : test.setup.Whole) :
    test.Covered := by
  intro elapsed hlow hhigh
  have hgroup := hwhole.group.pos
  have hduration : elapsed < 63 * test.setup.sampleInterval := by
    rwa [TestCase.duration, h.sampleCount] at hhigh
  rcases Int.lt_or_le elapsed (activeAt test.setup + test.setup.groupInterval) with hbefore | hfrom
  · exact List.ne_nil_of_mem (h.inactive_possible hwhole (.inl ⟨hlow, hbefore⟩))
  rcases Int.lt_or_le elapsed (inactiveAt test.setup + test.setup.groupInterval) with
    hduring | hafter
  · exact List.ne_nil_of_mem (h.pending_possible hwhole (by omega) hduring)
  · exact List.ne_nil_of_mem (h.inactive_possible hwhole (.inr ⟨by omega, by omega⟩))

end NeverFiring

/-! ## The short holds -/

namespace ShortHold

theorem Made.covered (h : Made test zero small) (hwhole : test.setup.Whole) : test.Covered := by
  intro elapsed hlow hhigh
  have hpos := hwhole.sample.pos
  have hgroup := hwhole.group.pos
  have hvalid := h.valid hwhole
  have hhorizon : sampleTime test.setup inactiveHorizon = 240 * test.setup.sampleInterval := rfl
  have hduration : elapsed < 127 * test.setup.sampleInterval := by
    rwa [TestCase.duration, h.sampleCount] at hhigh
  rcases Int.lt_or_le elapsed
    (sampleTime test.setup becomesActive + test.setup.groupInterval) with hbefore | hfrom
  · exact List.ne_nil_of_mem (h.inactive_possible (hvalid.before elapsed hlow hbefore))
  rcases Int.lt_or_le elapsed
    (sampleTime test.setup becomesInactive + test.setup.groupInterval) with hduring | hafter
  · -- both alerts fire from the second evaluation on
    have hzero := hvalid.zeroFiring elapsed (by omega) hduring
    have hsmall := hvalid.smallFiring elapsed hfrom hduring
    have hmem : ⟨["zf_firing", "sf_firing"],
        [[expected zeroReading zero test.setup .firing becomesActive],
          [expected smallReading small test.setup .firing becomesActive]]⟩ ∈
        test.outcomesAt elapsed := by
      rw [TestCase.mem_outcomesAt, h.outcomes]
      refine ⟨by simp [ShortHold.outcomes], ?_⟩
      simp [hzero, hsmall]
    exact List.ne_nil_of_mem hmem
  rcases Int.lt_or_le elapsed
    (sampleTime test.setup activeAgain + test.setup.groupInterval) with hpause | hagain
  · exact List.ne_nil_of_mem (h.inactive_possible (hvalid.between elapsed (by omega) hpause))
  rcases Int.lt_or_le elapsed
    (sampleTime test.setup inactiveAgain + test.setup.groupInterval) with hduring | hended
  · have hvalidAgain := hvalid.zeroAgain elapsed (by omega) hduring
    have hmem : ⟨["zf_firing_again"],
        [[expected zeroReading zero test.setup .firing activeAgain], []]⟩ ∈
        test.outcomesAt elapsed := by
      rw [TestCase.mem_outcomesAt, h.outcomes]
      refine ⟨by simp [ShortHold.outcomes], ?_⟩
      simp [hvalidAgain]
    exact List.ne_nil_of_mem hmem
  · exact List.ne_nil_of_mem
      (h.inactive_possible (hvalid.afterwards elapsed (by omega) (by omega)))

theorem Made.inSequence (h : Made test zero small) (hwhole : test.setup.Whole)
    (hroom : test.setup.groupInterval < 13 * test.setup.sampleInterval) :
    InSequence test.setup.settings test.bursts := by
  have hpos := hwhole.sample.pos
  have hactive : sampleTime test.setup becomesActive = 8 * test.setup.sampleInterval := rfl
  have hinactive : sampleTime test.setup becomesInactive = 21 * test.setup.sampleInterval := rfl
  have hagain : sampleTime test.setup activeAgain = 93 * test.setup.sampleInterval := rfl
  have hlast : sampleTime test.setup inactiveAgain = 106 * test.setup.sampleInterval := rfl
  rw [h.bursts]
  refine (inSequence_episodes _ _ (by omega) (by omega) (by omega)).append_episode (by omega) ?_
  intro burst hmem
  have hlabels : burst.labels =
      (expected zeroReading zero test.setup .firing becomesActive).template.labels :=
    (List.mem_append.mp hmem).elim labels_of_mem_episode labels_of_mem_episode
  rw [hlabels]
  refine Labels.key_ne_of_identity_ne ?_
  simp [Labels.identity, Template.get?_alertname, expected, h.zero_name, h.small_name,
    zeroRuleName_ne]

end ShortHold

/-! ## The rule on top of other alerts -/

namespace DependentRule

theorem Made.covered (h : Made test first second) (hwhole : test.setup.Whole) :
    test.Covered := by
  intro elapsed hlow hhigh
  have hgroup := hwhole.group.pos
  have hduration : elapsed < (102 : Nat) * test.setup.sampleInterval := by
    rwa [TestCase.duration, h.sampleCount] at hhigh
  obtain ⟨phase, span, hphase, hstart, hstop⟩ := exists_phase (transitions test.setup)
    (show 6 < phases.length by decide) (Int.le_of_lt hgroup) hlow
    (show elapsed < (102 : Nat) * test.setup.sampleInterval + test.setup.groupInterval by omega)
  exact List.ne_nil_of_mem (h.mem_outcomesAt hwhole hphase hstart hstop)

theorem Made.inSequence (h : Made test first second) (hwhole : test.setup.Whole) :
    InSequence test.setup.settings test.bursts := by
  have hincrease := h.increase hwhole
  simp only [transitions, List.isChain_cons_cons, List.isChain_singleton, and_true] at hincrease
  obtain ⟨-, -, hfires, hends, hlast⟩ := hincrease
  have hnames : firstRuleName ≠ secondRuleName := by decide
  rw [h.bursts]
  refine ((inSequence_episode _ _ (by omega) (by simp)).append_episode (by omega)
    ?variants).append_episode hends ?derived
  case variants =>
    intro burst hmem
    rw [labels_of_mem_episode hmem]
    refine Labels.key_ne_of_identity_ne ?_
    simp [h.identity_variant, Variant.one, Variant.two]
  case derived =>
    intro burst hmem
    have hlabels : ∃ variant : Variant, burst.labels =
        (variant.expected first test.setup .firing).template.labels := by
      rcases List.mem_append.mp hmem with hone | htwo
      · exact ⟨.one, labels_of_mem_episode hone⟩
      · exact ⟨.two, labels_of_mem_episode htwo⟩
    obtain ⟨variant, hlabels⟩ := hlabels
    rw [hlabels]
    refine Labels.key_ne_of_identity_ne ?_
    simp [h.identity_variant, h.identity_derived, hnames]

end DependentRule

/-! ## The suite -/

/-- A case whose parts are sound is. -/
theorem TestCase.sound_of_whole (hwhole : test.setup.Whole)
    (hdelay : 0 < test.setup.settings.resendDelay) (hview : test.Viewable)
    (hcoherent : test.Coherent) (hcovered : test.Covered)
    (hsequence : InSequence test.setup.settings test.bursts) : test.Sound where
  viewable := hview
  coherent := hcoherent
  covered := hcovered
  inSequence := hsequence
  interval_pos := hwhole.group.pos
  delay_pos := hdelay
  duration_nonneg := Int.mul_nonneg (Int.natCast_nonneg _) (Int.le_of_lt hwhole.sample.pos)

/-- Every case of the suite is sound for intervals of whole seconds. -/
theorem suite_sound {kind : CaseKind} (hkind : kind ∈ CaseKind.suite) {setup : Setup}
    (hwhole : setup.Whole) (hdelay : 0 < setup.settings.resendDelay)
    (hroom : kind = CaseKind.shortHold → setup.groupInterval < 13 * setup.sampleInterval)
    (h : kind.build setup = .ok test) : test.Sound := by
  simp only [CaseKind.suite, List.mem_cons, List.not_mem_nil, or_false] at hkind
  rcases hkind with rfl | rfl | rfl | rfl
  · obtain ⟨rfl, rule, hmade⟩ := LongHold.exists_made h
    exact TestCase.sound_of_whole hwhole hdelay (hmade.viewable hwhole) hmade.coherent
      (hmade.covered hwhole) (hmade.inSequence hwhole)
  · obtain ⟨rfl, pending, inactive, hmade⟩ := NeverFiring.exists_made h
    have hsequence : InSequence test.setup.settings test.bursts := by
      rw [hmade.bursts]
      exact ⟨by simp, .nil⟩
    exact TestCase.sound_of_whole hwhole hdelay (hmade.viewable hwhole) hmade.coherent
      (hmade.covered hwhole) hsequence
  · obtain ⟨rfl, zero, small, hmade⟩ := ShortHold.exists_made h
    exact TestCase.sound_of_whole hwhole hdelay (hmade.viewable hwhole) hmade.coherent
      (hmade.covered hwhole) (hmade.inSequence hwhole (hroom rfl))
  · obtain ⟨rfl, first, second, hmade⟩ := DependentRule.exists_made h
    exact TestCase.sound_of_whole hwhole hdelay (hmade.viewable hwhole) hmade.coherent
      (hmade.covered hwhole) (hmade.inSequence hwhole)

/-- **Self-checks**: every case of the suite that can be built for intervals
of whole seconds passes its self-check, whatever the retention and the
expiry, whenever the test starts and however long the steps are. -/
theorem suite_passes {kind : CaseKind} (hkind : kind ∈ CaseKind.suite) {setup : Setup}
    (hwhole : setup.Whole) (hdelay : 0 < setup.settings.resendDelay)
    (hroom : kind = CaseKind.shortHold → setup.groupInterval < 13 * setup.sampleInterval)
    (h : kind.build setup = .ok test) (zeroTime : Int) {step : Int} (hstep : 0 < step) :
    ∃ wanted result, test.Passes zeroTime step wanted result :=
  (suite_sound hkind hwhole hdelay hroom h).passes hstep zeroTime

/-- The case of the short holds, as it is meant, in steps of a minute. -/
theorem suite_passes_usual : ∃ test wanted result,
    CaseKind.shortHold.build CaseKind.shortHold.usual = .ok test ∧
      test.Passes usualZeroTime minute wanted result := by
  obtain ⟨test, htest⟩ := exists_eq_ok_of_isOk (by decide +kernel :
    (CaseKind.shortHold.build CaseKind.shortHold.usual).isOk = true)
  have hstep : 0 < minute := by decide
  obtain ⟨wanted, result, hpasses⟩ := suite_passes (by simp [CaseKind.suite]) (by decide)
    (by decide) (fun _ => by decide) htest usualZeroTime hstep
  exact ⟨test, wanted, result, htest, hpasses⟩

end AlertConformance
