/-
AlertConformance.Proofs.TestCase.SingleSeries — the cases whose rules read
one series each accept every engine that evaluates as it should.

The long hold needs nothing but whole seconds. In the case that never
fires the series must not be high for longer than the hold, and in the
case of the short holds the pause must have an evaluation.

* `single_series_conform` — the three cases.
-/
import AlertConformance.Proofs.TestCase.LongHold
import AlertConformance.Proofs.TestCase.NeverFiring
import AlertConformance.Proofs.TestCase.ShortHold

namespace AlertConformance

/-- **Conformance** of the cases with one series for each rule. -/
theorem single_series_conform {setup : Setup} (hwhole : setup.Whole) :
    (∀ test, LongHold.testCase setup = .ok test → test.Conforms [LongHold.reading]) ∧
    (4 * setup.sampleInterval ≤ 60000 →
      ∀ test, NeverFiring.testCase setup = .ok test →
        test.Conforms [NeverFiring.pendingReading, NeverFiring.inactiveReading]) ∧
    (setup.groupInterval ≤ 72 * setup.sampleInterval →
      ∀ test, ShortHold.testCase setup = .ok test →
        test.Conforms [ShortHold.zeroReading, ShortHold.smallReading]) := by
  refine ⟨fun test h => ?_, fun hshort test h => ?_, fun hpause test h => ?_⟩
  · obtain ⟨rfl, rule, hmade⟩ := LongHold.exists_made h
    exact hmade.conforms hwhole
  · obtain ⟨rfl, pending, inactive, hmade⟩ := NeverFiring.exists_made h
    exact hmade.conforms hwhole hshort
  · obtain ⟨rfl, zero, small, hmade⟩ := ShortHold.exists_made h
    exact hmade.conforms hwhole hpause

/-- The intervals for which the cases are meant. -/
theorem single_series_conform_usual :
    (∃ test, LongHold.testCase LongHold.usual = .ok test ∧ test.Conforms [LongHold.reading]) ∧
    (∃ test, NeverFiring.testCase NeverFiring.usual = .ok test ∧
      test.Conforms [NeverFiring.pendingReading, NeverFiring.inactiveReading]) ∧
    (∃ test, ShortHold.testCase ShortHold.usual = .ok test ∧
      test.Conforms [ShortHold.zeroReading, ShortHold.smallReading]) := by
  obtain ⟨long, hlong⟩ := exists_eq_ok_of_isOk
    (by decide +kernel : (LongHold.testCase LongHold.usual).isOk = true)
  obtain ⟨never, hnever⟩ := exists_eq_ok_of_isOk
    (by decide +kernel : (NeverFiring.testCase NeverFiring.usual).isOk = true)
  obtain ⟨short, hshort⟩ := exists_eq_ok_of_isOk
    (by decide +kernel : (ShortHold.testCase ShortHold.usual).isOk = true)
  exact ⟨⟨long, hlong, (single_series_conform (by decide)).1 long hlong⟩,
    ⟨never, hnever, (single_series_conform (by decide)).2.1 (by decide) never hnever⟩,
    ⟨short, hshort, (single_series_conform (by decide)).2.2 (by decide) short hshort⟩⟩

end AlertConformance
