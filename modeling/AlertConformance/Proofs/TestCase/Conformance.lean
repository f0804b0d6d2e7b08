/-
AlertConformance.Proofs.TestCase.Conformance — test cases that accept every
engine that evaluates as it should.

The windows of a case are derived by hand. They are right when, whatever
the offset of the evaluations and at every time of the test, what an
engine shows fits an outcome whose scenarios are valid.

* `WholeSeconds`, `Setup.Whole` — intervals for which windows are exact.
* `TestCase.evaluate` — the alerts of the rules at an evaluation.
* `TestCase.Conforms` — every engine is accepted, at every time.
* `TestCase.Viewable.accepts_shown` — it is enough that what is shown
  before the first and after each evaluation fits.
-/
import AlertConformance.Proofs.Series.Levels
import AlertConformance.Proofs.TestCase.Acceptance

namespace AlertConformance

/-- An interval of whole seconds below 2 ^ 40 milliseconds. -/
structure WholeSeconds (interval : Int) : Prop where
  pos : 0 < interval
  lt : interval < 2 ^ 40
  whole : 1000 ∣ interval

/-- A set-up with intervals of whole seconds. -/
structure Setup.Whole (setup : Setup) : Prop where
  sample : WholeSeconds setup.sampleInterval
  group : WholeSeconds setup.groupInterval

instance (interval : Int) : Decidable (WholeSeconds interval) :=
  decidable_of_iff (0 < interval ∧ interval < 2 ^ 40 ∧ 1000 ∣ interval)
    ⟨fun h => ⟨h.1, h.2.1, h.2.2⟩, fun h => ⟨h.pos, h.lt, h.whole⟩⟩

instance (setup : Setup) : Decidable setup.Whole :=
  decidable_of_iff (WholeSeconds setup.sampleInterval ∧ WholeSeconds setup.groupInterval)
    ⟨fun h => ⟨h.1, h.2⟩, fun h => ⟨h.sample, h.group⟩⟩

/-! ## Times of a case -/

theorem le_holdInIntervals (hold : Int) {interval : Int} (hpos : 0 < interval) :
    hold ≤ holdInIntervals hold interval := by
  have hmul := Int.ediv_mul_le (-hold) (Int.ne_of_gt hpos)
  rw [holdInIntervals, Int.neg_mul]
  omega

theorem holdInIntervals_lt (hold : Int) {interval : Int} (hpos : 0 < interval) :
    holdInIntervals hold interval < hold + interval := by
  have hmul := Int.lt_ediv_add_one_mul_self (-hold) hpos
  rw [Int.add_mul, Int.one_mul] at hmul
  rw [holdInIntervals, Int.neg_mul]
  omega

/-- A hold of no more than an interval is covered by one. -/
theorem holdInIntervals_eq {hold interval : Int} (hpos : 0 < hold) (hle : hold ≤ interval) :
    holdInIntervals hold interval = interval := by
  have hinterval : 0 < interval := Int.lt_of_lt_of_le hpos hle
  have hlow : -1 ≤ -hold / interval := (Int.le_ediv_iff_mul_le hinterval).mpr (by omega)
  have hhigh : -hold / interval < 0 := (Int.ediv_lt_iff_lt_mul hinterval).mpr (by omega)
  rw [holdInIntervals, show -hold / interval = -1 by omega, Int.neg_neg, Int.one_mul]

/-- Such an interval is small enough to be shown in seconds. -/
theorem WholeSeconds.natAbs_lt {interval : Int} (h : WholeSeconds interval) :
    interval.natAbs < 2 ^ 53 := by
  have hpos := h.pos
  have hlt := h.lt
  omega

/-- A hold in whole intervals is one of whole seconds. -/
theorem WholeSeconds.dvd_holdInIntervals {interval : Int} (h : WholeSeconds interval)
    (hold : Int) : 1000 ∣ holdInIntervals hold interval :=
  Dvd.dvd.mul_left h.whole _

section Phases

variable {setup : Setup} {times : List Int} {edges : List Binary64} {sampleCount : Nat}
  {x y : Binary64} {windows : List Window}

/-- The transitions of a case in whole seconds. -/
theorem marks_of_transitions (hedges : times.mapM inSeconds = .ok edges)
    (htimes : ∀ time ∈ times, 1000 ∣ time ∧ 0 ≤ time ∧ time < exactLimit) :
    List.Forall₂ Binary64.Marks edges times := by
  refine Binary64.marks_of_mapM_inSeconds hedges fun time hmem => ?_
  obtain ⟨hwhole, hlow, hhigh⟩ := htimes time hmem
  unfold exactLimit at hhigh
  exact ⟨hwhole, by omega⟩

/-- The windows of a case that goes through phases cover their spans. -/
theorem Setup.Whole.phaseWindows_covers (hwhole : setup.Whole)
    (hedges : times.mapM inSeconds = .ok edges)
    (htimes : ∀ time ∈ times, 1000 ∣ time ∧ 0 ≤ time ∧ time < exactLimit)
    (hx : inSeconds (sampleCount * setup.sampleInterval + setup.groupInterval) = .ok x)
    (hy : inSeconds setup.groupInterval = .ok y) (hcount : sampleCount < 1000)
    (h : phaseWindows edges x y = .ok windows) :
    List.Forall₂ (fun window span => window.Covers span.1 span.2) windows
      (phaseSpans times (sampleCount * setup.sampleInterval + setup.groupInterval)
        setup.groupInterval) := by
  obtain ⟨hspos, hslt, hswhole⟩ := hwhole.sample
  obtain ⟨hgpos, hglt, hgwhole⟩ := hwhole.group
  have hlow : 0 ≤ sampleCount * setup.sampleInterval :=
    Int.mul_nonneg (Int.natCast_nonneg _) (Int.le_of_lt hspos)
  have hhigh : sampleCount * setup.sampleInterval ≤ 1000 * setup.sampleInterval :=
    Int.mul_le_mul_of_nonneg_right (by omega) (Int.le_of_lt hspos)
  have hdvd : 1000 ∣ (sampleCount : Int) * setup.sampleInterval := Dvd.dvd.mul_left hswhole _
  refine AlertConformance.phaseWindows_covers h (marks_of_transitions hedges htimes)
    (fun time hmem => (htimes time hmem).2) (Binary64.marks_of_inSeconds hx ?_ ?_)
    (Binary64.marks_of_inSeconds hy hgwhole ?_) ?_
  · omega
  · omega
  · omega
  · unfold exactLimit
    omega

end Phases

/-! ## Evaluations of a case -/

namespace TestCase

/-- The alerts of the rules of a test at an evaluation, each rule reading
the series of the test in its own way. -/
def evaluate (test : TestCase) (readings : List Reading)
    (cadence : Cadence test.setup.groupInterval) (k : Nat) : List (List Alert) :=
  List.zipWith (fun rule reading => reading.alertsAt rule test.series cadence k)
    test.group.rules readings

/-- Two rules, each of which selects one of two series. -/
theorem evaluate_eq_pair {test : TestCase} {first second : Rule} {one two : Reading}
    {left right : TimeSeries} (hrules : test.group.rules = [first, second])
    (hseries : test.series = [left, right]) (hone : one.selects left.labels = true)
    (hone' : one.selects right.labels = false) (htwo : two.selects left.labels = false)
    (htwo' : two.selects right.labels = true) (cadence : Cadence test.setup.groupInterval)
    (k : Nat) :
    test.evaluate [one, two] cadence k =
      [(one.alertAt? first left cadence k).toList,
        (two.alertAt? second right cadence k).toList] := by
  have hfirst : ([left, right].filter fun series => one.selects series.labels) = [left] := by
    simp [hone, hone']
  have hsecond : ([left, right].filter fun series => two.selects series.labels) = [right] := by
    simp [htwo, htwo']
  rw [evaluate, hrules, hseries, List.zipWith_cons_cons, List.zipWith_cons_cons,
    List.zipWith_nil_left, Reading.alertsAt_eq_toList hfirst, Reading.alertsAt_eq_toList hsecond]

/-- The rules of a test read its series as `readings` tell, and whatever
the offset of the evaluations and the start of the test, what is shown is
accepted as long as the test lasts. -/
structure Conforms (test : TestCase) (readings : List Reading) : Prop where
  reads : List.Forall₂ (fun rule reading => rule.expr = Reading.expr reading)
    test.group.rules readings
  accepts : ∀ (cadence : Cadence test.setup.groupInterval) (zeroTime time : Int),
    0 ≤ time → time < test.duration →
    test.Accepts zeroTime time
      (cadence.shown test.group.rules (test.evaluate readings cadence) time)

/-- **Conformance**: it is enough that what the rules show fits a possible
outcome, before the first evaluation and in the interval after each. -/
theorem Viewable.accepts_shown {test : TestCase} (hview : test.Viewable)
    {cadence : Cadence test.setup.groupInterval} {results : Nat → List (List Alert)}
    {zeroTime time : Int}
    (hbefore : time < test.setup.groupInterval →
      test.Foresees time (test.group.rules.map fun _ => []))
    (hafter : ∀ k, cadence.instant k ≤ time → time < cadence.instant k + test.setup.groupInterval →
      test.Foresees time (results k)) :
    test.Accepts zeroTime time (cadence.shown test.group.rules results time) := by
  have hinterval := Int.le_of_lt cadence.interval_pos
  unfold Cadence.shown
  cases hlast : cadence.last? time with
  | none => exact hview.accepts hinterval (hbefore (cadence.last?_eq_none hlast))
  | some k =>
    obtain ⟨hle, hlt⟩ := cadence.last?_eq_some hlast
    exact hview.accepts hinterval (hafter k hle hlt)

end TestCase

end AlertConformance
