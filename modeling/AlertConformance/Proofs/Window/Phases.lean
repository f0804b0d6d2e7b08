/-
AlertConformance.Proofs.Window.Phases — which phases may be observed at a
time.

The windows of the phases of a case are wider than the phases. At any time
before the horizon the phases whose windows hold it follow one another: the
first one is the phase that no transition has surely left behind, the last
one the phase that a transition may just have opened. Everything else is a
comparison of counts of transitions.

* `phasesAt`, `nominalPhase` — the phases that may be observed, and the
  phase that a time belongs to.
* `PhasePlan` — times of transitions that make sense.
* `PhasePlan.exists_windows` — a plan has its windows.
* `phasesAt_eq_range'` — the phases at a time, counted by transitions.
* `phases_consecutive` — no gap, no phase left out, and at most two
  phases at once unless transitions are too close.
-/
import AlertConformance.Proofs.Window.Coverage
import Mathlib.Data.List.Basic

namespace AlertConformance

variable {times : List Int} {horizon slack elapsed start : Int}

/-- The phases whose windows hold an elapsed time. -/
def phasesAt (windows : List Window) (elapsed : Int) : List Nat :=
  windows.findIdxs fun window => window.contains elapsed

/-- The phase that a time belongs to: so many transitions have come. -/
def nominalPhase (times : List Int) (elapsed : Int) : Nat :=
  times.countP fun time => time ≤ elapsed

/-- Transitions come one after another, after the start and before the
horizon, and all times are small enough to be exact, as those below 2 ^ 40
seconds are. -/
structure PhasePlan (times : List Int) (horizon slack : Int) : Prop where
  increasing : times.Pairwise (· < ·)
  positive : ∀ time ∈ times, 0 < time
  before : ∀ time ∈ times, time < horizon
  horizon_pos : 0 < horizon
  horizon_lt : horizon < exactLimit
  slack_nonneg : 0 ≤ slack
  slack_lt : slack < exactLimit

/-! ## The windows of a plan -/

theorem PhasePlan.bounds (plan : PhasePlan times horizon slack) :
    ∀ time ∈ times, 0 ≤ time ∧ time < exactLimit := by
  intro time hmem
  have hpos := plan.positive time hmem
  have hbefore := plan.before time hmem
  have hlimit := plan.horizon_lt
  exact ⟨by omega, by omega⟩

/-- A window that ends after it starts is made. -/
theorem Window.exists_new {x y : Binary64} {stop : Int} (hx : x.Marks start) (hy : y.Marks stop)
    (h : start < stop) : ∃ window, Window.new x y = .ok window := by
  have hnonempty : y.le x = false := by
    rw [Bool.eq_false_iff, ne_eq, hy.le_iff hx]
    omega
  refine ⟨⟨x, y, hnonempty⟩, ?_⟩
  unfold Window.new
  split
  · rename_i hle
    simp [hnonempty] at hle
  · rfl

/-- Spans from a start on: those of `phaseSpans` have the start zero. -/
def spansFrom (start : Int) (times : List Int) (horizon slack : Int) : List (Int × Int) :=
  (start :: times.map fun time => time - 1000).zip
    ((times.map fun time => time + slack) ++ [horizon])

/-- Spans without the first one. -/
theorem spansFrom_cons (start time : Int) (times : List Int) (horizon slack : Int) :
    spansFrom start (time :: times) horizon slack =
      (start, time + slack) :: spansFrom (time - 1000) times horizon slack := rfl

theorem lt_of_mem_spansFrom {span : Int × Int} (hslack : 0 ≤ slack)
    (hincreasing : times.Pairwise (· < ·)) (hafter : ∀ time ∈ times, start < time)
    (hbefore : ∀ time ∈ times, time < horizon) (hstart : start < horizon)
    (h : span ∈ spansFrom start times horizon slack) : span.1 < span.2 := by
  induction times generalizing start with
  | nil =>
    obtain rfl := List.mem_singleton.mp h
    exact hstart
  | cons time times ih =>
    obtain ⟨hfirst, hrest⟩ := List.pairwise_cons.mp hincreasing
    obtain ⟨htime, -⟩ := List.forall_mem_cons.mp hafter
    obtain ⟨hends, hbefore⟩ := List.forall_mem_cons.mp hbefore
    rw [spansFrom_cons] at h
    rcases List.mem_cons.mp h with rfl | h
    · simp
      omega
    · refine ih hrest ?_ hbefore (by omega) h
      intro later hlater
      have hlt := hfirst later hlater
      omega

/-- Every span lasts. -/
theorem PhasePlan.span_lt (plan : PhasePlan times horizon slack) :
    ∀ span ∈ phaseSpans times horizon slack, span.1 < span.2 := by
  intro span hspan
  exact lt_of_mem_spansFrom plan.slack_nonneg plan.increasing plan.positive plan.before
    plan.horizon_pos hspan

section Windows

variable {edges : List Binary64} {x y : Binary64} {windows : List Window}

theorem hasStepBack_eq_false (hedges : List.Forall₂ Binary64.Marks edges times)
    (hincreasing : times.Pairwise (· < ·)) : hasStepBack edges = false := by
  induction hedges with
  | nil => rfl
  | cons hfirst hrest ih =>
    obtain ⟨hlt, hincreasing⟩ := List.pairwise_cons.mp hincreasing
    cases hrest with
    | nil => rfl
    | cons hsecond hrest =>
      rw [hasStepBack, Bool.or_eq_false_iff]
      refine ⟨?_, ih hincreasing⟩
      rw [Bool.eq_false_iff, ne_eq, hsecond.le_iff hfirst, Int.not_le]
      exact hlt _ List.mem_cons_self

/-- The horizon lies behind every transition. -/
theorem PhasePlan.horizon_le_eq_false (plan : PhasePlan times horizon slack)
    (hedges : List.Forall₂ Binary64.Marks edges times) (hhorizon : x.Marks horizon) :
    ∀ edge ∈ edges, x.le edge = false := by
  intro edge hmem
  obtain ⟨time, htime, hmarks⟩ := exists_mem_of_forall₂ hedges hmem
  rw [Bool.eq_false_iff, ne_eq, hhorizon.le_iff hmarks, Int.not_le]
  exact plan.before time htime

/-- **Success**: a plan has a window for each of its phases. -/
theorem PhasePlan.exists_windows (plan : PhasePlan times horizon slack)
    (hedges : List.Forall₂ Binary64.Marks edges times) (hhorizon : x.Marks horizon)
    (hslack : y.Marks slack) : ∃ windows, phaseWindows edges x y = .ok windows := by
  have hmarks := phaseEdges_marks hedges plan.bounds hhorizon hslack
    ⟨plan.slack_nonneg, plan.slack_lt⟩
  have hmade : ∀ edge ∈ phaseEdges edges x y, ∃ window, Window.new edge.1 edge.2 = .ok window := by
    intro edge hmem
    obtain ⟨span, hspan, hstart, hstop⟩ := exists_mem_of_forall₂ hmarks hmem
    exact Window.exists_new hstart hstop (plan.span_lt span hspan)
  obtain ⟨windows, hwindows⟩ := exists_mapM_eq_ok hmade
  refine ⟨windows, ?_⟩
  simp only [phaseWindows, hasStepBack_eq_false hedges plan.increasing, Bool.false_eq_true,
    if_false]
  split
  · rename_i last hlast
    rw [if_neg]
    · exact hwindows
    · simp [plan.horizon_le_eq_false hedges hhorizon last (List.mem_of_getLast? hlast)]
  · exact hwindows

theorem length_phaseSpans (times : List Int) (horizon slack : Int) :
    (phaseSpans times horizon slack).length = times.length + 1 := by
  simp [phaseSpans]

/-! ## The phases at a time -/

/-- Windows that cover spans hold a time exactly where the spans do. -/
theorem phasesAt_eq_findIdxs {spans : List (Int × Int)}
    (hcovers : List.Forall₂ (fun window span => window.Covers span.1 span.2) windows spans) :
    phasesAt windows elapsed = spans.findIdxs fun span => span.1 ≤ elapsed ∧ elapsed < span.2 := by
  unfold phasesAt
  generalize (0 : Nat) = first
  induction hcovers generalizing first with
  | nil => rfl
  | @cons window span _ _ hcover _ ih =>
    have hhead : window.contains elapsed = decide (span.1 ≤ elapsed ∧ elapsed < span.2) := by
      rw [Bool.eq_iff_iff, hcover elapsed, decide_eq_true_eq]
    simp only [List.findIdxs_cons, hhead, ih]

end Windows

/-- Before the first span starts, no span holds a time. -/
theorem findIdxs_spansFrom_of_lt (hstart : elapsed < start)
    (hafter : ∀ time ∈ times, start ≤ time - 1000) (first : Nat) :
    (spansFrom start times horizon slack).findIdxs
      (fun span => span.1 ≤ elapsed ∧ elapsed < span.2) first = [] := by
  rw [List.findIdxs_eq_nil_iff]
  rintro ⟨left, right⟩ hspan
  have hleft : start ≤ left := by
    rcases List.mem_cons.mp (List.of_mem_zip hspan).1 with rfl | hmem
    · exact Int.le_refl _
    · obtain ⟨time, htime, rfl⟩ := List.mem_map.mp hmem
      exact hafter time htime
  simp
  omega

/-- **The spans that hold a time** follow one another. The transitions whose
slack is over tell the first one, and those that are a second away at most
tell the last one. -/
theorem findIdxs_spansFrom (hslack : 0 ≤ slack) (hincreasing : times.Pairwise (· < ·))
    (hstart : start ≤ elapsed) (hhorizon : elapsed < horizon) (first : Nat) :
    (spansFrom start times horizon slack).findIdxs
      (fun span => span.1 ≤ elapsed ∧ elapsed < span.2) first =
        List.range' (first + times.countP fun time => time + slack ≤ elapsed)
          ((times.countP fun time => time - 1000 ≤ elapsed) + 1 -
            times.countP fun time => time + slack ≤ elapsed) := by
  induction times generalizing start first with
  | nil => simp [spansFrom, hstart, hhorizon]
  | cons time times ih =>
    obtain ⟨hfirst, hrest⟩ := List.pairwise_cons.mp hincreasing
    rw [spansFrom_cons, List.findIdxs_cons]
    by_cases hover : time + slack ≤ elapsed
    · -- the first span is over, and the next one has started
      have hopen : time - 1000 ≤ elapsed := by omega
      have hclosed : ¬ (start ≤ elapsed ∧ elapsed < time + slack) := by omega
      simp only [decide_eq_true_eq, if_neg hclosed, ih hrest hopen, List.countP_cons, hover, hopen,
        decide_true, if_true]
      congr 1
      · omega
      · omega
    · have hholds : start ≤ elapsed ∧ elapsed < time + slack := by omega
      have hnone : times.countP (fun time => time + slack ≤ elapsed) = 0 := by
        rw [List.countP_eq_zero]
        intro later hlater
        have hlt := hfirst later hlater
        simp
        omega
      by_cases hopen : time - 1000 ≤ elapsed
      · -- the first span lasts, and the next one has started
        simp only [decide_eq_true_eq, if_pos hholds, ih hrest hopen, List.countP_cons, hover, hopen,
          hnone, decide_true, decide_false, if_true, Bool.false_eq_true, if_false, Nat.add_zero,
          Nat.sub_zero, List.range'_succ]
      · -- the first span lasts, and no other one has started
        have hlast : times.countP (fun time => time - 1000 ≤ elapsed) = 0 := by
          rw [List.countP_eq_zero]
          intro later hlater
          have hlt := hfirst later hlater
          simp
          omega
        have hafter : ∀ later ∈ times, time - 1000 ≤ later - 1000 := by
          intro later hlater
          have hlt := hfirst later hlater
          omega
        simp only [decide_eq_true_eq, if_pos hholds, List.countP_cons, hover, hopen, hnone, hlast,
          findIdxs_spansFrom_of_lt (Int.not_le.mp hopen) hafter, decide_false, Bool.false_eq_true,
          if_false]
        rfl

/-- **The phases at a time** before the horizon, counted by transitions. -/
theorem phasesAt_eq_range' {windows : List Window} (plan : PhasePlan times horizon slack)
    (hcovers : List.Forall₂ (fun window span => window.Covers span.1 span.2) windows
      (phaseSpans times horizon slack))
    (hlow : 0 ≤ elapsed) (hhigh : elapsed < horizon) :
    phasesAt windows elapsed =
      List.range' (times.countP fun time => time + slack ≤ elapsed)
        ((times.countP fun time => time - 1000 ≤ elapsed) + 1 -
          times.countP fun time => time + slack ≤ elapsed) := by
  have hspans := findIdxs_spansFrom plan.slack_nonneg plan.increasing hlow hhigh 0
  rw [Nat.zero_add] at hspans
  rw [phasesAt_eq_findIdxs hcovers]
  exact hspans

/-- A transition whose slack is over is among those that are near. -/
theorem countP_over_le (times : List Int) (hslack : 0 ≤ slack) (elapsed : Int) :
    (times.countP fun time => time + slack ≤ elapsed) ≤
      times.countP fun time => time - 1000 ≤ elapsed := by
  apply List.countP_mono_left
  intro time _
  simp
  omega

/-- Of transitions that are far apart, only one is near while its slack is
not over. -/
theorem countP_near_le (elapsed : Int) (hslack : 0 ≤ slack)
    (hapart : times.Pairwise fun earlier later => earlier + slack + 1000 ≤ later) :
    (times.countP fun time => time - 1000 ≤ elapsed) ≤
      (times.countP fun time => time + slack ≤ elapsed) + 1 := by
  induction times with
  | nil => simp
  | cons time times ih =>
    obtain ⟨hfirst, hrest⟩ := List.pairwise_cons.mp hapart
    have ih := ih hrest
    by_cases hover : time + slack ≤ elapsed
    · have hnear : time - 1000 ≤ elapsed := by omega
      simp only [List.countP_cons, hover, hnear, decide_true, if_true]
      omega
    · have hnone : times.countP (fun time => time - 1000 ≤ elapsed) = 0 := by
        rw [List.countP_eq_zero]
        intro later hlater
        have hfar := hfirst later hlater
        simp
        omega
      rw [List.countP_cons, List.countP_cons, hnone]
      split <;> omega

/-- A phase may be observed until the slack after its end is over. -/
theorem nominalPhase_mem {lag : Int} (hslack : 0 ≤ slack) (hnonneg : 0 ≤ lag)
    (hlag : lag < slack ∨ lag = 0) :
    nominalPhase times (elapsed - lag) ∈
      List.range' (times.countP fun time => time + slack ≤ elapsed)
        ((times.countP fun time => time - 1000 ≤ elapsed) + 1 -
          times.countP fun time => time + slack ≤ elapsed) := by
  have hover : (times.countP fun time => time + slack ≤ elapsed) ≤
      nominalPhase times (elapsed - lag) := by
    apply List.countP_mono_left
    intro time _
    simp
    omega
  have hnear : nominalPhase times (elapsed - lag) ≤
      times.countP fun time => time - 1000 ≤ elapsed := by
    apply List.countP_mono_left
    intro time _
    simp
    omega
  rw [List.mem_range'_1]
  omega

/-! ## The windows of phases -/

/-- **Phases** come one after another: a plan has a window for each of its
phases, and at any time before the horizon the phases whose windows hold it
follow one another, with the nominal phase among them, also the one of a
time for which the slack is not over. When transitions are further apart
than the slack, at most two phases overlap. -/
theorem phases_consecutive {edges : List Binary64} {x y : Binary64}
    (plan : PhasePlan times horizon slack) (hedges : List.Forall₂ Binary64.Marks edges times)
    (hhorizon : x.Marks horizon) (hslack : y.Marks slack) :
    ∃ windows, phaseWindows edges x y = .ok windows ∧ windows.length = times.length + 1 ∧
      ∀ elapsed, 0 ≤ elapsed → elapsed < horizon →
        ∃ first count, phasesAt windows elapsed = List.range' first count ∧ 0 < count ∧
          (∀ lag, 0 ≤ lag → lag < slack ∨ lag = 0 →
            nominalPhase times (elapsed - lag) ∈ phasesAt windows elapsed) ∧
          ((times.IsChain fun earlier later => earlier + slack + 1000 ≤ later) → count ≤ 2) := by
  obtain ⟨windows, hwindows⟩ := plan.exists_windows hedges hhorizon hslack
  have hcovers := phaseWindows_covers hwindows hedges plan.bounds hhorizon hslack
    ⟨plan.slack_nonneg, plan.slack_lt⟩
  refine ⟨windows, hwindows, hcovers.length_eq.trans (length_phaseSpans _ _ _), ?_⟩
  intro elapsed hlow hhigh
  have hphases := phasesAt_eq_range' plan hcovers hlow hhigh
  refine ⟨_, _, hphases, ?_, ?_, ?_⟩
  · have hover := countP_over_le times plan.slack_nonneg elapsed
    omega
  · intro lag hnonneg hlag
    rw [hphases]
    exact nominalPhase_mem plan.slack_nonneg hnonneg hlag
  · intro hapart
    have hnonneg := plan.slack_nonneg
    have htrans : IsTrans Int fun earlier later => earlier + slack + 1000 ≤ later := by
      constructor
      intro _ _ _
      omega
    have hnear := countP_near_le elapsed hnonneg hapart.pairwise
    omega

/-- Transitions that are closer than the slack: four phases overlap. Those of
the plan after it are far apart. -/
theorem phases_consecutive_close :
    (∃ windows, phaseWindows [5, 6, 8] 9 4 = .ok windows ∧ windows.length = 4 ∧
      0 ∈ phasesAt windows 8500 ∧ 3 ∈ phasesAt windows 8500 ∧
      ∃ first count, phasesAt windows 8500 = List.range' first count) ∧
    ∃ windows, phaseWindows [90, 210] 330 10 = .ok windows ∧
      ∃ first count, phasesAt windows 95000 = List.range' first count ∧ 0 < count ∧ count ≤ 2 := by
  have hmarks : ∀ n : Int, (n * 1000).natAbs < 2 ^ 53 → (Binary64.ofInt n).Marks (n * 1000) :=
    fun n hn => ⟨n, Binary64.holds_ofInt (by omega), rfl, hn⟩
  constructor
  · have plan : PhasePlan [5000, 6000, 8000] 9000 4000 := by constructor <;> decide
    obtain ⟨windows, hwindows, hlength, hphases⟩ := phases_consecutive plan
      (.cons (hmarks 5 (by decide)) (.cons (hmarks 6 (by decide))
        (.cons (hmarks 8 (by decide)) .nil)))
      (hmarks 9 (by decide)) (hmarks 4 (by decide))
    obtain ⟨first, count, hrange, -, hnominal, -⟩ := hphases 8500 (by decide) (by decide)
    exact ⟨windows, hwindows, hlength, hnominal 3999 (by decide) (by decide),
      hnominal 0 (by decide) (by decide), first, count, hrange⟩
  · have plan : PhasePlan [90000, 210000] 330000 10000 := by constructor <;> decide
    obtain ⟨windows, hwindows, -, hphases⟩ := phases_consecutive plan
      (.cons (hmarks 90 (by decide)) (.cons (hmarks 210 (by decide)) .nil))
      (hmarks 330 (by decide)) (hmarks 10 (by decide))
    obtain ⟨first, count, hrange, hpos, -, hapart⟩ := hphases 95000 (by decide) (by decide)
    exact ⟨windows, hwindows, first, count, hrange, hpos, hapart (by decide)⟩

end AlertConformance
