/-
AlertConformance.Proofs.Evaluation.Cadence — when a rule group is
evaluated.

An engine evaluates a group once in every interval, and nobody knows at
which offset. What happens at some time is seen by the first evaluation
that is not before it, less than an interval later.

* `Cadence` — the instants of the evaluations.
* `last?`, `first` — the last evaluation up to a time and the first one
  from a time on.
* `runStart?` — since when something has held without a break.
* `held_cases` — a hold is over when it is covered in whole intervals.
-/
import AlertConformance.TestCase.Basic

namespace AlertConformance

/-- The evaluations of a group, one every `interval` from an offset on. -/
structure Cadence (interval : Int) where
  offset : Int
  offset_nonneg : 0 ≤ offset
  offset_lt : offset < interval

namespace Cadence

variable {interval : Int} {time hold : Int} {j k : Nat}

theorem interval_pos (cadence : Cadence interval) : 0 < interval :=
  Int.lt_of_le_of_lt cadence.offset_nonneg cadence.offset_lt

/-- The elapsed time of an evaluation. -/
def instant (cadence : Cadence interval) (k : Nat) : Int := cadence.offset + k * interval

/-- The last evaluation that is not after a time. -/
def last? (cadence : Cadence interval) (time : Int) : Option Nat :=
  if time < cadence.offset then none else some ((time - cadence.offset) / interval).toNat

/-- The first evaluation that is not before a time. -/
def first (cadence : Cadence interval) (time : Int) : Nat :=
  (-((cadence.offset - time) / interval)).toNat

variable (cadence : Cadence interval)

/-! ## Instants -/

theorem instant_nonneg (k : Nat) : 0 ≤ cadence.instant k :=
  Int.add_nonneg cadence.offset_nonneg
    (Int.mul_nonneg (Int.natCast_nonneg k) (Int.le_of_lt cadence.interval_pos))

theorem instant_succ (k : Nat) : cadence.instant (k + 1) = cadence.instant k + interval := by
  rw [instant, instant, Int.natCast_succ, Int.add_mul, Int.one_mul, Int.add_assoc]

theorem instant_add (k steps : Nat) :
    cadence.instant (k + steps) = cadence.instant k + steps * interval := by
  rw [instant, instant, Int.natCast_add, Int.add_mul, Int.add_assoc]

theorem instant_mono (h : j ≤ k) : cadence.instant j ≤ cadence.instant k := by
  have hmul := Int.mul_le_mul_of_nonneg_right (Int.ofNat_le.mpr h)
    (Int.le_of_lt cadence.interval_pos)
  unfold instant
  omega

/-- At a time, the last evaluation is less than an interval ago. -/
theorem last?_eq_some (h : cadence.last? time = some k) :
    cadence.instant k ≤ time ∧ time < cadence.instant k + interval := by
  have hpos := cadence.interval_pos
  unfold last? at h
  split at h
  · cases h
  · cases h
    have hnonneg := Int.ediv_nonneg (a := time - cadence.offset) (by omega) (Int.le_of_lt hpos)
    have hlow := Int.ediv_mul_le (time - cadence.offset) (Int.ne_of_gt hpos)
    have hhigh := Int.lt_ediv_add_one_mul_self (time - cadence.offset) hpos
    rw [Int.add_mul, Int.one_mul] at hhigh
    rw [instant, Int.toNat_of_nonneg hnonneg]
    omega

/-- Without any evaluation yet, not even an interval has passed. -/
theorem last?_eq_none (h : cadence.last? time = none) : time < interval := by
  have hlt := cadence.offset_lt
  unfold last? at h
  split at h
  · omega
  · cases h

theorem first_le_iff : cadence.first time ≤ k ↔ time ≤ cadence.instant k := by
  have hdiv : -(k : Int) ≤ (cadence.offset - time) / interval ↔
      -(k : Int) * interval ≤ cadence.offset - time :=
    Int.le_ediv_iff_mul_le cadence.interval_pos
  rw [Int.neg_mul] at hdiv
  unfold first instant
  omega

theorem le_instant_first (time : Int) : time ≤ cadence.instant (cadence.first time) :=
  cadence.first_le_iff.mp (Nat.le_refl _)

/-- What happens at a time is seen less than an interval later. -/
theorem instant_first_lt (htime : 0 ≤ time) :
    cadence.instant (cadence.first time) < time + interval := by
  cases hfirst : cadence.first time with
  | zero =>
    have hlt := cadence.offset_lt
    simp only [instant, Int.natCast_zero, Int.zero_mul]
    omega
  | succ k =>
    have hnot : ¬ cadence.first time ≤ k := by omega
    rw [first_le_iff] at hnot
    rw [instant_succ]
    omega

/-- An evaluation is the first one that is not before itself. -/
theorem instant_first_instant (k : Nat) :
    cadence.instant (cadence.first (cadence.instant k)) = cadence.instant k :=
  Int.le_antisymm (cadence.instant_mono (cadence.first_le_iff.mpr (Int.le_refl _)))
    (cadence.le_instant_first _)

/-! ## Unbroken runs -/

/-- The first evaluation of the unbroken run of active ones that ends with
an evaluation. -/
def runStart? (active : Nat → Bool) : Nat → Option Nat
  | 0 => if active 0 then some 0 else none
  | k + 1 => if active (k + 1) then some ((runStart? active k).getD (k + 1)) else none

/-- All evaluations from `start` to `k` are active, and the one before
them, if there is one, is not. -/
structure Unbroken (active : Nat → Bool) (start k : Nat) : Prop where
  le : start ≤ k
  all : ∀ j, start ≤ j → j ≤ k → active j = true
  fresh : ∀ j, j + 1 = start → active j = false

section Runs

variable {active : Nat → Bool} {start start' : Nat}

theorem Unbroken.start_le (h : Unbroken active start k) (h' : Unbroken active start' k) :
    start ≤ start' := by
  refine Nat.not_lt.mp fun hlt => ?_
  have hactive := h'.all (start - 1) (by omega) (by have hle := h.le; omega)
  rw [h.fresh (start - 1) (by omega)] at hactive
  cases hactive

theorem runStart?_eq_none (h : active k = false) : runStart? active k = none := by
  cases k with
  | zero => rw [runStart?, h, if_neg Bool.false_ne_true]
  | succ k => rw [runStart?, h, if_neg Bool.false_ne_true]

/-- An active evaluation belongs to an unbroken run, whose first
evaluation is found. -/
theorem exists_runStart? (h : active k = true) :
    ∃ start, runStart? active k = some start ∧ Unbroken active start k := by
  induction k with
  | zero =>
    refine ⟨0, by rw [runStart?, if_pos h], Nat.le_refl 0, fun j _ hj => ?_, fun j hj => ?_⟩
    · rwa [Nat.le_zero.mp hj]
    · exact absurd hj (Nat.succ_ne_zero j)
  | succ k ih =>
    rw [runStart?, if_pos h]
    cases hk : active k with
    | true =>
      obtain ⟨start, hstart, hrun⟩ := ih hk
      refine ⟨start, by rw [hstart, Option.getD_some], Nat.le_succ_of_le hrun.le,
        fun j hj hjk => ?_, hrun.fresh⟩
      rcases Nat.lt_or_ge k j with hgt | hge
      · rwa [show j = k + 1 by omega]
      · exact hrun.all j hj hge
    | false =>
      refine ⟨k + 1, by rw [runStart?_eq_none hk, Option.getD_none], Nat.le_refl _,
        fun j hj hjk => ?_, fun j hj => ?_⟩
      · rwa [Nat.le_antisymm hjk hj]
      · rwa [Nat.succ.inj hj]

/-- **Runs**: the first evaluation of the unbroken run that ends with an
evaluation is the one that is found. -/
theorem runStart?_eq_some_iff : runStart? active k = some start ↔ Unbroken active start k := by
  constructor
  · intro h
    cases hk : active k with
    | false =>
      rw [runStart?_eq_none hk] at h
      cases h
    | true =>
      obtain ⟨start', hstart', hrun⟩ := exists_runStart? hk
      rw [hstart'] at h
      cases h
      exact hrun
  · intro hrun
    obtain ⟨start', hstart', hrun'⟩ := exists_runStart? (hrun.all k hrun.le (Nat.le_refl k))
    rw [hstart', Nat.le_antisymm (hrun'.start_le hrun) (hrun.start_le hrun')]

/-- What is active from a time on, and not at the evaluation before it,
has been so since the first evaluation from that time on. -/
theorem runStart?_eq_first (hk : time ≤ cadence.instant k)
    (hall : ∀ j ≤ k, time ≤ cadence.instant j → active j = true)
    (hfresh : ∀ j, cadence.instant j < time → time ≤ cadence.instant j + interval →
      active j = false) :
    runStart? active k = some (cadence.first time) := by
  refine runStart?_eq_some_iff.mpr ⟨cadence.first_le_iff.mpr hk, fun j hj hjk => ?_, fun j hj => ?_⟩
  · exact hall j hjk (cadence.first_le_iff.mp hj)
  · have hnot : ¬ cadence.first time ≤ j := by omega
    have hnext := cadence.le_instant_first time
    rw [first_le_iff] at hnot
    rw [← hj, instant_succ] at hnext
    exact hfresh j (Int.not_le.mp hnot) hnext

end Runs

/-! ## Holds -/

/-- A hold that began with an evaluation is over when an evaluation is at
least the hold, in whole intervals, away. -/
theorem held_cases (hold : Int) (h : j ≤ k) :
    (cadence.instant k - cadence.instant j < hold ∧
      cadence.instant k + interval ≤ cadence.instant j + holdInIntervals hold interval) ∨
    (hold ≤ cadence.instant k - cadence.instant j ∧
      cadence.instant j + holdInIntervals hold interval ≤ cadence.instant k) := by
  have hpos := cadence.interval_pos
  obtain ⟨steps, rfl⟩ := Nat.exists_eq_add_of_le h
  have hover : -(steps : Int) ≤ -hold / interval ↔ -(steps : Int) * interval ≤ -hold :=
    Int.le_ediv_iff_mul_le hpos
  rw [Int.neg_mul] at hover
  rw [instant_add, holdInIntervals]
  rcases Int.lt_or_le (-hold / interval) (-steps) with hlt | hle
  · have hmul := Int.mul_le_mul_of_nonneg_right
      (show (steps : Int) + 1 ≤ -(-hold / interval) by omega) (Int.le_of_lt hpos)
    rw [Int.add_mul, Int.one_mul] at hmul
    omega
  · have hmul := Int.mul_le_mul_of_nonneg_right
      (show -(-hold / interval) ≤ (steps : Int) by omega) (Int.le_of_lt hpos)
    omega

/-- There is an evaluation at the end of a hold. -/
theorem exists_instant_hold (hhold : 0 ≤ hold) (j : Nat) :
    ∃ k, cadence.instant k = cadence.instant j + holdInIntervals hold interval := by
  have hdiv : -hold / interval ≤ 0 := by
    have hlow := Int.ediv_mul_le (-hold) (Int.ne_of_gt cadence.interval_pos)
    rcases Int.lt_or_le 0 (-hold / interval) with hpos | hle
    · have hmul := Int.mul_pos hpos cadence.interval_pos
      omega
    · exact hle
  obtain ⟨steps, hsteps⟩ := Int.eq_ofNat_of_zero_le (show 0 ≤ -(-hold / interval) by omega)
  exact ⟨j + steps, by rw [instant_add, holdInIntervals, hsteps]⟩

end Cadence

end AlertConformance
