/-
AlertConformance.Proofs.Series.Levels — series that keep their value for a
while.

The notation of a series is a list of runs of equal values. A query sees
the level of the run that a time falls into, and the last level for ever
after the last sample.

* `stamp`, `latestAt_stamp` — a query sees the sample whose number is the
  time in whole intervals, or the last one.
* `blocks`, `levelAt` — the values of runs and the level at a time.
* `valueAt_blocks` — a query sees the level.
* `levelAt_append`, `levelAt_eq_some_of_lt` — the level after some runs and
  during them.
-/
import AlertConformance.Proofs.Checked
import Mathlib.Algebra.GroupWithZero.Nat
import Mathlib.Data.List.Induction

namespace AlertConformance

variable {interval time : Int}

/-- Samples of some values, one every `interval`. -/
def stamp (interval : Int) (values : List Binary64) : List Sample :=
  values.mapIdx fun index value => { timestamp := index * interval, value }

theorem of_sampleSlice_eq_ok {tokens : List String} {samples : List Sample}
    (h : sampleSlice interval tokens = .ok samples) :
    ∃ values, expandValues tokens = .ok values ∧ samples = stamp interval values := by
  unfold sampleSlice at h
  split at h
  · cases h
  · obtain ⟨values, hvalues, h⟩ := bind_eq_ok_iff.mp h
    cases h
    exact ⟨values, hvalues, rfl⟩

theorem length_stamp (values : List Binary64) : (stamp interval values).length = values.length :=
  List.length_mapIdx

theorem valueText_stamp (values : List Binary64) (index : Nat) :
    valueText (stamp interval values) index = ((values[index]?).map formatValue).getD "" := by
  rw [valueText, stamp, List.getElem?_mapIdx, Option.map_map, Function.comp_def]

/-! ## The last sample -/

/-- A query sees the sample whose number is the time in whole intervals,
or the last one. -/
theorem latestAt_stamp (labels : Labels) (values : List Binary64) (hinterval : 0 < interval)
    (htime : 0 ≤ time) :
    TimeSeries.latestAt ⟨labels, stamp interval values⟩ time =
      (values[min (time / interval).toNat (values.length - 1)]?).map fun value =>
        ⟨(min (time / interval).toNat (values.length - 1) : Nat) * interval, value⟩ := by
  induction values using List.reverseRecOn with
  | nil => rfl
  | append_singleton values last ih =>
    have hstamp : stamp interval (values ++ [last]) =
        stamp interval values ++ [⟨values.length * interval, last⟩] := by
      rw [stamp, List.mapIdx_concat, stamp]
    rw [TimeSeries.latestAt] at ih ⊢
    simp only at ih
    simp only [hstamp, List.reverse_append, List.reverse_singleton, List.singleton_append,
      List.length_append, List.length_singleton, Nat.add_sub_cancel]
    by_cases hlast : values.length * interval ≤ time
    · have hindex := (Int.le_ediv_iff_mul_le hinterval).mpr hlast
      rw [List.find?_cons_of_pos (by simpa using hlast), Nat.min_eq_right (by omega),
        List.getElem?_append_right (Nat.le_refl _), Nat.sub_self]
      rfl
    · have hindex := (Int.ediv_lt_iff_lt_mul hinterval).mpr (Int.not_le.mp hlast)
      have hnonneg := Int.ediv_nonneg htime (Int.le_of_lt hinterval)
      rw [List.find?_cons_of_neg (by simpa using hlast), ih, Nat.min_eq_left (by omega),
        Nat.min_eq_left (by omega), List.getElem?_append_left (by omega)]

theorem valueAt_stamp (labels : Labels) (values : List Binary64) (hinterval : 0 < interval)
    (htime : 0 ≤ time) :
    TimeSeries.valueAt ⟨labels, stamp interval values⟩ time =
      values[min (time / interval).toNat (values.length - 1)]? := by
  rw [TimeSeries.valueAt, latestAt_stamp labels values hinterval htime, Option.map_map]
  exact Option.map_id'

/-! ## Levels -/

/-- The values of runs, each one a count and a value. -/
def blocks (runs : List (Nat × Binary64)) : List Binary64 :=
  runs.flatMap fun run => List.replicate run.1 run.2

/-- The level at a time when each run lasts as many intervals as its count
and the last one for ever. -/
def levelAt (interval : Int) : List (Nat × Binary64) → Int → Option Binary64
  | [], _ => none
  | [(_, value)], _ => some value
  | (count, value) :: next :: rest, time =>
    if time < count * interval then some value
    else levelAt interval (next :: rest) (time - count * interval)

theorem blocks_cons (run : Nat × Binary64) (rest : List (Nat × Binary64)) :
    blocks (run :: rest) = List.replicate run.1 run.2 ++ blocks rest := List.flatMap_cons

theorem blocks_length_pos {run : Nat × Binary64} (hrun : 0 < run.1)
    (rest : List (Nat × Binary64)) : 0 < (blocks (run :: rest)).length := by
  rw [blocks_cons, List.length_append, List.length_replicate]
  omega

/-- **Levels**: a query sees the level. -/
theorem valueAt_blocks (labels : Labels) {runs : List (Nat × Binary64)}
    (hruns : ∀ run ∈ runs, 0 < run.1) (hinterval : 0 < interval) (htime : 0 ≤ time) :
    TimeSeries.valueAt ⟨labels, stamp interval (blocks runs)⟩ time =
      levelAt interval runs time := by
  rw [valueAt_stamp labels _ hinterval htime]
  fun_induction levelAt interval runs time with
  | case1 => rfl
  | case2 count value time =>
    have hcount := hruns _ List.mem_cons_self
    rw [blocks_cons, blocks, List.flatMap_nil, List.append_nil, List.length_replicate,
      List.getElem?_replicate, if_pos (by omega)]
  | case3 count value next rest time hlt =>
    have hpos := blocks_length_pos (hruns next (by simp)) rest
    have hindex := (Int.ediv_lt_iff_lt_mul hinterval).mpr hlt
    have hnonneg := Int.ediv_nonneg htime (Int.le_of_lt hinterval)
    rw [blocks_cons, List.length_append, List.length_replicate, Nat.min_eq_left (by omega),
      List.getElem?_append_left (by rw [List.length_replicate]; omega), List.getElem?_replicate,
      if_pos (by omega)]
  | case4 count value next rest time hge ih =>
    have hpos := blocks_length_pos (hruns next (by simp)) rest
    have hindex := (Int.le_ediv_iff_mul_le hinterval).mpr (Int.not_lt.mp hge)
    have hrest : (time - count * interval) / interval = time / interval - count :=
      Int.sub_mul_ediv_right _ _ (Int.ne_of_gt hinterval)
    rw [← ih (fun run hrun => hruns run (List.mem_cons_of_mem _ hrun)) (by omega), blocks_cons,
      hrest, List.length_append, List.length_replicate,
      List.getElem?_append_right (by rw [List.length_replicate]; omega), List.length_replicate]
    congr 1
    omega

/-! ## Parts of the runs -/

/-- How many samples runs have. -/
def runsLength (runs : List (Nat × Binary64)) : Nat := (runs.map Prod.fst).sum

theorem runsLength_nil : runsLength [] = 0 := rfl

theorem runsLength_append (runs others : List (Nat × Binary64)) :
    runsLength (runs ++ others) = runsLength runs + runsLength others := by
  rw [runsLength, List.map_append, List.sum_append, runsLength, runsLength]

theorem levelAt_eq_some_of_mem {runs : List (Nat × Binary64)} (hne : runs ≠ []) :
    ∃ run ∈ runs, levelAt interval runs time = some run.2 := by
  fun_induction levelAt interval runs time with
  | case1 => exact absurd rfl hne
  | case2 count value time => exact ⟨_, List.mem_cons_self, rfl⟩
  | case3 count value next rest time hlt => exact ⟨_, List.mem_cons_self, rfl⟩
  | case4 count value next rest time hge ih =>
    obtain ⟨run, hmem, hlevel⟩ := ih (List.cons_ne_nil _ _)
    exact ⟨run, List.mem_cons_of_mem _ hmem, hlevel⟩

/-- Runs that are over do not matter any more. -/
theorem levelAt_append (hinterval : 0 < interval) {early runs : List (Nat × Binary64)}
    (hne : runs ≠ []) (htime : runsLength early * interval ≤ time) :
    levelAt interval (early ++ runs) time =
      levelAt interval runs (time - runsLength early * interval) := by
  induction early generalizing time with
  | nil => rw [List.nil_append, runsLength_nil, Int.natCast_zero,
      Int.zero_mul, Int.sub_zero]
  | cons run early ih =>
    have hsum : runsLength (run :: early) * interval =
        run.1 * interval + runsLength early * interval := by
      rw [runsLength, List.map_cons, List.sum_cons, Int.natCast_add, Int.add_mul, runsLength]
    have hnonneg : 0 ≤ runsLength early * interval :=
      Int.mul_nonneg (Int.natCast_nonneg _) (Int.le_of_lt hinterval)
    obtain ⟨next, rest, hcons⟩ := List.exists_cons_of_ne_nil
      (List.append_ne_nil_of_right_ne_nil early hne)
    rw [hsum] at htime ⊢
    rw [List.cons_append, hcons, levelAt, if_neg (by omega), ← hcons, ih (by omega)]
    congr 1
    omega

/-- As long as some runs last, the level is the one of one of them. -/
theorem levelAt_eq_some_of_lt {runs : List (Nat × Binary64)} (rest : List (Nat × Binary64))
    (hlow : 0 ≤ time)
    (hhigh : time < runsLength runs * interval) :
    ∃ run ∈ runs, levelAt interval (runs ++ rest) time = some run.2 := by
  induction runs generalizing time with
  | nil =>
    rw [runsLength_nil, Int.natCast_zero, Int.zero_mul] at hhigh
    omega
  | cons run runs ih =>
    have hsum : runsLength (run :: runs) * interval =
        run.1 * interval + runsLength runs * interval := by
      rw [runsLength, List.map_cons, List.sum_cons, Int.natCast_add, Int.add_mul, runsLength]
    rw [hsum] at hhigh
    cases hrest : runs ++ rest with
    | nil => exact ⟨run, List.mem_cons_self, by rw [List.cons_append, hrest, levelAt]⟩
    | cons next others =>
      rw [List.cons_append, hrest, levelAt]
      split
      · exact ⟨run, List.mem_cons_self, rfl⟩
      · obtain ⟨found, hmem, hlevel⟩ := @ih (time - run.1 * interval) (by omega) (by omega)
        exact ⟨found, List.mem_cons_of_mem _ hmem, hrest ▸ hlevel⟩

end AlertConformance
