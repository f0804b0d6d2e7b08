/-
AlertConformance.Proofs.Schedule.Turns — alerts that fire and resolve in
turn.

When the bursts of every alert are firing and resolved in turn, and each of
them has a notification, the notifications of one alert come in one of two
ways after each other: as a resend, one delay later, or with the other
state.

* `TakesTurns` — the condition on the bursts.
* `Succeeds` — how the next notification of an alert differs from the one
  before it.
* `TakesTurns.successive` — all notifications of an alert succeed one
  another.
-/
import AlertConformance.Proofs.Schedule.Rows
import Mathlib.Data.List.Chain

namespace AlertConformance

/-! ## Bursts -/

/-- Every burst has a notification, and those of one alert are firing and
resolved in turn. -/
structure Burst.TakesTurns (settings : Settings) (bursts : List Burst) : Prop where
  sent : ∀ burst ∈ bursts, burst.GoesOn settings burst.start
  turns : ∀ key, (bursts.filter fun burst => burst.labels.key = key).IsChain
    fun earlier later => earlier.isResolved ≠ later.isResolved

/-! ## Notifications -/

/-- The next notification of an alert is a resend, due one delay later, or
it has the other state. -/
inductive Succeeds (interval delay : Int) (earlier later : ScheduledNotification) : Prop where
  | resend (burst : later.burst = earlier.burst) (resend : later.resend = true)
    (ts : later.ts = earlier.ts + delay) (tolerance : later.tolerance = interval)
    (again : earlier.resend = true → earlier.tolerance = interval)
  | turn (resolved : later.resolved ≠ earlier.resolved)

/-- The notifications of every alert succeed one another. -/
def Successive (interval delay : Int) (expected : List ScheduledNotification) : Prop :=
  ∀ key, (expected.filter fun event => event.key = key).IsChain (Succeeds interval delay)

namespace Row

variable {row : Row} {rows : List Row} {zeroTime interval : Int} {settings : Settings}

theorem Exact.key (h : row.Exact zeroTime interval settings) :
    ∀ event ∈ row.events, event.key = row.burst.labels.key := by
  intro event hmem
  obtain ⟨k, hk⟩ := List.mem_iff_getElem?.mp hmem
  rw [ScheduledNotification.key, (h.announced k event hk).labels]

theorem Exact.resolved (h : row.Exact zeroTime interval settings) :
    ∀ event ∈ row.events, event.resolved = row.burst.isResolved := by
  intro event hmem
  obtain ⟨k, hk⟩ := List.mem_iff_getElem?.mp hmem
  exact (h.announced k event hk).resolved

/-- **One row**: each notification after the first is a resend. -/
theorem Exact.isChain (h : row.Exact zeroTime interval settings) :
    row.events.IsChain (Succeeds interval settings.resendDelay) := by
  rw [List.isChain_iff_getElem]
  intro k hk
  have earlier := h.announced k row.events[k] (List.getElem?_eq_getElem _)
  have later := h.announced (k + 1) row.events[k + 1] (List.getElem?_eq_getElem _)
  refine .resend (later.burst.trans earlier.burst.symm) (later.resend.mpr k.succ_pos) ?_ ?_ ?_
  · rw [later.ts, earlier.ts, Int.natCast_succ, Int.add_mul, Int.one_mul, ← Int.add_assoc]
  · rw [later.tolerance, if_neg fun hfirst => k.succ_ne_zero hfirst.2]
  · intro hresend
    rw [earlier.tolerance, if_neg fun hfirst => (earlier.resend.mp hresend).ne' hfirst.2]

/-- The notifications of one alert are the rows of its bursts. -/
theorem filter_events (h : ∀ row ∈ rows, row.Exact zeroTime interval settings)
    (key : LabelKey) : (rows.flatMap Row.events).filter (fun event => event.key = key) =
      ((rows.filter fun row => row.burst.labels.key = key).map Row.events).flatten := by
  induction rows with
  | nil => rfl
  | cons row rest ih =>
    obtain ⟨hrow, hrest⟩ := List.forall_mem_cons.mp h
    rw [List.flatMap_cons, List.filter_append, ih hrest]
    by_cases hkey : row.burst.labels.key = key
    · have hall : row.events.filter (fun event => event.key = key) = row.events :=
        List.filter_eq_self.mpr fun event hmem => by simp [hrow.key event hmem, hkey]
      rw [hall, List.filter_cons_of_pos (by simpa using hkey), List.map_cons, List.flatten_cons]
    · have hnone : row.events.filter (fun event => event.key = key) = [] :=
        List.filter_eq_nil_iff.mpr fun event hmem => by simp [hrow.key event hmem, hkey]
      rw [hnone, List.filter_cons_of_neg (by simpa using hkey), List.nil_append]

end Row

/-- **All rows**: of bursts that take turns, the notifications of every
alert succeed one another. -/
theorem Burst.TakesTurns.successive {rows : List Row} {zeroTime interval : Int}
    {settings : Settings} (h : TakesTurns settings (rows.map Row.burst))
    (hexact : ∀ row ∈ rows, row.Exact zeroTime interval settings) :
    Successive interval settings.resendDelay (rows.flatMap Row.events) := by
  intro key
  rw [Row.filter_events hexact]
  have hmem : ∀ row ∈ rows.filter fun row => row.burst.labels.key = key, row ∈ rows :=
    fun row => List.mem_of_mem_filter
  have hnil : [] ∉ (rows.filter fun row => row.burst.labels.key = key).map Row.events := by
    intro hmem
    obtain ⟨row, hrow, hempty⟩ := List.mem_map.mp hmem
    have hin := List.mem_of_mem_filter hrow
    obtain ⟨event, hfirst⟩ := ((hexact row hin).sent_iff 0).mpr <| by
      rw [Int.natCast_zero, Int.zero_mul, Int.add_zero]
      exact h.sent _ (List.mem_map_of_mem hin)
    simp [hempty] at hfirst
  refine (List.isChain_flatten hnil).mpr ⟨?_, ?_⟩
  · exact List.forall_mem_map.mpr fun row hrow => (hexact row (hmem row hrow)).isChain
  · -- between two rows the state changes
    have hturns := h.turns key
    rw [List.filter_map, List.isChain_map] at hturns
    rw [List.isChain_map]
    refine hturns.imp_of_mem_imp ?_
    intro earlier later hearlier hlater hturn last hlast first hfirst
    refine .turn ?_
    rw [(hexact later (hmem later hlater)).resolved first (List.mem_of_head? hfirst),
      (hexact earlier (hmem earlier hearlier)).resolved last (List.mem_of_getLast? hlast)]
    exact hturn.symm

end AlertConformance
