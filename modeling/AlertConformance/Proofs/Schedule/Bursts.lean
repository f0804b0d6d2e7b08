/-
AlertConformance.Proofs.Schedule.Bursts — the notifications of one burst.

A burst adds a row of notifications to a schedule: number `k` of the row,
counted from nought, is sent `k` delays after the burst starts, for as
long as that is before the burst is over. Number nought is the only one
that is no resend.

* `lt_sendCount_iff` — how many notifications a burst has.
* `Schedule.send` — one of them, and its fields.
* `mem_sends`, `sends_numbered` — the row as a whole.
-/
import AlertConformance.Schedule

namespace AlertConformance

/-! ## Times -/

/-- How many times `start`, `start + delay`, … are below `stop`. -/
def sendCount (start stop delay : Int) : Nat := ((stop - start + delay - 1) / delay).toNat

theorem lt_sendCount_iff {start stop delay : Int} (hdelay : 0 < delay) (k : Nat) :
    k < sendCount start stop delay ↔ start + k * delay < stop := by
  have hsucc : ((k : Int) + 1) * delay = k * delay + delay := by rw [Int.add_mul, Int.one_mul]
  rw [sendCount, Int.lt_toNat, Int.lt_iff_add_one_le, Int.le_ediv_iff_mul_le hdelay, hsucc]
  omega

def Burst.labels : Burst → Labels
  | firing labels .. => labels
  | resolved labels .. => labels

def Burst.isResolved : Burst → Bool
  | firing .. => false
  | resolved .. => true

/-- A resolved burst is over when the retention is. -/
theorem Burst.stop_le {burst : Burst} (h : burst.isResolved = true) (settings : Settings) :
    burst.stop settings ≤ burst.start + settings.resolvedRetention := by
  cases burst with
  | firing => simp [Burst.isResolved] at h
  | resolved _ _ _ _ nextState =>
    cases nextState with
    | none => exact Int.le_refl _
    | some next => exact Int.min_le_left _ _

namespace Schedule

variable {schedule : Schedule} {burst : Burst} {event : ScheduledNotification}

/-! ## One notification -/

/-- Notification `k` of a burst, counted from nought. -/
def send (schedule : Schedule) (burst : Burst) (k : Nat) : ScheduledNotification :=
  schedule.event burst (schedule.events.length + 1 + k)
    (burst.start + k * schedule.settings.resendDelay)

@[simp] theorem send_key (k : Nat) : (schedule.send burst k).key = burst.labels.key := by
  cases burst <;> rfl

@[simp] theorem send_orderingId (k : Nat) :
    (schedule.send burst k).orderingId = schedule.events.length + 1 + k := by
  cases burst <;> rfl

@[simp] theorem send_ts (k : Nat) : (schedule.send burst k).ts =
    schedule.zeroTime + (burst.start + k * schedule.settings.resendDelay) := by
  cases burst <;> rfl

@[simp] theorem send_burst (k : Nat) : (schedule.send burst k).burst = schedule.bursts + 1 := by
  cases burst <;> rfl

theorem sendTime_ne_start (k : Nat) :
    burst.start + k * schedule.settings.resendDelay ≠ burst.start ↔ k ≠ 0 := by
  have hdelay := schedule.resendDelay_pos
  have hzero : (k : Int) * schedule.settings.resendDelay = 0 ↔ k = 0 := by
    rw [Int.mul_eq_zero]
    omega
  omega

/-- Only the first notification of a burst is no resend. -/
@[simp] theorem send_resend (k : Nat) : (schedule.send burst k).resend = true ↔ k ≠ 0 := by
  have hne := @sendTime_ne_start schedule burst k
  cases burst <;> simpa [send, Schedule.event, Burst.start] using hne

/-- A notification may deviate by one evaluation, but the first one by two
when the burst reports that its alert resolved. -/
theorem send_tolerance (k : Nat) : (schedule.send burst k).tolerance =
    if burst.isResolved ∧ k = 0 then 2 * schedule.interval else schedule.interval := by
  have hne := @sendTime_ne_start schedule burst k
  cases burst with
  | firing => simp [send, Schedule.event, Burst.isResolved]
  | resolved =>
    by_cases hk : k = 0
    · subst hk
      simp [send, Schedule.event, Burst.start, Burst.isResolved]
    · have htime := hne.mpr hk
      simp only [Burst.start, ne_eq] at htime
      simp [send, Schedule.event, Burst.start, hk, htime]

/-! ## The row -/

theorem sends_eq : schedule.sends burst =
    (List.range (sendCount burst.start (burst.stop schedule.settings)
      schedule.settings.resendDelay)).map (schedule.send burst) := by
  refine List.ext_getElem (by simp [sends, sendTimes, sendCount]) fun k _ _ => ?_
  simp [sends, sendTimes, send]

theorem mem_sends : event ∈ schedule.sends burst ↔
    ∃ k : Nat, burst.start + k * schedule.settings.resendDelay < burst.stop schedule.settings ∧
      event = schedule.send burst k := by
  simp only [sends_eq, List.mem_map, List.mem_range, lt_sendCount_iff schedule.resendDelay_pos,
    eq_comm]

/-- A row that has a notification has its first one. -/
theorem send_zero_mem (h : event ∈ schedule.sends burst) :
    schedule.send burst 0 ∈ schedule.sends burst := by
  obtain ⟨k, hk, -⟩ := mem_sends.mp h
  have hpast : 0 ≤ k * schedule.settings.resendDelay :=
    Int.mul_nonneg (Int.natCast_nonneg k) (Int.le_of_lt schedule.resendDelay_pos)
  exact mem_sends.mpr ⟨0, by omega, rfl⟩

theorem sends_numbered :
    (schedule.sends burst).Pairwise fun a b => a.orderingId < b.orderingId := by
  rw [sends_eq, List.pairwise_map]
  refine List.pairwise_lt_range.imp fun hlt => ?_
  simp only [send_orderingId]
  omega

end Schedule

end AlertConformance
