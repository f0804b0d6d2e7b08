/-
AlertConformance.Proofs.Schedule.Built — the schedules that bursts build.

A schedule starts empty and takes one burst after another; a burst that
makes no sense is refused and adds nothing. When no burst of an alert
starts before the notifications that were generated for it, the schedule
has all that a matcher rests on.

* `Follows`, `Built` — the bursts in order, and the schedules they build.
* `Spaced` — how far a resend is from the first notification of its burst.
* `Regular` — what holds of every built schedule.
* `Regular.extend`, `Built.regular` — one more burst, and all of them.
* `Built.exists_send` — where a scheduled notification comes from.
-/
import AlertConformance.Proofs.Matcher.Order
import AlertConformance.Proofs.Schedule.Bursts

namespace AlertConformance.Schedule

open Matcher

variable {schedule : Schedule} {burst : Burst} {event first other : ScheduledNotification}

/-- A burst starts no earlier than what was sent of its alert before. -/
def Follows (schedule : Schedule) (burst : Burst) : Prop :=
  ∀ event ∈ schedule.events, event.key = burst.labels.key →
    event.ts ≤ schedule.zeroTime + burst.start

theorem follows_of_sent
    (h : ∀ event ∈ schedule.events, event.ts ≤ schedule.zeroTime + burst.start) :
    schedule.Follows burst :=
  fun event hevent _ => h event hevent

/-- A schedule built from bursts that follow each other. A burst that is
refused may start at any time. -/
inductive Built (interval : Int) (settings : Settings) : Schedule → Prop where
  | new {zeroTime : Int} {schedule : Schedule} :
    Schedule.new zeroTime interval settings = .ok schedule → Built interval settings schedule
  | step {schedule : Schedule} {burst : Burst} : Built interval settings schedule →
    (burst.fault? = none → schedule.Follows burst) →
    Built interval settings (schedule.step burst).1

/-- A resend is sent at least one delay after the first notification of
its burst and may deviate by one evaluation. The first one may deviate by
two, in a burst that the retention ends; the resend then fits in. -/
structure Spaced (interval : Int) (settings : Settings) (first event : ScheduledNotification) :
    Prop where
  apart : first.ts + settings.resendDelay ≤ event.ts
  tolerance : event.tolerance = interval
  first_tolerance : first.tolerance ≤ 2 * interval
  retained : interval < first.tolerance → settings.resendDelay < settings.resolvedRetention

/-- What holds of every built schedule. -/
structure Regular (schedule : Schedule) : Prop where
  numbered : Numbered schedule.events
  counted : ∀ event ∈ schedule.events,
    event.orderingId ≤ schedule.events.length ∧ event.burst ≤ schedule.bursts
  chronological : Chronological schedule.events
  led : LedByFirst schedule.events
  tolerance : ∀ event ∈ schedule.events, 0 ≤ event.tolerance
  spaced : ∀ first ∈ schedule.events, ∀ event ∈ schedule.events, Leads first event →
    event.resend = true → Spaced schedule.interval schedule.settings first event

/-! ## One burst -/

theorem Regular.numbered_extend (h : Regular schedule) (burst : Burst) :
    Numbered (schedule.extend burst).events := by
  refine ⟨fun event hevent => ?_, List.pairwise_append.mpr ⟨h.numbered.2, sends_numbered, ?_⟩⟩
  · rcases List.mem_append.mp hevent with hold | hsend
    · exact h.numbered.1 event hold
    · obtain ⟨k, -, rfl⟩ := mem_sends.mp hsend
      rw [send_orderingId]
      omega
  · intro old hold event hsend
    obtain ⟨k, -, rfl⟩ := mem_sends.mp hsend
    have hcount := (h.counted old hold).1
    rw [send_orderingId]
    omega

theorem Regular.counted_extend (h : Regular schedule) (burst : Burst) :
    ∀ event ∈ (schedule.extend burst).events,
      event.orderingId ≤ (schedule.extend burst).events.length ∧
        event.burst ≤ (schedule.extend burst).bursts := by
  intro event hevent
  simp only [extend, List.length_append, Int.natCast_add]
  rcases List.mem_append.mp hevent with hold | hsend
  · obtain ⟨hid, hburst⟩ := h.counted event hold
    omega
  · rw [sends_eq] at hsend ⊢
    obtain ⟨k, hk, rfl⟩ := List.mem_map.mp hsend
    have hlt := List.mem_range.mp hk
    rw [send_orderingId, send_burst, List.length_map, List.length_range]
    omega

/-- The number of a burst tells its notifications from the older ones. -/
theorem Regular.burst_ne_send (h : Regular schedule) (hold : event ∈ schedule.events) (k : Nat) :
    event.burst ≠ (schedule.send burst k).burst := by
  have hcount := (h.counted event hold).2
  rw [send_burst]
  omega

theorem Regular.chronological_extend (h : Regular schedule) (hfollows : schedule.Follows burst) :
    Chronological (schedule.extend burst).events := by
  have hpast : ∀ k : Nat, 0 ≤ k * schedule.settings.resendDelay := fun k =>
    Int.mul_nonneg (Int.natCast_nonneg k) (Int.le_of_lt schedule.resendDelay_pos)
  intro a ha b hb hkey hid
  rcases List.mem_append.mp ha with hold | hsend
  · rcases List.mem_append.mp hb with hold' | hsend'
    · exact h.chronological a hold b hold' hkey hid
    · obtain ⟨k, -, rfl⟩ := mem_sends.mp hsend'
      have hstart := hfollows a hold (by rw [hkey, send_key])
      have hk := hpast k
      rw [send_ts]
      omega
  · obtain ⟨j, -, rfl⟩ := mem_sends.mp hsend
    rcases List.mem_append.mp hb with hold' | hsend'
    · have hcount := (h.counted b hold').1
      rw [send_orderingId] at hid
      omega
    · obtain ⟨k, -, rfl⟩ := mem_sends.mp hsend'
      simp only [send_orderingId] at hid
      have hjk : (j : Int) * schedule.settings.resendDelay ≤ k * schedule.settings.resendDelay :=
        Int.mul_le_mul_of_nonneg_right (by omega) (Int.le_of_lt schedule.resendDelay_pos)
      simp only [send_ts]
      omega

theorem Regular.led_extend (h : Regular schedule) (burst : Burst) :
    LedByFirst (schedule.extend burst).events := by
  intro event hevent
  rcases List.mem_append.mp hevent with hold | hsend
  · -- the new notifications are of another burst
    rw [h.led event hold]
    refine ⟨fun hleast other hother hkey hburst => ?_, fun hleast other hother =>
      hleast other (List.mem_append_left _ hother)⟩
    rcases List.mem_append.mp hother with hold' | hsend'
    · exact hleast other hold' hkey hburst
    · obtain ⟨k, -, rfl⟩ := mem_sends.mp hsend'
      exact absurd hburst.symm (h.burst_ne_send hold k)
  · have hzero := send_zero_mem hsend
    obtain ⟨k, -, rfl⟩ := mem_sends.mp hsend
    rw [← Bool.not_eq_true, send_resend, not_ne_iff]
    constructor
    · rintro rfl other hother - hburst
      rcases List.mem_append.mp hother with hold' | hsend'
      · exact absurd hburst (h.burst_ne_send hold' 0)
      · obtain ⟨j, -, rfl⟩ := mem_sends.mp hsend'
        simp only [send_orderingId]
        omega
    · intro hleast
      have hle := hleast _ (List.mem_append_right _ hzero) (by simp) (by simp)
      simp only [send_orderingId] at hle
      omega

theorem Regular.tolerance_extend (h : Regular schedule) (burst : Burst) :
    ∀ event ∈ (schedule.extend burst).events, 0 ≤ event.tolerance := by
  intro event hevent
  rcases List.mem_append.mp hevent with hold | hsend
  · exact h.tolerance event hold
  · obtain ⟨k, -, rfl⟩ := mem_sends.mp hsend
    have hinterval := schedule.interval_pos
    rw [send_tolerance]
    split <;> omega

theorem spaced_send {k : Nat} (hk : k ≠ 0) (hmem : schedule.send burst k ∈ schedule.sends burst) :
    Spaced schedule.interval schedule.settings (schedule.send burst 0) (schedule.send burst k) := by
  have hinterval := schedule.interval_pos
  -- the first resend comes one delay after the start, the others later
  have hone : 1 * schedule.settings.resendDelay ≤ k * schedule.settings.resendDelay :=
    Int.mul_le_mul_of_nonneg_right (by omega) (Int.le_of_lt schedule.resendDelay_pos)
  refine ⟨?_, ?_, ?_, fun hwide => ?_⟩
  · simp only [send_ts]
    omega
  · simp [send_tolerance, hk]
  · rw [send_tolerance]
    split <;> omega
  · have hresolved : burst.isResolved = true := by
      by_contra hfiring
      simp [send_tolerance, hfiring] at hwide
    have hstop := Burst.stop_le hresolved schedule.settings
    obtain ⟨j, hj, heq⟩ := mem_sends.mp hmem
    have hid := congrArg ScheduledNotification.orderingId heq
    simp only [send_orderingId] at hid
    obtain rfl : j = k := by omega
    omega

theorem Regular.spaced_extend (h : Regular schedule) (burst : Burst) :
    ∀ first ∈ (schedule.extend burst).events, ∀ event ∈ (schedule.extend burst).events,
      Leads first event → event.resend = true →
        Spaced schedule.interval schedule.settings first event := by
  intro first hfirst event hevent hleads hresend
  rcases List.mem_append.mp hfirst with hold | hsend
  · rcases List.mem_append.mp hevent with hold' | hsend'
    · exact h.spaced first hold event hold' hleads hresend
    · obtain ⟨k, -, rfl⟩ := mem_sends.mp hsend'
      exact absurd hleads.2.2 (h.burst_ne_send hold k)
  · obtain ⟨j, -, rfl⟩ := mem_sends.mp hsend
    rcases List.mem_append.mp hevent with hold' | hsend'
    · exact absurd hleads.2.2.symm (h.burst_ne_send hold' j)
    · obtain ⟨k, -, rfl⟩ := mem_sends.mp hsend'
      have hfirst := hleads.1
      rw [← Bool.not_eq_true, send_resend, not_ne_iff] at hfirst
      subst hfirst
      exact spaced_send ((send_resend k).mp hresend) hsend'

/-- **One burst** keeps a schedule regular. -/
theorem Regular.extend (h : Regular schedule) (hfollows : schedule.Follows burst) :
    Regular (schedule.extend burst) where
  numbered := h.numbered_extend burst
  counted := h.counted_extend burst
  chronological := h.chronological_extend hfollows
  led := h.led_extend burst
  tolerance := h.tolerance_extend burst
  spaced := h.spaced_extend burst

/-- A refused burst uses up a number at most. -/
theorem Regular.refuse (h : Regular schedule) (burst : Burst) :
    Regular (schedule.refuse burst) := by
  cases burst with
  | firing => exact h
  | resolved =>
    refine ⟨h.numbered, fun event hevent => ?_, h.chronological, h.led, h.tolerance, h.spaced⟩
    obtain ⟨hid, hburst⟩ := h.counted event hevent
    simp only [Schedule.refuse]
    omega

theorem Regular.step (h : Regular schedule)
    (hfollows : burst.fault? = none → schedule.Follows burst) :
    Regular (schedule.step burst).1 := by
  unfold Schedule.step
  split
  · rename_i hnone
    exact h.extend (hfollows hnone)
  · exact h.refuse burst

/-! ## All bursts -/

theorem new_eq {zeroTime interval : Int} {settings : Settings}
    (h : Schedule.new zeroTime interval settings = .ok schedule) :
    schedule.events = [] ∧ schedule.interval = interval ∧ schedule.settings = settings := by
  unfold Schedule.new at h
  split at h
  · split at h
    · obtain rfl := Except.ok.inj h
      exact ⟨rfl, rfl, rfl⟩
    · simp at h
  · simp at h

theorem Regular.of_empty (h : schedule.events = []) : Regular schedule :=
  ⟨by simp [h, Numbered], by simp [h], by simp [h, Chronological], by simp [h, LedByFirst],
    by simp [h], by simp [h]⟩

/-- **All bursts**: every built schedule is regular. -/
theorem Built.regular {interval : Int} {settings : Settings}
    (h : Built interval settings schedule) : Regular schedule := by
  induction h with
  | new hnew => exact Regular.of_empty (new_eq hnew).1
  | step _ hfollows ih => exact ih.step hfollows

theorem step_eq (h : burst.fault? = none) :
    schedule.step burst = (schedule.extend burst, none) := by
  simp only [step, h]

/-- A burst that makes sense and follows the others. -/
theorem Built.extend {interval : Int} {settings : Settings} (h : Built interval settings schedule)
    (hsound : burst.fault? = none) (hfollows : schedule.Follows burst) :
    Built interval settings (schedule.extend burst) := by
  have hstep := h.step fun _ => hfollows
  rwa [step_eq hsound] at hstep

/-- A burst leaves the interval and the settings as they are. -/
theorem Built.configured {interval : Int} {settings : Settings}
    (h : Built interval settings schedule) :
    schedule.interval = interval ∧ schedule.settings = settings := by
  induction h with
  | new hnew => exact (new_eq hnew).2
  | @step schedule burst _ _ ih =>
    unfold Schedule.step
    split
    · exact ih
    · cases burst <;> exact ih

/-- What is scheduled was sent by a burst, to a schedule that was smaller
then. -/
theorem Built.exists_send {interval : Int} {settings : Settings}
    (h : Built interval settings schedule) (hevent : event ∈ schedule.events) :
    ∃ (earlier : Schedule) (burst : Burst) (k : Nat),
      Built interval settings earlier ∧ event = earlier.send burst k := by
  induction h with
  | new hnew => simp [(new_eq hnew).1] at hevent
  | @step schedule burst hbuilt _ ih =>
    unfold Schedule.step at hevent
    split at hevent
    · rcases List.mem_append.mp hevent with hold | hsend
      · exact ih hold
      · obtain ⟨k, -, rfl⟩ := mem_sends.mp hsend
        exact ⟨schedule, burst, k, hbuilt, rfl⟩
    · cases burst <;> exact ih hevent

end AlertConformance.Schedule
