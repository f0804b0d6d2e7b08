/-
AlertConformance.Proofs.Matcher.Progress — when `finish` is silent the test
can still succeed.

`finish` looks at every notification that is still to come and compares
its window, as far as it is known, with the clock. When it finds none that
has closed, the rest of the schedule can still be delivered: no burst is
stuck behind another and the order between alerts blocks nothing for
good. The bursts that have started go on with the delays they have, and
the others start as soon as they may.

* `finish_eq_ok_iff` — what `finish` asks.
* `completes_of_finish` — the completion that is possible then.
-/
import AlertConformance.Proofs.Matcher.Alarm

namespace AlertConformance.Matcher

open Schedule

variable {matcher : Matcher} {schedule : Schedule} {now : Int}

/-- `finish` is silent exactly when no window has closed. -/
theorem finish_eq_ok_iff : matcher.finish now = .ok () ↔
    ∀ event ∈ matcher.pending, now ≤ matcher.due event + event.tolerance := by
  have hnil : matcher.finish now = .ok () ↔ matcher.overdue now = [] := by
    unfold finish
    cases matcher.overdue now <;> simp
  rw [hnil, overdue, List.filter_eq_nil_iff]
  simp only [decide_eq_true_eq, Int.not_lt]

/-- **Progress**: in every state that calls on a matcher for a built
schedule lead to, when `finish` is silent at some time, there are arrivals
from that time on, one for each notification still to come, which are
accepted one after another and after which the matcher is complete. -/
theorem completes_of_finish {interval : Int} {settings : Settings}
    (hbuilt : Built interval settings schedule) (hreaches : Reaches schedule.events matcher)
    (hfinish : matcher.finish now = .ok ()) :
    ∃ deliveries : List (ScheduledNotification × Notification),
      (deliveries.map Prod.fst).Perm matcher.pending ∧
      (∀ delivery ∈ deliveries, now ≤ delivery.2.receivedAt) ∧
      matcher.log (observations deliveries) = acceptances deliveries ∧
      (matcher.after (observations deliveries)).complete = true := by
  have hr := hbuilt.regular
  have hopen : ∀ event ∈ matcher.pending, ¬ matcher.Awaits event →
      now ≤ matcher.due event + event.tolerance := by
    intro event hevent _
    exact finish_eq_ok_iff.mp hfinish event hevent
  obtain ⟨hlater, hlog, hcomplete⟩ := hreaches.tracks.continuation_completes hr.numbered
    hr.chronological hr.led hr.tolerance hopen
  exact ⟨matcher.continuation now, matcher.continuation_perm now, hlater, hlog, hcomplete⟩

/-- The delivery of a resolved alert that starts fifteen seconds late. -/
def lateDelivery : List (ScheduledNotification × Notification) :=
  hastySchedule.events.map fun event =>
    (event, event.deliveredAt (15 * second) (event.ts + 15 * second))

theorem lateDelivery_events : lateDelivery.map Prod.fst = hastySchedule.events := by
  rw [lateDelivery, List.map_map]
  exact List.map_id _

theorem delivers_late : Delivers hastySchedule.events lateDelivery where
  all := List.Perm.of_eq lateDelivery_events
  ordered := by decide +kernel
  conforms := by decide +kernel

/-- By the schedule the window of the resend closed after eleven seconds.
The first notification came late, so `finish` is silent after twenty-six
seconds, and the resend can still come. -/
theorem completes_of_finish_late : ∃ matcher, Reaches hastySchedule.events matcher ∧
    matcher.consumed = lateDelivery.take 1 ∧ matcher.finish (26 * second) = .ok () ∧
    ∃ deliveries, (deliveries.map Prod.fst).Perm (hastySchedule.events.drop 1) ∧
      (∀ delivery ∈ deliveries, 26 * second ≤ delivery.2.receivedAt) ∧
      matcher.log (observations deliveries) = acceptances deliveries ∧
      (matcher.after (observations deliveries)).complete = true := by
  have hbuilt : Built (10 * second) hasty hastySchedule :=
    built_resolutionOnly (by decide) (by decide)
  obtain ⟨start, hnew⟩ := exists_new hbuilt.regular.numbered
  have hd : Continues hastySchedule.events start.consumed
      (lateDelivery.take 1 ++ lateDelivery.drop 1) := by
    rw [consumed_new hnew, List.take_append_drop]
    exact delivers_late.continues
  obtain ⟨-, hconsumed, -⟩ :=
    hd.accepts hbuilt.regular.numbered hbuilt.regular.led (Tracks.new hnew) rfl
  rw [consumed_new hnew, List.nil_append] at hconsumed
  have hreaches : Reaches hastySchedule.events
      (start.after (observations (lateDelivery.take 1))) := ⟨start, _, hnew, rfl⟩
  have h := hreaches.tracks
  have hpending : (start.after (observations (lateDelivery.take 1))).pending.Perm
      (hastySchedule.events.drop 1) := by
    have hperm := h.perm
    rw [taken, hconsumed, List.map_take, lateDelivery_events] at hperm
    exact (List.perm_append_left_iff _).mp
      (hperm.trans (List.Perm.of_eq (List.take_append_drop 1 _).symm))
  have hfinish : (start.after (observations (lateDelivery.take 1))).finish (26 * second) =
      .ok () := by
    refine finish_eq_ok_iff.mpr fun event hevent => ?_
    rw [due, anchor, h.anchors, hconsumed]
    have hopen : ∀ event ∈ hastySchedule.events.drop 1, 26 * second ≤
        (if event.resend then event.ts + ((startDelays (lateDelivery.take 1)).lookup
          (event.key, event.burst)).getD 0 else event.ts) + event.tolerance := by
      decide +kernel
    exact hopen event (hpending.mem_iff.mp hevent)
  obtain ⟨deliveries, hperm, hlater, hlog, hcomplete⟩ :=
    completes_of_finish hbuilt hreaches hfinish
  exact ⟨_, hreaches, hconsumed, hfinish, deliveries, hperm.trans hpending, hlater, hlog, hcomplete⟩

end AlertConformance.Matcher
