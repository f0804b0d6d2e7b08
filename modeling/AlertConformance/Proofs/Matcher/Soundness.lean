/-
AlertConformance.Proofs.Matcher.Soundness — what an accepted arrival tells.

When an arrival is taken for a notification, everything that had to come
before has come, the arrival announces what the notification says, and it
came in time: the first of a burst by the schedule, a resend by the time at
which the first was received. The tolerance of a resend is thus counted
from one arrival only, and the deviations within a burst do not add up.

* `Tracks.taken_of_precedes` — nothing is overtaken.
* `observe_sound` — the statement for every run.
-/
import AlertConformance.Proofs.Matcher.Completeness

namespace AlertConformance.Matcher

variable {matcher start next : Matcher} {expected : List ScheduledNotification}
  {event earlier : ScheduledNotification} {arrival : Notification}

/-- The head of another queue stands for all of its queue: if a
notification of it had to come first, so would the head. -/
theorem Tracks.taken_of_precedes (h : Tracks expected matcher) (hn : Numbered expected)
    (hc : Chronological expected)
    (hhead : (queueOf event.key matcher.queues).head? = some event)
    (hover : matcher.overtaken? event = none) (hearlier : earlier ∈ expected)
    (hprecedes : Precedes earlier event) : earlier ∈ matcher.taken := by
  obtain ⟨hid, hdue⟩ := hprecedes
  by_contra hnot
  have hmem := h.mem_queue_of_not_taken hearlier hnot
  by_cases hkey : earlier.key = event.key
  · rw [hkey] at hmem
    rcases h.head_le hn hhead hmem with rfl | hlt <;> omega
  · have hts : earlier.ts ≤ event.ts := hdue.resolve_left hkey
    obtain ⟨head, hother⟩ : ∃ head, (queueOf earlier.key matcher.queues).head? = some head :=
      Option.isSome_iff_exists.mp (List.isSome_head?.mpr (List.ne_nil_of_mem hmem))
    have hle : head.orderingId ≤ earlier.orderingId := by
      rcases h.head_le hn hother hmem with rfl | hlt <;> omega
    have hheadTs := h.head_ts_le hn hc hother hmem
    have hlate := (overtaken?_eq_none_iff h.filed).mp hover earlier.key head hkey hother (by omega)
    omega

/-- **Soundness**: after any sequence of calls, when an arrival is taken
for `event`, every notification that precedes it was returned by an earlier
call, and the arrival conforms to it; a resend does so with the delay of
the first notification of its burst, which was returned before. -/
theorem observe_sound (hnew : Matcher.new expected = .ok start) (hc : Chronological expected)
    (hl : LedByFirst expected) (calls : List Call)
    (hok : (start.after calls).observe arrival = .ok (event, next)) :
    event ∈ expected ∧
    (∀ earlier ∈ expected, Precedes earlier event →
      ∃ received, start.Took calls earlier received) ∧
    ∃ delay, Conforms event delay arrival ∧
      (event.resend = true → ∃ first received, first ∈ expected ∧ Leads first event ∧
        start.Took calls first received ∧ delay = received.receivedAt - first.ts ∧
        Near event.tolerance (arrival.receivedAt - received.receivedAt) (event.ts - first.ts)) := by
  have h := (Tracks.new hnew).after calls
  have hn := numbered_of_new hnew
  obtain ⟨hhead, hconforms, hover, -⟩ := (observe_eq_ok_iff h.filed).mp hok
  have hevent := h.mem_expected_of_queue (List.mem_of_head? hhead)
  have htook : ∀ earlier ∈ expected, Precedes earlier event →
      ∃ received, start.Took calls earlier received := by
    intro earlier hearlier hprecedes
    have htaken := h.taken_of_precedes hn hc hhead hover hearlier hprecedes
    obtain ⟨⟨_, received⟩, hmem, rfl⟩ := List.mem_map.mp htaken
    exact ⟨received, (took_iff_mem_consumed hnew).mpr hmem⟩
  refine ⟨hevent, htook, _, hconforms, fun hresend => ?_⟩
  obtain ⟨first, hfirst, hleads⟩ := hl.exists_leads hn hevent
  obtain ⟨received, hreceived⟩ := htook first hfirst (hl.precedes hfirst hevent hleads hresend)
  have hanchor := h.anchor_eq hn hl ((took_iff_mem_consumed hnew).mp hreceived) hleads
  refine ⟨first, received, hfirst, hleads, hreceived, hanchor, ?_⟩
  have hnear := near_iff.mp hconforms.receivedAt
  rw [ScheduledNotification.dueAfter, if_pos hresend, hanchor] at hnear
  exact near_iff.mpr (by omega)

/-- The resend of the sample comes seven after its time, but three after
the time that the first notification of its burst leads to expect. -/
theorem observe_sound_sample : ∃ start next, Matcher.new sampleSchedule = .ok start ∧
    (start.after (observations (sampleDelivery.take 2))).observe (sampleArrival "A" (-1) 17 60) =
      .ok (sampleEvent "A" 2 10 true, next) ∧
    ∃ first received, Leads first (sampleEvent "A" 2 10 true) ∧
      start.Took (observations (sampleDelivery.take 2)) first received ∧
      Near 5 (17 - received.receivedAt) (10 - first.ts) := by
  obtain ⟨start, hnew⟩ := exists_new numbered_sample
  have h := Tracks.new hnew
  have hl : LedByFirst sampleSchedule := by decide +kernel
  have hd : Continues sampleSchedule start.consumed
      (sampleDelivery.take 2 ++ sampleDelivery.drop 2) := by
    rw [consumed_new hnew]
    exact delivers_sample.continues
  obtain ⟨-, hconsumed, hrest⟩ := hd.accepts numbered_sample hl h rfl
  have hok := hrest.accepts_next numbered_sample hl (h.after _) hconsumed
  obtain ⟨-, -, _, -, hresend⟩ := observe_sound hnew (by decide +kernel) hl _ hok
  obtain ⟨first, received, -, hleads, htook, -, hnear⟩ := hresend rfl
  exact ⟨start, _, hnew, hok, first, received, hleads, htook, hnear⟩

end AlertConformance.Matcher
