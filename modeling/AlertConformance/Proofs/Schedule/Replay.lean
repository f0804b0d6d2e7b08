/-
AlertConformance.Proofs.Schedule.Replay — a schedule delivered without
delay.

The ideal stream of a schedule has every notification at the time when it
is due, in order of sending. A matcher for a regular schedule accepts it
to its end, and so it does with any stream that says the same: label sets
may come in another order, and where a notification was generated does not
matter.

* `Notification.Same` — two notifications say the same.
* `ScheduledNotification.conforms_of_same` — what says the same as the ideal
  notification conforms without delay.
* `deliver_eq_ok` — what `deliver` returns when every arrival is accepted.
* `Schedule.Regular.replays` — the whole stream is accepted.
-/
import AlertConformance.Proofs.Matcher.Completion
import AlertConformance.Proofs.Schedule.Built
import AlertConformance.TestCase.SelfCheck

namespace AlertConformance

/-! ## Notifications that say the same -/

/-- Two notifications say the same; the place where they were generated
does not count. -/
structure Notification.Same (a b : Notification) : Prop where
  labels : a.labels.same b.labels = true
  annotations : a.annotations.same b.annotations = true
  startsAt : a.startsAt = b.startsAt
  endsAt : a.endsAt = b.endsAt
  resolved : a.resolved = b.resolved
  receivedAt : a.receivedAt = b.receivedAt

theorem Notification.Same.refl (notification : Notification) : notification.Same notification :=
  ⟨Labels.same_refl _, Labels.same_refl _, rfl, rfl, rfl, rfl⟩

/-- What says the same as the ideal notification conforms without delay. -/
theorem ScheduledNotification.conforms_of_same {event : ScheduledNotification}
    {arrival : Notification} (htolerance : 0 ≤ event.tolerance)
    (h : event.ideal.Same arrival) : Conforms event 0 arrival := by
  have hself : ∀ time, Near event.tolerance time time := fun time => near_iff.mpr (by omega)
  have hreceived : arrival.receivedAt = event.ts := h.receivedAt.symm
  constructor
  case labels => exact Labels.same_symm h.labels
  case annotations => exact Labels.same_symm h.annotations
  case resolved => exact h.resolved.symm
  case startsAt =>
    rw [← h.startsAt]
    exact hself event.startsAt
  case receivedAt =>
    rw [hreceived, dueAfter, Int.add_zero, ite_self]
    exact hself event.ts
  case endsAt =>
    refine ⟨_, h.endsAt.symm, ?_⟩
    rw [hreceived, endAfter, Int.add_zero, ite_self]
    exact hself _

namespace TestCase

variable {matcher : Matcher} {deliveries : List (ScheduledNotification × Notification)}

/-- Delivering what is accepted to its end leads to the state after it. -/
theorem deliver_eq_ok (h : matcher.log (Matcher.observations deliveries) =
    Matcher.acceptances deliveries) :
    deliver matcher (deliveries.map Prod.snd) =
      .ok (matcher.after (Matcher.observations deliveries)) := by
  induction deliveries generalizing matcher with
  | nil => rfl
  | cons delivery rest ih =>
    simp only [Matcher.observations, Matcher.acceptances, List.map_cons, Matcher.log,
      List.cons.injEq, Prod.mk.injEq, true_and] at h
    obtain ⟨haccepted, hrest⟩ := h
    rcases matcher.call_cases (.observe delivery.2) with
      ⟨arrival, event, harrival, hok, hcall⟩ | ⟨-, hrefused⟩
    · obtain rfl := Matcher.Call.observe.inj harrival
      rw [hcall] at hrest
      simp only [deliver, Matcher.observations, List.map_cons, Matcher.after, hcall,
        List.foldlM_cons, hok]
      exact ih hrest
    · exact absurd haccepted (hrefused _)

end TestCase

namespace Schedule

variable {schedule : Schedule} {stream : List Notification}

/-- The notifications in order of sending, each with its arrival. -/
theorem Regular.delivers_ideal (h : Regular schedule)
    (hstream : List.Forall₂ Notification.Same (idealStream schedule.events) stream) :
    Matcher.Delivers schedule.events
      ((schedule.events.mergeSort sendsBefore).zip stream) := by
  have hsorted : (schedule.events.mergeSort sendsBefore).Perm schedule.events :=
    List.mergeSort_perm _ _
  have hlength : (schedule.events.mergeSort sendsBefore).length = stream.length := by
    simpa [idealStream] using hstream.length_eq
  rw [idealStream, List.forall₂_map_left_iff] at hstream
  have hfst : ((schedule.events.mergeSort sendsBefore).zip stream).map Prod.fst =
      schedule.events.mergeSort sendsBefore :=
    List.map_fst_zip (Nat.le_of_eq hlength)
  have hsame : ∀ delivery ∈ (schedule.events.mergeSort sendsBefore).zip stream,
      delivery.1 ∈ schedule.events ∧ delivery.1.ideal.Same delivery.2 := by
    intro delivery hmem
    refine ⟨hsorted.mem_iff.mp (List.of_mem_zip hmem).1, ?_⟩
    exact List.forall₂_iff_zip.mp hstream |>.2 hmem
  constructor
  case all =>
    rw [hfst]
    exact hsorted
  case ordered =>
    rw [hfst]
    exact h.chronological.pairwise_sent fun event hevent => hevent
  case conforms =>
    intro delivery hmem first hfirst _
    obtain ⟨hevent, hideal⟩ := hsame delivery hmem
    -- the first notification of the burst is on time too
    have hdelay : first.2.receivedAt - first.1.ts = 0 := by
      have hreceived : first.1.ts = first.2.receivedAt := (hsame first hfirst).2.receivedAt
      omega
    rw [hdelay]
    exact ScheduledNotification.conforms_of_same (h.tolerance _ hevent) hideal

/-- **Replay**: a matcher for a regular schedule accepts every stream that
says the same as the ideal one, to its end, and is complete after it. -/
theorem Regular.replays (h : Regular schedule)
    (hstream : List.Forall₂ Notification.Same (idealStream schedule.events) stream) :
    ∃ start last, Matcher.new schedule.events = .ok start ∧
      TestCase.deliver start stream = .ok last ∧ last.complete = true ∧ last.pending = [] ∧
      last.consumed.length = schedule.events.length := by
  obtain ⟨start, hnew⟩ := Matcher.exists_new h.numbered
  have htracks := Matcher.Tracks.new hnew
  have hd := h.delivers_ideal hstream
  have hcontinues := hd.continues
  rw [← Matcher.consumed_new hnew] at hcontinues
  obtain ⟨hlog, -, hcomplete⟩ := hcontinues.completes h.numbered h.led htracks
  have hlast := htracks.after (Matcher.observations
    ((schedule.events.mergeSort sendsBefore).zip stream))
  have hlength : stream.length ≤ (schedule.events.mergeSort sendsBefore).length := by
    simpa [idealStream] using Nat.le_of_eq hstream.length_eq.symm
  have hdeliver := TestCase.deliver_eq_ok hlog
  rw [List.map_snd_zip hlength] at hdeliver
  refine ⟨start, _, hnew, hdeliver, hcomplete, hlast.complete_iff.mp hcomplete, ?_⟩
  rw [Matcher.complete, decide_eq_true_eq] at hcomplete
  rw [hcomplete, hlast.total]

end Schedule

end AlertConformance
