/-
AlertConformance.Proofs.Matcher.Completion — when a matcher can still be
completed.

From some time on, let each notification that is still to come be
delivered as soon as it is due, and at once when that time has passed. The
delivery is accepted to its end unless the window of some notification has
closed. A resend whose burst has not started has no window yet: it will be
due by the arrival of the first notification of its burst.

* `Awaits`, `Completable` — the resends without a window, and the matchers
  that some further arrivals complete.
* `continuation` — the delivery as soon as possible.
* `continuation_completes` — it is accepted to its end.
* `in_time_of_taken` — what is accepted later was not overdue before.
* `completable_iff` — no open window has closed.
-/
import AlertConformance.Proofs.Matcher.Completeness
import AlertConformance.Schedule

namespace AlertConformance

/-! ## Sending -/

theorem sendsBefore_iff {a b : ScheduledNotification} :
    sendsBefore a b = true ↔ a.ts < b.ts ∨ a.ts = b.ts ∧ a.orderingId ≤ b.orderingId := by
  simp only [sendsBefore, compareLex, compareOn, Ordering.isLE_then_iff_and, Int.isLE_compare,
    Int.compare_eq_lt]
  omega

/-- The notification of an engine that delivers `event` at some time, when
its burst started late by `delay`. -/
def ScheduledNotification.deliveredAt (event : ScheduledNotification) (delay receivedAt : Int) :
    Notification where
  labels := event.labels
  annotations := event.annotations
  startsAt := event.startsAt
  endsAt := some (event.endAfter delay receivedAt)
  resolved := event.resolved
  receivedAt := receivedAt

theorem ScheduledNotification.conforms_deliveredAt {event : ScheduledNotification}
    {delay receivedAt : Int} (h : Near event.tolerance receivedAt (event.dueAfter delay)) :
    Conforms event delay (event.deliveredAt delay receivedAt) := by
  have hnear := near_iff.mp h
  have hself : ∀ time, Near event.tolerance time time := fun time => near_iff.mpr (by omega)
  exact ⟨Labels.same_refl _, Labels.same_refl _, rfl, hself _, h, _, rfl, hself _⟩

namespace Matcher

variable {matcher : Matcher} {expected : List ScheduledNotification}
  {event first other : ScheduledNotification} {arrival : Notification}
  {arrivals : List Notification} {calls : List Call} {now : Int}

/-- A resend whose burst has not started: the first notification of the
burst is still to come. -/
def Awaits (matcher : Matcher) (event : ScheduledNotification) : Prop :=
  event.resend = true ∧ ∃ first ∈ matcher.pending, Leads first event

/-- Some further arrivals, none received before `now`, complete the
matcher. -/
def Completable (matcher : Matcher) (now : Int) : Prop :=
  ∃ arrivals : List Notification, (∀ arrival ∈ arrivals, now ≤ arrival.receivedAt) ∧
    (matcher.after (arrivals.map .observe)).complete = true

/-! ## Delivery as soon as possible -/

/-- How late the burst of a notification starts, or started, when nothing
arrives before `now` and the rest as soon as possible. -/
def lateness (matcher : Matcher) (now : Int) (event : ScheduledNotification) : Int :=
  match matcher.pending.find? fun first => Leads first event with
  | some first => max now first.ts - first.ts
  | none => matcher.anchor event

/-- When a notification is delivered then. -/
def soonest (matcher : Matcher) (now : Int) (event : ScheduledNotification) : Int :=
  max now (event.dueAfter (matcher.lateness now event))

/-- What is still to come, in order of sending, each as soon as it is due
but not before `now`. -/
def continuation (matcher : Matcher) (now : Int) : List (ScheduledNotification × Notification) :=
  (matcher.pending.mergeSort sendsBefore).map fun event =>
    (event, event.deliveredAt (matcher.lateness now event) (matcher.soonest now event))

theorem mem_continuation :
    (event, arrival) ∈ matcher.continuation now ↔ event ∈ matcher.pending ∧
      arrival = event.deliveredAt (matcher.lateness now event) (matcher.soonest now event) := by
  simp only [continuation, List.mem_map, List.mem_mergeSort, Prod.mk.injEq]
  constructor
  · rintro ⟨event, hmem, rfl, rfl⟩
    exact ⟨hmem, rfl⟩
  · rintro ⟨hmem, rfl⟩
    exact ⟨event, hmem, rfl, rfl⟩

theorem continuation_perm (matcher : Matcher) (now : Int) :
    ((matcher.continuation now).map Prod.fst).Perm matcher.pending := by
  have hfst : (matcher.continuation now).map Prod.fst = matcher.pending.mergeSort sendsBefore := by
    simp [continuation, Function.comp_def]
  rw [hfst]
  exact List.mergeSort_perm _ _

/-- When the burst starts later, its delay is the time until its first
notification can be delivered. -/
theorem Tracks.lateness_of_pending (h : Tracks expected matcher) (hn : Numbered expected)
    (hl : LedByFirst expected) (hfirst : first ∈ matcher.pending) (hleads : Leads first event) :
    matcher.lateness now event = max now first.ts - first.ts := by
  unfold lateness
  cases hfind : matcher.pending.find? fun first => Leads first event with
  | none => exact absurd hleads (by simpa using List.find?_eq_none.mp hfind first hfirst)
  | some other =>
    have hother : Leads other event := by simpa using List.find?_some hfind
    rw [hl.eq_of_leads hn ((h.mem_pending hn).mp hfirst).1
      ((h.mem_pending hn).mp (List.mem_of_find?_eq_some hfind)).1 hleads hother]

/-- When the burst has started, its delay is the anchor. -/
theorem Tracks.lateness_of_consumed (h : Tracks expected matcher) (hn : Numbered expected)
    (hl : LedByFirst expected) (hfirst : (first, arrival) ∈ matcher.consumed)
    (hleads : Leads first event) : matcher.lateness now event = matcher.anchor event := by
  have hnone : matcher.pending.find? (fun first => Leads first event) = none :=
    List.find?_eq_none.mpr fun other hother => by
      simpa using h.not_leads_of_pending hn hl hfirst hleads other hother
  rw [lateness, hnone]

/-- The order of sending respects what precedes what. -/
theorem not_precedes_of_sendsBefore (hc : Chronological expected) {a b : ScheduledNotification}
    (ha : a ∈ expected) (hb : b ∈ expected) (h : sendsBefore a b = true) : ¬ Precedes b a := by
  rintro ⟨hid, hdue⟩
  have hts := sendsBefore_iff.mp h
  have hle : b.ts ≤ a.ts := hdue.elim (fun hkey => hc b hb a ha hkey hid) id
  omega

/-- Some notifications of a schedule, in order of sending: none of them has
to arrive before one that is sent earlier. -/
theorem Chronological.pairwise_sent (hc : Chronological expected)
    {events : List ScheduledNotification} (hmem : ∀ event ∈ events, event ∈ expected) :
    (events.mergeSort sendsBefore).Pairwise fun a b => ¬ Precedes b a := by
  have hsorted : (events.mergeSort sendsBefore).Pairwise fun a b => sendsBefore a b = true := by
    refine List.pairwise_mergeSort (fun a b c => ?_) (fun a b => ?_) _
    · simp only [sendsBefore_iff]
      omega
    · simp only [Bool.or_eq_true, sendsBefore_iff]
      omega
  exact hsorted.imp_of_mem fun ha hb hbefore =>
    not_precedes_of_sendsBefore hc (hmem _ (List.mem_mergeSort.mp ha))
      (hmem _ (List.mem_mergeSort.mp hb)) hbefore

/-- The delivery as soon as possible comes in time when no open window has
closed. -/
theorem Tracks.soonest_near (h : Tracks expected matcher) (hn : Numbered expected)
    (hc : Chronological expected) (hl : LedByFirst expected) (hevent : event ∈ matcher.pending)
    (htolerance : 0 ≤ event.tolerance)
    (hopen : ¬ matcher.Awaits event → now ≤ matcher.due event + event.tolerance) :
    Near event.tolerance (matcher.soonest now event)
      (event.dueAfter (matcher.lateness now event)) := by
  rw [near_iff, soonest]
  suffices now ≤ event.dueAfter (matcher.lateness now event) + event.tolerance by omega
  have hin := ((h.mem_pending hn).mp hevent).1
  by_cases hawaits : matcher.Awaits event
  · -- the resend is sent after the first of its burst, which does not come before `now`
    obtain ⟨hresend, first, hfirst, hleads⟩ := hawaits
    have hmem := ((h.mem_pending hn).mp hfirst).1
    have hprecedes := hl.precedes hmem hin hleads hresend
    have hts := hc first hmem event hin hleads.2.1 hprecedes.1
    rw [h.lateness_of_pending hn hl hfirst hleads, ScheduledNotification.dueAfter, if_pos hresend]
    omega
  · have hwindow := hopen hawaits
    cases hresend : event.resend with
    | false =>
      simp only [due_eq, ScheduledNotification.dueAfter, hresend] at hwindow ⊢
      exact hwindow
    | true =>
      obtain ⟨first, hmem, hleads⟩ := hl.exists_leads hn hin
      have htaken : first ∈ matcher.taken := by
        by_contra hnot
        exact hawaits ⟨hresend, first, (h.mem_pending hn).mpr ⟨hmem, hnot⟩, hleads⟩
      obtain ⟨⟨_, received⟩, hconsumed, rfl⟩ := List.mem_map.mp htaken
      rw [h.lateness_of_consumed hn hl hconsumed hleads]
      exact hwindow

/-- **The continuation**: when no open window has closed, the delivery as
soon as possible continues what was accepted. -/
theorem Tracks.continues (h : Tracks expected matcher) (hn : Numbered expected)
    (hc : Chronological expected) (hl : LedByFirst expected)
    (htolerance : ∀ event ∈ expected, 0 ≤ event.tolerance)
    (hopen : ∀ event ∈ matcher.pending, ¬ matcher.Awaits event →
      now ≤ matcher.due event + event.tolerance) :
    Continues expected matcher.consumed (matcher.continuation now) where
  all := by
    rw [List.map_append]
    exact ((matcher.continuation_perm now).append_left _).trans h.perm
  ordered := by
    rw [continuation, List.map_map, List.pairwise_map]
    exact hc.pairwise_sent fun event hevent => ((h.mem_pending hn).mp hevent).1
  conforms := by
    rintro ⟨event, arrival⟩ hdelivery ⟨first, received⟩ hfirst (hleads : Leads first event)
    obtain ⟨hevent, rfl⟩ := mem_continuation.mp hdelivery
    have hin := ((h.mem_pending hn).mp hevent).1
    have hnear : Near event.tolerance (matcher.soonest now event)
        (event.dueAfter (matcher.lateness now event)) :=
      h.soonest_near hn hc hl hevent (htolerance event hin) (hopen event hevent)
    have hdelay : received.receivedAt - first.ts = matcher.lateness now event := by
      rcases List.mem_append.mp hfirst with hconsumed | hlater
      · rw [h.lateness_of_consumed hn hl hconsumed hleads, h.anchor_eq hn hl hconsumed hleads]
      · obtain ⟨hpending, rfl⟩ := mem_continuation.mp hlater
        rw [h.lateness_of_pending hn hl hpending hleads]
        simp [ScheduledNotification.deliveredAt, soonest, ScheduledNotification.dueAfter, hleads.1]
    rw [hdelay]
    exact ScheduledNotification.conforms_deliveredAt hnear

/-! ## Windows that have closed -/

/-- A notification that no arrival received from `now` on is taken for. -/
def Lost (matcher : Matcher) (now : Int) (event : ScheduledNotification) : Prop :=
  ∀ arrivals : List Notification, (∀ arrival ∈ arrivals, now ≤ arrival.receivedAt) →
    ∀ arrival, ¬ matcher.Took (arrivals.map .observe) event arrival

theorem Tracks.mem_pending_consume (h : Tracks expected matcher) (hn : Numbered expected)
    (hhead : (queueOf event.key matcher.queues).head? = some event) :
    other ∈ (matcher.consume event arrival).pending ↔ other ∈ matcher.pending ∧ other ≠ event := by
  rw [(h.consume hhead).mem_pending hn, h.mem_pending hn, consume_taken]
  simp [and_assoc]

/-- Only the first notification of a burst moves the anchor of the burst. -/
theorem anchor_consume (hleads : ¬ Leads event other) :
    (matcher.consume event arrival).anchor other = matcher.anchor other := by
  unfold anchor
  cases hresend : event.resend with
  | true => simp [consume, hresend]
  | false =>
    have hne : ¬ (other.key = event.key ∧ other.burst = event.burst) :=
      fun hsame => hleads ⟨hresend, hsame.1.symm, hsame.2.symm⟩
    have hbeq : ((other.key, other.burst) == (event.key, event.burst)) = false := by
      simpa [beq_eq_false_iff_ne] using hne
    simp [consume, hresend, List.lookup_cons, hbeq]

/-- The due time of a notification that awaits nothing stays. -/
theorem due_consume (hevent : event ∈ matcher.pending) (hawaits : ¬ matcher.Awaits other) :
    (matcher.consume event arrival).due other = matcher.due other := by
  unfold due
  split
  · rename_i hresend
    rw [anchor_consume fun hleads => hawaits ⟨hresend, event, hevent, hleads⟩]
  · rfl

/-- **In time**: a notification that awaits nothing, and that is accepted
for an arrival from `now` on, was not overdue. -/
theorem Tracks.in_time_of_taken (h : Tracks expected matcher) (hn : Numbered expected)
    (hother : other ∈ matcher.pending) (hawaits : ¬ matcher.Awaits other)
    (harrivals : ∀ arrival ∈ arrivals, now ≤ arrival.receivedAt)
    (htaken : other ∈ (matcher.after (arrivals.map .observe)).taken) :
    now ≤ matcher.due other + other.tolerance := by
  induction arrivals generalizing matcher with
  | nil => exact absurd htaken ((h.mem_pending hn).mp hother).2
  | cons arrival rest ih =>
    obtain ⟨harrival, hrest⟩ := List.forall_mem_cons.mp harrivals
    rw [List.map_cons, Matcher.after] at htaken
    rcases call_cases matcher (.observe arrival) with
      ⟨received, event, heq, hok, hcall⟩ | ⟨hsame, -⟩
    · obtain rfl : arrival = received := by simpa using heq
      obtain ⟨hhead, hconforms, -, -⟩ := (observe_eq_ok_iff h.filed).mp hok
      have hevent : event ∈ matcher.pending :=
        (mem_pending_iff h.filed).mpr (List.mem_of_head? hhead)
      rw [hcall] at htaken
      by_cases hne : other = event
      · subst hne
        have hnear := near_iff.mp hconforms.receivedAt
        rw [← due_eq] at hnear
        omega
      · have hlater : other ∈ (matcher.consume event arrival).pending :=
          (h.mem_pending_consume hn hhead).mpr ⟨hother, hne⟩
        have hstill : ¬ (matcher.consume event arrival).Awaits other := by
          rintro ⟨hresend, first, hfirst, hleads⟩
          exact hawaits ⟨hresend, first, ((h.mem_pending_consume hn hhead).mp hfirst).1, hleads⟩
        have hdue : (matcher.consume event arrival).due other = matcher.due other :=
          due_consume hevent hawaits
        rw [← hdue]
        exact ih (h.consume hhead) hlater hstill hrest htaken
    · rw [hsame] at htaken
      exact ih h hother hawaits hrest htaken

/-- What is still to come and is accepted later was returned by a call. -/
theorem Tracks.exists_took (h : Tracks expected matcher) (hn : Numbered expected)
    (hevent : event ∈ matcher.pending) (htaken : event ∈ (matcher.after calls).taken) :
    ∃ arrival, matcher.Took calls event arrival := by
  obtain ⟨⟨_, arrival⟩, hconsumed, rfl⟩ := List.mem_map.mp htaken
  refine ⟨arrival, (mem_consumed_after.mp hconsumed).resolve_left fun hearlier => ?_⟩
  exact ((h.mem_pending hn).mp hevent).2 (List.mem_map_of_mem hearlier)

/-- An open window that has closed loses its notification. -/
theorem Tracks.lost_of_closed (h : Tracks expected matcher) (hn : Numbered expected)
    (hevent : event ∈ matcher.pending) (hawaits : ¬ matcher.Awaits event)
    (hclosed : matcher.due event + event.tolerance < now) : matcher.Lost now event := by
  intro arrivals harrivals arrival htook
  have htaken : event ∈ (matcher.after (arrivals.map .observe)).taken :=
    List.mem_map_of_mem (mem_consumed_after.mpr (.inr htook))
  have hintime := h.in_time_of_taken hn hevent hawaits harrivals htaken
  omega

/-- A resend is lost with the first notification of its burst. -/
theorem Tracks.lost_of_leads (h : Tracks expected matcher) (hn : Numbered expected)
    (hl : LedByFirst expected) (hfirst : first ∈ matcher.pending) (hevent : event ∈ matcher.pending)
    (hleads : Leads first event) (hresend : event.resend = true) (hlost : matcher.Lost now first) :
    matcher.Lost now event := by
  intro arrivals harrivals arrival htook
  have hmem := ((h.mem_pending hn).mp hfirst).1
  have htaken : event ∈ (matcher.after (arrivals.map .observe)).taken :=
    List.mem_map_of_mem (mem_consumed_after.mpr (.inr htook))
  have hbefore := hl.precedes hmem ((h.mem_pending hn).mp hevent).1 hleads hresend
  have hfirstTaken := (h.after _).taken_of_lt hn hmem hleads.2.1 hbefore.1 htaken
  obtain ⟨received, hfirstTook⟩ := h.exists_took hn hfirst hfirstTaken
  exact hlost arrivals harrivals received hfirstTook

/-- Without a notification that is lost a matcher cannot be completed. -/
theorem Tracks.not_completable_of_lost (h : Tracks expected matcher) (hn : Numbered expected)
    (hevent : event ∈ matcher.pending) (hlost : matcher.Lost now event) :
    ¬ matcher.Completable now := by
  rintro ⟨arrivals, harrivals, hcomplete⟩
  have hlast := h.after (arrivals.map .observe)
  have hmem := ((h.mem_pending hn).mp hevent).1
  have htaken : event ∈ (matcher.after (arrivals.map .observe)).taken := by
    by_contra hnot
    have hpending := (hlast.mem_pending hn).mpr ⟨hmem, hnot⟩
    rw [hlast.complete_iff.mp hcomplete] at hpending
    simp at hpending
  obtain ⟨arrival, htook⟩ := h.exists_took hn hevent htaken
  exact hlost arrivals harrivals arrival htook

/-- When no open window has closed, the delivery as soon as possible is
accepted to its end and completes the matcher. -/
theorem Tracks.continuation_completes (h : Tracks expected matcher) (hn : Numbered expected)
    (hc : Chronological expected) (hl : LedByFirst expected)
    (htolerance : ∀ event ∈ expected, 0 ≤ event.tolerance)
    (hopen : ∀ event ∈ matcher.pending, ¬ matcher.Awaits event →
      now ≤ matcher.due event + event.tolerance) :
    (∀ delivery ∈ matcher.continuation now, now ≤ delivery.2.receivedAt) ∧
      matcher.log (observations (matcher.continuation now)) =
        acceptances (matcher.continuation now) ∧
      (matcher.after (observations (matcher.continuation now))).complete = true := by
  obtain ⟨hlog, -, hcomplete⟩ := (h.continues hn hc hl htolerance hopen).completes hn hl h
  refine ⟨?_, hlog, hcomplete⟩
  rintro ⟨event, arrival⟩ hmem
  obtain ⟨-, rfl⟩ := mem_continuation.mp hmem
  exact Int.le_max_left _ _

/-- **Completion**: a matcher can be completed by arrivals from `now` on
exactly when no open window of a notification has closed by then. -/
theorem Tracks.completable_iff (h : Tracks expected matcher) (hn : Numbered expected)
    (hc : Chronological expected) (hl : LedByFirst expected)
    (htolerance : ∀ event ∈ expected, 0 ≤ event.tolerance) :
    matcher.Completable now ↔ ∀ event ∈ matcher.pending, ¬ matcher.Awaits event →
      now ≤ matcher.due event + event.tolerance := by
  constructor
  · intro hcompletable event hevent hawaits
    by_contra hclosed
    exact h.not_completable_of_lost hn hevent
      (h.lost_of_closed hn hevent hawaits (Int.not_le.mp hclosed)) hcompletable
  · intro hopen
    obtain ⟨hlater, -, hcomplete⟩ := h.continuation_completes hn hc hl htolerance hopen
    refine ⟨(matcher.continuation now).map Prod.snd, List.forall_mem_map.mpr hlater, ?_⟩
    rwa [observations, ← Function.comp_def, ← List.map_map] at hcomplete

end Matcher

end AlertConformance
