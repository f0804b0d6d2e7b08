/-
AlertConformance.Proofs.Matcher.Completeness — a conforming delivery is
accepted.

An engine delivers every notification of a schedule once. It may deliver
those of different alerts in any order that respects what precedes what,
start each burst early or late within the tolerance, and deviate from the
times of the burst by as much again. A matcher accepts every such delivery
to its end. Nothing is asked of the times in the schedule.

* `Delivers` — the deliveries of a conforming engine.
* `Continues` — the rest of one, after what was accepted.
* `accepts_next` — one arrival: the step lemma.
* `accepts` — the run: what continues the accepted is accepted.
* `delivery_accepted` — the whole delivery.
-/
import AlertConformance.Proofs.Matcher.Order

namespace AlertConformance.Matcher

/-- A conforming delivery of a schedule: pairs of a notification and its
arrival. Each notification comes once and after all that precede it, and
its arrival conforms to it with the delay of the first one of its burst. -/
structure Delivers (expected : List ScheduledNotification)
    (deliveries : List (ScheduledNotification × Notification)) : Prop where
  all : (deliveries.map Prod.fst).Perm expected
  ordered : (deliveries.map Prod.fst).Pairwise fun a b => ¬ Precedes b a
  conforms : ∀ delivery ∈ deliveries, ∀ first ∈ deliveries, Leads first.1 delivery.1 →
    Conforms delivery.1 (first.2.receivedAt - first.1.ts) delivery.2

/-- The rest of a conforming delivery, after the pairs from before. Only
what is still to be delivered has to be in order. -/
structure Continues (expected : List ScheduledNotification)
    (earlier later : List (ScheduledNotification × Notification)) : Prop where
  all : ((earlier ++ later).map Prod.fst).Perm expected
  ordered : (later.map Prod.fst).Pairwise fun a b => ¬ Precedes b a
  conforms : ∀ delivery ∈ later, ∀ first ∈ earlier ++ later, Leads first.1 delivery.1 →
    Conforms delivery.1 (first.2.receivedAt - first.1.ts) delivery.2

/-- The calls that observe a delivery. -/
def observations (deliveries : List (ScheduledNotification × Notification)) : List Call :=
  deliveries.map fun delivery => .observe delivery.2

/-- The log of a delivery that is accepted to its end. -/
def acceptances (deliveries : List (ScheduledNotification × Notification)) :
    List (Call × Result Answer) :=
  deliveries.map fun delivery => (.observe delivery.2, .ok (.taken delivery.1))

variable {matcher start : Matcher} {expected : List ScheduledNotification}
  {deliveries earlier middle later : List (ScheduledNotification × Notification)}
  {event other : ScheduledNotification} {arrival : Notification} {key : LabelKey}

theorem Delivers.continues (hd : Delivers expected deliveries) :
    Continues expected [] deliveries :=
  ⟨hd.all, hd.ordered, hd.conforms⟩

theorem Continues.tail (hd : Continues expected earlier ((event, arrival) :: later)) :
    Continues expected (earlier ++ [(event, arrival)]) later where
  all := by simpa using hd.all
  ordered := (List.pairwise_cons.mp hd.ordered).2
  conforms delivery hmem first hfirst hleads := by
    rw [List.append_assoc] at hfirst
    exact hd.conforms delivery (List.mem_cons_of_mem _ hmem) first hfirst hleads

/-! ## One arrival -/

/-- Whatever is still queued comes with or after the next arrival, so it
does not precede it. -/
theorem Continues.not_precedes (hd : Continues expected earlier ((event, arrival) :: later))
    (hn : Numbered expected) (h : Tracks expected matcher) (hconsumed : matcher.consumed = earlier)
    (hmem : other ∈ queueOf other.key matcher.queues) : ¬ Precedes other event := by
  have hnot : other ∉ earlier.map Prod.fst := by
    rw [← hconsumed]
    exact h.not_taken_of_mem_queue hn hmem
  have hin : other ∈ (earlier ++ (event, arrival) :: later).map Prod.fst :=
    hd.all.mem_iff.mpr (h.mem_expected_of_queue hmem)
  rw [List.map_append, List.map_cons, List.mem_append] at hin
  rcases List.mem_cons.mp (hin.resolve_left hnot) with rfl | hlater
  · exact fun hprecedes => Int.lt_irrefl _ hprecedes.1
  · exact (List.pairwise_cons.mp hd.ordered).1 other hlater

/-- The next notification heads its queue. -/
theorem Continues.head_eq (hd : Continues expected earlier ((event, arrival) :: later))
    (hn : Numbered expected) (h : Tracks expected matcher)
    (hconsumed : matcher.consumed = earlier) :
    (queueOf event.key matcher.queues).head? = some event := by
  have hevent : event ∈ expected := hd.all.mem_iff.mp (by simp)
  have hnot : event ∉ matcher.taken := by
    have hnodup := (hd.all.map ScheduledNotification.orderingId).nodup_iff.mpr hn.nodup_ids
    have hnodup := List.Nodup.of_map _ hnodup
    rw [List.map_append, List.map_cons, List.nodup_append] at hnodup
    rw [taken, hconsumed]
    exact fun hmem => hnodup.2.2 event hmem event List.mem_cons_self rfl
  have hmem := h.mem_queue_of_not_taken hevent hnot
  obtain ⟨head, hhead⟩ : ∃ head, (queueOf event.key matcher.queues).head? = some head :=
    Option.isSome_iff_exists.mp (List.isSome_head?.mpr (List.ne_nil_of_mem hmem))
  have hin := List.mem_of_head? hhead
  have hkey := h.filed.own event.key head hin
  rcases h.head_le hn hhead hmem with rfl | hlt
  · exact hhead
  · exact absurd ⟨hlt, .inl hkey⟩ (hd.not_precedes hn h hconsumed (hkey ▸ hin))

/-- The next arrival conforms to its notification with the anchor that the
matcher holds by then. -/
theorem Continues.conforms_anchor (hd : Continues expected earlier ((event, arrival) :: later))
    (hn : Numbered expected) (hl : LedByFirst expected) (h : Tracks expected matcher)
    (hconsumed : matcher.consumed = earlier) : Conforms event (matcher.anchor event) arrival := by
  have hself : (event, arrival) ∈ (event, arrival) :: later := List.mem_cons_self
  have hevent : event ∈ expected :=
    hd.all.mem_iff.mp (List.mem_map_of_mem (List.mem_append_right _ hself))
  cases hresend : event.resend with
  | false =>
    exact (hd.conforms _ hself _ (List.mem_append_right _ hself) ⟨hresend, rfl, rfl⟩).of_first
      hresend
  | true =>
    obtain ⟨first, hfirst, hleads⟩ := hl.exists_leads hn hevent
    have hprecedes := hl.precedes hfirst hevent hleads hresend
    -- the first of the burst precedes it, so it is not queued any more
    have htaken : first ∈ matcher.taken := by
      by_contra hnot
      exact hd.not_precedes hn h hconsumed (h.mem_queue_of_not_taken hfirst hnot) hprecedes
    obtain ⟨⟨_, received⟩, hmem, rfl⟩ := List.mem_map.mp htaken
    rw [h.anchor_eq hn hl hmem hleads]
    rw [hconsumed] at hmem
    exact hd.conforms _ hself _ (List.mem_append_left _ hmem) hleads

/-- **One step**: after the arrivals before it, the next one is accepted
for its notification. -/
theorem Continues.accepts_next (hd : Continues expected earlier ((event, arrival) :: later))
    (hn : Numbered expected) (hl : LedByFirst expected) (h : Tracks expected matcher)
    (hconsumed : matcher.consumed = earlier) :
    matcher.observe arrival = .ok (event, matcher.consume event arrival) := by
  refine (observe_eq_ok_iff h.filed).mpr ⟨hd.head_eq hn h hconsumed,
    hd.conforms_anchor hn hl h hconsumed, (overtaken?_eq_none_iff h.filed).mpr ?_, rfl⟩
  intro key head _ hhead hid
  have hin := List.mem_of_head? hhead
  have hkey := h.filed.own key head hin
  by_contra hlate
  exact hd.not_precedes hn h hconsumed (hkey ▸ hin) ⟨hid, .inr (Int.not_lt.mp hlate)⟩

/-! ## The whole delivery -/

/-- **The run**: a matcher accepts what continues the accepted, up to any
point, and from there the rest continues. -/
theorem Continues.accepts (hn : Numbered expected) (hl : LedByFirst expected)
    (hd : Continues expected earlier (middle ++ later)) (h : Tracks expected matcher)
    (hconsumed : matcher.consumed = earlier) :
    matcher.log (observations middle) = acceptances middle ∧
      (matcher.after (observations middle)).consumed = earlier ++ middle ∧
      Continues expected (earlier ++ middle) later := by
  induction middle generalizing earlier matcher with
  | nil => simpa [observations, acceptances, log, after, hconsumed] using hd
  | cons delivery rest ih =>
    obtain ⟨event, arrival⟩ := delivery
    have hok := hd.accepts_next hn hl h hconsumed
    have hcall : matcher.call (.observe arrival) =
        (.ok (.taken event), matcher.consume event arrival) := by
      simp [call, hok]
    obtain ⟨hlog, hafter, hrest⟩ := ih hd.tail (h.observe hok) (by simp [consume, hconsumed])
    refine ⟨?_, ?_, by simpa using hrest⟩
    · simpa [observations, acceptances, log, hcall] using hlog
    · simpa [observations, after, hcall] using hafter

/-- A matcher that has accepted a delivery to its end is complete. -/
theorem Continues.completes (hn : Numbered expected) (hl : LedByFirst expected)
    (hd : Continues expected matcher.consumed later) (h : Tracks expected matcher) :
    matcher.log (observations later) = acceptances later ∧
      (matcher.after (observations later)).consumed = matcher.consumed ++ later ∧
      (matcher.after (observations later)).complete = true := by
  have hlength := hd.all.length_eq
  rw [List.length_map] at hlength
  rw [← List.append_nil later] at hd
  obtain ⟨hlog, hconsumed, -⟩ := hd.accepts hn hl h rfl
  refine ⟨hlog, hconsumed, ?_⟩
  rw [complete, hconsumed, (h.after _).total, hlength, decide_eq_true rfl]

/-- **Completeness**: of a conforming delivery every arrival is accepted,
each for its own notification. Then the matcher is complete, nothing is
still to come and nothing is ever missed. -/
theorem delivery_accepted (hnew : Matcher.new expected = .ok start) (hl : LedByFirst expected)
    (hd : Delivers expected deliveries) :
    start.log (observations deliveries) = acceptances deliveries ∧
    (start.after (observations deliveries)).consumed = deliveries ∧
    (start.after (observations deliveries)).complete = true ∧
    (start.after (observations deliveries)).pending = [] ∧
    ∀ now, (start.after (observations deliveries)).finish now = .ok () := by
  have h := Tracks.new hnew
  have hn := numbered_of_new hnew
  have hcontinues : Continues expected start.consumed deliveries := by
    rw [consumed_new hnew]
    exact hd.continues
  obtain ⟨hlog, hconsumed, hcomplete⟩ := hcontinues.completes hn hl h
  rw [consumed_new hnew, List.nil_append] at hconsumed
  have hpending := (h.after (observations deliveries)).complete_iff.mp hcomplete
  refine ⟨hlog, hconsumed, hcomplete, hpending, fun now => ?_⟩
  simp [finish, overdue, hpending]

/-- The first alert is late by four and its resend by three more, and the
second alert comes between them. -/
def sampleDelivery : List (ScheduledNotification × Notification) :=
  [(sampleEvent "A" 1 0 false, sampleArrival "A" 2 4 44),
    (sampleEvent "B" 3 0 false, sampleArrival "B" 0 5 43),
    (sampleEvent "A" 2 10 true, sampleArrival "A" (-1) 17 60)]

theorem delivers_sample : Delivers sampleSchedule sampleDelivery where
  all := (List.Perm.swap _ _ _).cons _
  ordered := by decide +kernel
  conforms := by decide +kernel

theorem delivery_accepted_sample : ∃ start, Matcher.new sampleSchedule = .ok start ∧
    start.log (observations sampleDelivery) = acceptances sampleDelivery ∧
    (start.after (observations sampleDelivery)).complete = true := by
  obtain ⟨start, hnew⟩ := exists_new numbered_sample
  obtain ⟨hlog, -, hcomplete, -⟩ :=
    delivery_accepted hnew (by decide +kernel : LedByFirst sampleSchedule) delivers_sample
  exact ⟨start, hnew, hlog, hcomplete⟩

end AlertConformance.Matcher
