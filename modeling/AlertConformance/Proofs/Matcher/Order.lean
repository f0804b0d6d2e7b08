/-
AlertConformance.Proofs.Matcher.Order — the order of a schedule, and what
a matcher keeps of it.

A matcher looks at the heads of its queues only. That this is enough
rests on two properties of a schedule: of one alert no notification is due
before one with a smaller number, and each burst is led by its only
notification that is no resend.

* `Chronological`, `LedByFirst` — the two properties.
* `Precedes` — one notification has to arrive before another.
* `Tracks.head_le` — the head of a queue has the smallest number in it.
* `Tracks.anchor_eq` — an anchor is the delay of the first notification of
  its burst.
-/
import AlertConformance.Proofs.Matcher.Conservation

namespace AlertConformance.Matcher

/-! ## Schedules -/

/-- Of one alert, no notification is due before one with a smaller
number. -/
def Chronological (expected : List ScheduledNotification) : Prop :=
  ∀ a ∈ expected, ∀ b ∈ expected, a.key = b.key → a.orderingId < b.orderingId → a.ts ≤ b.ts

/-- The notification of a burst with the smallest number, and only it, is
no resend. -/
def LedByFirst (expected : List ScheduledNotification) : Prop :=
  ∀ event ∈ expected, event.resend = false ↔
    ∀ other ∈ expected, other.key = event.key → other.burst = event.burst →
      event.orderingId ≤ other.orderingId

/-- `first` is the first notification of the burst of `event`. -/
def Leads (first event : ScheduledNotification) : Prop :=
  first.resend = false ∧ first.key = event.key ∧ first.burst = event.burst

/-- One notification has to arrive before another: it was generated
earlier, and is of the same alert or not due later. -/
def Precedes (a b : ScheduledNotification) : Prop :=
  a.orderingId < b.orderingId ∧ (a.key = b.key ∨ a.ts ≤ b.ts)

instance (expected : List ScheduledNotification) : Decidable (Chronological expected) :=
  inferInstanceAs (Decidable (∀ _ ∈ _, _))

instance (expected : List ScheduledNotification) : Decidable (LedByFirst expected) :=
  inferInstanceAs (Decidable (∀ _ ∈ _, _))

instance (first event : ScheduledNotification) : Decidable (Leads first event) :=
  inferInstanceAs (Decidable (_ ∧ _ ∧ _))

instance (a b : ScheduledNotification) : Decidable (Precedes a b) :=
  inferInstanceAs (Decidable (_ ∧ _))

variable {matcher : Matcher} {expected : List ScheduledNotification}
  {event first head other : ScheduledNotification} {arrival : Notification} {key : LabelKey}

/-- A burst has one first notification. -/
theorem LedByFirst.eq_of_leads (hl : LedByFirst expected) (hn : Numbered expected)
    (hfirst : first ∈ expected) (hother : other ∈ expected) (h : Leads first event)
    (h' : Leads other event) : first = other := by
  have hle := (hl first hfirst).mp h.1 other hother (h'.2.1.trans h.2.1.symm)
    (h'.2.2.trans h.2.2.symm)
  have hge := (hl other hother).mp h'.1 first hfirst (h.2.1.trans h'.2.1.symm)
    (h.2.2.trans h'.2.2.symm)
  exact hn.eq_of_id hfirst hother (Int.le_antisymm hle hge)

/-- Every burst has a first notification. -/
theorem LedByFirst.exists_leads (hl : LedByFirst expected) (hn : Numbered expected)
    (hevent : event ∈ expected) : ∃ first ∈ expected, Leads first event := by
  let burst := expected.filter fun other => other.key = event.key ∧ other.burst = event.burst
  have hmem : ∀ other, other ∈ burst ↔
      other ∈ expected ∧ other.key = event.key ∧ other.burst = event.burst := by
    simp [burst]
  have hsorted : burst.Pairwise fun a b => a.orderingId < b.orderingId := hn.2.filter _
  cases hburst : burst with
  | nil => exact absurd ((hmem event).mpr ⟨hevent, rfl, rfl⟩) (by simp [hburst])
  | cons first rest =>
    obtain ⟨hfirst, hkey, hnumber⟩ := (hmem first).mp (by simp [hburst])
    refine ⟨first, hfirst, (hl first hfirst).mpr fun other hother hk hb => ?_, hkey, hnumber⟩
    have hin : other ∈ first :: rest := by
      rw [← hburst]
      exact (hmem other).mpr ⟨hother, hk.trans hkey, hb.trans hnumber⟩
    rw [hburst] at hsorted
    rcases List.mem_cons.mp hin with rfl | hrest
    · exact Int.le_refl _
    · exact Int.le_of_lt ((List.pairwise_cons.mp hsorted).1 other hrest)

/-- The first notification of the burst of a resend comes before it. -/
theorem LedByFirst.precedes (hl : LedByFirst expected) (hfirst : first ∈ expected)
    (hevent : event ∈ expected) (h : Leads first event) (hresend : event.resend = true) :
    Precedes first event := by
  have hle := (hl first hfirst).mp h.1 event hevent h.2.1.symm h.2.2.symm
  refine ⟨Int.lt_iff_le_and_ne.mpr ⟨hle, fun heq => ?_⟩, .inl h.2.1⟩
  -- with the same number the resend would be least in the burst as well
  have hleast : event.resend = false := (hl event hevent).mpr fun other hother hk hb => by
    rw [← heq]
    exact (hl first hfirst).mp h.1 other hother (hk.trans h.2.1.symm) (hb.trans h.2.2.symm)
  simp [hleast] at hresend

/-! ## Queues -/

theorem Tracks.mem_expected_of_queue (h : Tracks expected matcher)
    (hmem : event ∈ queueOf key matcher.queues) : event ∈ expected := by
  have hsplit : event ∈ expected.filter fun event => event.key = key := by
    rw [← h.split key]
    exact List.mem_append_right _ hmem
  exact (List.mem_filter.mp hsplit).1

theorem Tracks.mem_expected_of_taken (h : Tracks expected matcher)
    (hmem : event ∈ matcher.taken) : event ∈ expected :=
  h.perm.mem_iff.mp (List.mem_append_left _ hmem)

/-- A notification that was not accepted is in the queue of its alert. -/
theorem Tracks.mem_queue_of_not_taken (h : Tracks expected matcher) (hevent : event ∈ expected)
    (hnot : event ∉ matcher.taken) : event ∈ queueOf event.key matcher.queues := by
  have hsplit : event ∈ expected.filter fun other => other.key = event.key := by
    simp [hevent]
  rw [← h.split event.key, List.mem_append] at hsplit
  exact hsplit.resolve_left fun htaken => hnot (List.mem_of_mem_filter htaken)

/-- A notification that was accepted is not in a queue any more. -/
theorem Tracks.not_taken_of_mem_queue (h : Tracks expected matcher) (hn : Numbered expected)
    (hmem : event ∈ queueOf event.key matcher.queues) : event ∉ matcher.taken := by
  intro htaken
  have hnodup := h.nodup_ids hn
  rw [List.map_append, List.nodup_append] at hnodup
  exact hnodup.2.2 _ (List.mem_map_of_mem htaken) _
    (List.mem_map_of_mem ((mem_pending_iff h.filed).mpr hmem)) rfl

/-- What is still to come is what was not accepted. -/
theorem Tracks.mem_pending (h : Tracks expected matcher) (hn : Numbered expected) :
    event ∈ matcher.pending ↔ event ∈ expected ∧ event ∉ matcher.taken := by
  rw [mem_pending_iff h.filed]
  exact ⟨fun hmem => ⟨h.mem_expected_of_queue hmem, h.not_taken_of_mem_queue hn hmem⟩,
    fun ⟨hevent, hnot⟩ => h.mem_queue_of_not_taken hevent hnot⟩

/-- Of one alert, a notification is accepted after those with smaller
numbers. -/
theorem Tracks.taken_of_lt (h : Tracks expected matcher) (hn : Numbered expected)
    (hother : other ∈ expected) (hkey : other.key = event.key)
    (hid : other.orderingId < event.orderingId) (htaken : event ∈ matcher.taken) :
    other ∈ matcher.taken := by
  by_contra hnot
  have hqueue := h.mem_queue_of_not_taken hother hnot
  have hsorted := hn.2.filter fun other => other.key = event.key
  rw [← h.split event.key] at hsorted
  have hlt := (List.pairwise_append.mp hsorted).2.2 event (by simp [htaken]) other (hkey ▸ hqueue)
  omega

/-- The head of a queue has the smallest number in it. -/
theorem Tracks.head_le (h : Tracks expected matcher) (hn : Numbered expected)
    (hhead : (queueOf key matcher.queues).head? = some head)
    (hmem : event ∈ queueOf key matcher.queues) : head = event ∨
      head.orderingId < event.orderingId := by
  have hsorted := h.queue_sorted hn key
  cases hqueue : queueOf key matcher.queues with
  | nil => simp [hqueue] at hhead
  | cons least rest =>
    rw [hqueue] at hsorted hmem hhead
    obtain rfl : least = head := by simpa using hhead
    rcases List.mem_cons.mp hmem with rfl | hrest
    · exact .inl rfl
    · exact .inr ((List.pairwise_cons.mp hsorted).1 event hrest)

/-- In a chronological schedule the head is also due first. -/
theorem Tracks.head_ts_le (h : Tracks expected matcher) (hn : Numbered expected)
    (hc : Chronological expected) (hhead : (queueOf key matcher.queues).head? = some head)
    (hmem : event ∈ queueOf key matcher.queues) : head.ts ≤ event.ts := by
  have hin := List.mem_of_head? hhead
  rcases h.head_le hn hhead hmem with rfl | hlt
  · exact Int.le_refl _
  · exact hc head (h.mem_expected_of_queue hin) event (h.mem_expected_of_queue hmem)
      ((h.filed.own key head hin).trans (h.filed.own key event hmem).symm) hlt

/-! ## Anchors -/

theorem Tracks.nodup_taken (h : Tracks expected matcher) (hn : Numbered expected) :
    matcher.taken.Nodup := by
  have hnodup := h.nodup_ids hn
  rw [List.map_append, List.nodup_append] at hnodup
  exact List.Nodup.of_map _ hnodup.1

/-- An anchor is the delay of some first notification of its burst. -/
theorem Tracks.exists_of_lookup (h : Tracks expected matcher) {delay : Int}
    (hdelay : matcher.anchors.lookup (event.key, event.burst) = some delay) :
    ∃ first arrival, (first, arrival) ∈ matcher.consumed ∧ Leads first event ∧
      delay = arrival.receivedAt - first.ts := by
  rw [h.anchors] at hdelay
  obtain ⟨before, rest, heq, -⟩ := List.lookup_eq_some_iff.mp hdelay
  have hin : ((event.key, event.burst), delay) ∈ startDelays matcher.consumed := by simp [heq]
  obtain ⟨first, arrival, hmem, hfirst, hkey, hburst, hdelay⟩ := mem_startDelays.mp hin
  exact ⟨first, arrival, hmem, ⟨hfirst, hkey, hburst⟩, hdelay⟩

/-- Once the first notification of a burst was accepted, the anchor of the
burst is how late it came. -/
theorem Tracks.anchor_eq (h : Tracks expected matcher) (hn : Numbered expected)
    (hl : LedByFirst expected) (hmem : (first, arrival) ∈ matcher.consumed)
    (hleads : Leads first event) : matcher.anchor event = arrival.receivedAt - first.ts := by
  have hsome : (matcher.anchors.lookup (event.key, event.burst)).isSome := by
    rw [h.anchors, List.lookup_isSome_iff]
    exact ⟨_, mem_startDelays.mpr ⟨first, arrival, hmem, hleads.1, hleads.2.1, hleads.2.2, rfl⟩,
      beq_self_eq_true _⟩
  obtain ⟨delay, hdelay⟩ := Option.isSome_iff_exists.mp hsome
  -- a burst has one first notification, which was accepted once
  obtain ⟨other, late, hother, hleads', rfl⟩ := h.exists_of_lookup hdelay
  have htaken : ∀ {e n}, (e, n) ∈ matcher.consumed → e ∈ expected := fun hen =>
    h.mem_expected_of_taken (List.mem_map_of_mem hen)
  obtain rfl := hl.eq_of_leads hn (htaken hmem) (htaken hother) hleads hleads'
  have hpair := List.inj_on_of_nodup_map (h.nodup_taken hn) hmem hother rfl
  rw [anchor, hdelay, (Prod.mk.inj hpair).2]
  rfl

/-- A burst that has started is not awaited. -/
theorem Tracks.not_leads_of_pending (h : Tracks expected matcher) (hn : Numbered expected)
    (hl : LedByFirst expected) (hfirst : (first, arrival) ∈ matcher.consumed)
    (hleads : Leads first event) : ∀ other ∈ matcher.pending, ¬ Leads other event := by
  intro other hother hleads'
  obtain ⟨hin, hnot⟩ := (h.mem_pending hn).mp hother
  have htaken : first ∈ matcher.taken := List.mem_map_of_mem hfirst
  exact hnot (hl.eq_of_leads hn (h.mem_expected_of_taken htaken) hin hleads hleads' ▸ htaken)

/-- Until a burst starts its anchor is nought. -/
theorem Tracks.anchor_eq_zero (h : Tracks expected matcher) (hn : Numbered expected)
    (hl : LedByFirst expected) (hfirst : first ∈ matcher.pending) (hleads : Leads first event) :
    matcher.anchor event = 0 := by
  unfold anchor
  cases hdelay : matcher.anchors.lookup (event.key, event.burst) with
  | none => rfl
  | some delay =>
    obtain ⟨other, arrival, hother, hleads', -⟩ := h.exists_of_lookup hdelay
    exact absurd hleads (h.not_leads_of_pending hn hl hother hleads' first hfirst)

end AlertConformance.Matcher
