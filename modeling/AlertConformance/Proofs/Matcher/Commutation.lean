/-
AlertConformance.Proofs.Matcher.Commutation — arrivals of different alerts
in either order.

Between alerts a matcher only asks whether an arrival overtakes the head
of another queue. Accepting an arrival replaces the head of its queue by a
later one, and in a chronological schedule nobody overtakes a later
notification who did not overtake the earlier one. So when two arrivals of
different alerts would each be accepted, both are, in either order. The
two states differ in the order in which they keep anchors and what was
consumed, and no call shows that.

* `Alike` — states that differ in these two orders only.
* `Alike.call`, `Alike.log` — one call and a run on alike states.
* `accepts_after` — one arrival accepted does not block another.
* `observe_commutes` — both orders end in alike states.
-/
import AlertConformance.Proofs.Matcher.Completion

namespace AlertConformance.Matcher

variable {matcher other : Matcher} {expected : List ScheduledNotification}
  {event first second : ScheduledNotification} {arrival one two : Notification}

/-! ## Alike states -/

/-- Two states with the same queues and the same anchors, that consumed
the same pairs in perhaps another order. -/
structure Alike (matcher other : Matcher) : Prop where
  queues : matcher.queues = other.queues
  anchors : ∀ burst, matcher.anchors.lookup burst = other.anchors.lookup burst
  total : matcher.total = other.total
  consumed : matcher.consumed.Perm other.consumed

theorem Alike.anchor (h : Alike matcher other) (event : ScheduledNotification) :
    matcher.anchor event = other.anchor event := by
  rw [Matcher.anchor, Matcher.anchor, h.anchors]

theorem Alike.due (h : Alike matcher other) (event : ScheduledNotification) :
    matcher.due event = other.due event := by
  rw [due_eq, due_eq, h.anchor]

theorem Alike.pending (h : Alike matcher other) : matcher.pending = other.pending := by
  rw [Matcher.pending, Matcher.pending, h.queues]

theorem Alike.head? (h : Alike matcher other) (key : LabelKey) :
    matcher.head? key = other.head? key := by
  rw [Matcher.head?, Matcher.head?, h.queues]

theorem Alike.fault? (h : Alike matcher other) (event : ScheduledNotification)
    (arrival : Notification) : matcher.fault? event arrival = other.fault? event arrival := by
  have hend : matcher.endFault? event arrival = other.endFault? event arrival := by
    rw [endFault?, endFault?, h.anchor]
  have hover : matcher.overtaken? event = other.overtaken? event := by
    rw [overtaken?, overtaken?, h.queues]
  rw [Matcher.fault?, Matcher.fault?, h.due, hend, hover]

theorem Alike.finish (h : Alike matcher other) (now : Int) :
    matcher.finish now = other.finish now := by
  have hoverdue : matcher.overdue now = other.overdue now := by
    rw [overdue, overdue, h.pending]
    exact List.filter_congr fun event _ => by rw [h.due]
  rw [Matcher.finish, Matcher.finish, hoverdue]

/-- Consuming a pair keeps states alike. -/
theorem Alike.consume (h : Alike matcher other) (event : ScheduledNotification)
    (arrival : Notification) :
    Alike (matcher.consume event arrival) (other.consume event arrival) where
  queues := by rw [Matcher.consume, Matcher.consume, h.queues]
  anchors burst := by
    cases hresend : event.resend with
    | true => simp only [Matcher.consume, hresend, if_true, h.anchors]
    | false => simp [Matcher.consume, hresend, List.lookup_cons, h.anchors]
  total := h.total
  consumed := h.consumed.append_right _

/-! ## Calls on alike states -/

/-- **One call** gives one answer on alike states and keeps them alike. -/
theorem Alike.call (h : Alike matcher other) (call : Call) :
    (matcher.call call).1 = (other.call call).1 ∧
      Alike (matcher.call call).2 (other.call call).2 := by
  cases call with
  | observe arrival =>
    simp only [Matcher.call, observe, h.head?]
    cases other.head? arrival.key with
    | none => exact ⟨rfl, h⟩
    | some event =>
      simp only [h.fault?]
      cases other.fault? event arrival with
      | some cause => exact ⟨rfl, h⟩
      | none => exact ⟨rfl, h.consume event arrival⟩
  | finish now =>
    refine ⟨?_, h⟩
    simp only [Matcher.call, h.finish]
  | pending =>
    refine ⟨?_, h⟩
    simp only [Matcher.call, h.pending]
  | due event =>
    refine ⟨?_, h⟩
    simp only [Matcher.call, h.due]

/-- **A run** on alike states gives the same answers. -/
theorem Alike.log (h : Alike matcher other) (calls : List Call) :
    matcher.log calls = other.log calls := by
  induction calls generalizing matcher other with
  | nil => rfl
  | cons call rest ih =>
    obtain ⟨hanswer, hnext⟩ := h.call call
    rw [Matcher.log, Matcher.log, hanswer, ih hnext]

/-! ## Two arrivals -/

theorem dequeue_comm (key key' : LabelKey)
    (queues : List (LabelKey × List ScheduledNotification)) :
    dequeue key (dequeue key' queues) = dequeue key' (dequeue key queues) := by
  by_cases hsame : key = key'
  · rw [hsame]
  induction queues with
  | nil => rfl
  | cons entry rest ih =>
    obtain ⟨label, queue⟩ := entry
    by_cases hkey : label = key
    · subst hkey
      simp [dequeue, hsame]
    · by_cases hkey' : label = key'
      · subst hkey'
        simp [dequeue, hkey]
      · simp [dequeue, hkey, hkey', ih]

/-- Two pairs of different alerts can be consumed in either order. -/
theorem consume_comm (matcher : Matcher) (hkey : first.key ≠ second.key) (one two : Notification) :
    Alike ((matcher.consume first one).consume second two)
      ((matcher.consume second two).consume first one) where
  queues := dequeue_comm _ _ _
  anchors burst := by
    have hne : ¬ (burst = (second.key, second.burst) ∧ burst = (first.key, first.burst)) := by
      rintro ⟨rfl, heq⟩
      exact hkey (Prod.mk.inj heq).1.symm
    cases hfirst : first.resend <;> cases hsecond : second.resend
    case false.false =>
      simp only [consume, hfirst, hsecond, Bool.false_eq_true, if_false, List.lookup_cons]
      by_cases hb : burst = (second.key, second.burst)
      · have hb' : burst ≠ (first.key, first.burst) := fun heq => hne ⟨hb, heq⟩
        rw [beq_iff_eq.mpr hb, beq_false_of_ne hb']
      · rw [beq_false_of_ne hb]
    all_goals simp [consume, hfirst, hsecond]
  total := rfl
  consumed := by
    simp only [consume, List.append_assoc]
    exact (List.Perm.swap _ _ []).append_left _

/-- The head that follows an accepted one blocks nobody whom that one did
not block: it has a greater number and is not due earlier. -/
theorem Tracks.overtaken?_consume (h : Tracks expected matcher) (hn : Numbered expected)
    (hc : Chronological expected)
    (hhead : (queueOf first.key matcher.queues).head? = some first)
    (hover : matcher.overtaken? second = none) :
    (matcher.consume first one).overtaken? second = none := by
  rw [overtaken?_eq_none_iff h.filed] at hover
  rw [overtaken?_eq_none_iff (h.consume hhead).filed]
  intro key head hkey hnext hid
  rw [Matcher.consume, queueOf_dequeue] at hnext
  by_cases hsame : key = first.key
  · subst hsame
    rw [if_pos rfl] at hnext
    have hmem : head ∈ queueOf first.key matcher.queues :=
      List.mem_of_mem_tail (List.mem_of_head? hnext)
    have hle : first.orderingId ≤ head.orderingId := by
      rcases h.head_le hn hhead hmem with rfl | hlt <;> omega
    have hdue : first.ts ≤ head.ts := h.head_ts_le hn hc hhead hmem
    have hlate : second.ts < first.ts := hover first.key first hkey hhead (by omega)
    exact Int.lt_of_lt_of_le hlate hdue
  · rw [if_neg hsame] at hnext
    exact hover key head hkey hnext hid

/-- **One arrival** accepted does not block another of a different alert:
it is still accepted, for the same notification. -/
theorem Tracks.accepts_after (h : Tracks expected matcher) (hn : Numbered expected)
    (hc : Chronological expected) {afterOne afterTwo : Matcher} (hkey : one.key ≠ two.key)
    (hone : matcher.observe one = .ok (first, afterOne))
    (htwo : matcher.observe two = .ok (second, afterTwo)) :
    afterOne.observe two = .ok (second, afterOne.consume second two) := by
  obtain ⟨hhead, hconforms, hover, hnext⟩ := (observe_eq_ok_iff h.filed).mp hone
  obtain ⟨hhead', hconforms', hover', -⟩ := (observe_eq_ok_iff h.filed).mp htwo
  have hdiffer : second.key ≠ first.key := by
    rw [← hconforms.key_eq, ← hconforms'.key_eq]
    exact Ne.symm hkey
  subst hnext
  refine (observe_eq_ok_iff (h.consume hhead).filed).mpr ⟨?_, ?_, ?_, rfl⟩
  · rw [Matcher.consume, queueOf_dequeue, if_neg hdiffer]
    exact hhead'
  · rw [anchor_consume fun hleads => hdiffer hleads.2.1.symm]
    exact hconforms'
  · exact h.overtaken?_consume hn hc hhead hover'

/-- **Commutation**: in every state that calls lead to, two arrivals of
different alerts that would each be accepted are both accepted in either
order, each for the same notification. Nothing tells the two states apart:
they have the same notifications to come, due at the same times, they
consumed the same pairs, and every further run gets the same answers. -/
theorem observe_commutes (hc : Chronological expected) (hreaches : Reaches expected matcher)
    {afterOne afterTwo : Matcher} (hkey : one.key ≠ two.key)
    (hone : matcher.observe one = .ok (first, afterOne))
    (htwo : matcher.observe two = .ok (second, afterTwo)) :
    ∃ last last',
      afterOne.observe two = .ok (second, last) ∧ afterTwo.observe one = .ok (first, last') ∧
      last.pending = last'.pending ∧ (∀ event, last.due event = last'.due event) ∧
      last.consumed.Perm last'.consumed ∧ ∀ calls, last.log calls = last'.log calls := by
  have h := hreaches.tracks
  have hn := hreaches.numbered
  obtain ⟨-, hconforms, -, hnext⟩ := (observe_eq_ok_iff h.filed).mp hone
  obtain ⟨-, hconforms', -, hnext'⟩ := (observe_eq_ok_iff h.filed).mp htwo
  have hdiffer : first.key ≠ second.key := by
    rw [← hconforms.key_eq, ← hconforms'.key_eq]
    exact hkey
  have halike : Alike (afterOne.consume second two) (afterTwo.consume first one) := by
    rw [hnext, hnext']
    exact consume_comm matcher hdiffer one two
  exact ⟨_, _, h.accepts_after hn hc hkey hone htwo, h.accepts_after hn hc (Ne.symm hkey) htwo hone,
    halike.pending, halike.due, halike.consumed, halike.log⟩

/-- The notifications of the sample in the order of their numbers. -/
def sampleDeliveryInOrder : List (ScheduledNotification × Notification) :=
  [(sampleEvent "A" 1 0 false, sampleArrival "A" 2 4 44),
    (sampleEvent "A" 2 10 true, sampleArrival "A" (-1) 17 60),
    (sampleEvent "B" 3 0 false, sampleArrival "B" 0 5 43)]

theorem delivers_sample_inOrder : Delivers sampleSchedule sampleDeliveryInOrder where
  all := List.Perm.refl _
  ordered := by decide +kernel
  conforms := by decide +kernel

/-- Once the first alert has started, its resend and the second alert can
come in either order. -/
theorem observe_commutes_sample : ∃ matcher afterA afterB last last',
    Reaches sampleSchedule matcher ∧ matcher.consumed.length = 1 ∧
    matcher.observe (sampleArrival "A" (-1) 17 60) = .ok (sampleEvent "A" 2 10 true, afterA) ∧
    matcher.observe (sampleArrival "B" 0 5 43) = .ok (sampleEvent "B" 3 0 false, afterB) ∧
    afterA.observe (sampleArrival "B" 0 5 43) = .ok (sampleEvent "B" 3 0 false, last) ∧
    afterB.observe (sampleArrival "A" (-1) 17 60) = .ok (sampleEvent "A" 2 10 true, last') ∧
    ∀ calls, last.log calls = last'.log calls := by
  obtain ⟨start, hnew⟩ := exists_new numbered_sample
  have h := Tracks.new hnew
  have hl : LedByFirst sampleSchedule := by decide +kernel
  have hd : Continues sampleSchedule start.consumed
      (sampleDelivery.take 1 ++ sampleDelivery.drop 1) := by
    rw [consumed_new hnew]
    exact delivers_sample.continues
  have hd' : Continues sampleSchedule start.consumed
      (sampleDelivery.take 1 ++ sampleDeliveryInOrder.drop 1) := by
    rw [consumed_new hnew]
    exact delivers_sample_inOrder.continues
  obtain ⟨-, hconsumed, hrest⟩ := hd.accepts numbered_sample hl h rfl
  obtain ⟨-, -, hrest'⟩ := hd'.accepts numbered_sample hl h rfl
  have hB := hrest.accepts_next numbered_sample hl (h.after _) hconsumed
  have hA := hrest'.accepts_next numbered_sample hl (h.after _) hconsumed
  have hreaches : Reaches sampleSchedule (start.after (observations (sampleDelivery.take 1))) :=
    ⟨start, _, hnew, rfl⟩
  obtain ⟨last, last', hAB, hBA, -, -, -, hlog⟩ :=
    observe_commutes (by decide +kernel) hreaches (by decide +kernel) hA hB
  have hlength : (start.after (observations (sampleDelivery.take 1))).consumed.length = 1 := by
    rw [hconsumed, consumed_new hnew]
    rfl
  exact ⟨_, _, _, last, last', hreaches, hlength, hA, hB, hAB, hBA, hlog⟩

end AlertConformance.Matcher
