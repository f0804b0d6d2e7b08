/-
AlertConformance.Proofs.Matcher.Queues — the queues of a matcher as a map
from label sets to notifications.

A matcher keeps its queues in a list of pairs. Seen from outside the list
is a map: `queueOf` reads it, `enqueue` adds at the end of one queue and
`dequeue` takes the head off one, and every other queue stays as it is.

* `Filed` — one queue for each label set, and every notification in the
  queue of its own.
* `filter_flatMap` — the notifications of one label set, among those of
  all queues, are its queue.
-/
import AlertConformance.Matcher

namespace AlertConformance.Matcher

variable {queues : List (LabelKey × List ScheduledNotification)} {key : LabelKey}
  {event : ScheduledNotification}

/-! ## Reading a queue -/

/-- The queue of a label set; one that has none has an empty one. -/
def queueOf (key : LabelKey) (queues : List (LabelKey × List ScheduledNotification)) :
    List ScheduledNotification :=
  (queues.lookup key).getD []

@[simp] theorem queueOf_nil (key : LabelKey) : queueOf key [] = [] := rfl

theorem queueOf_cons (key other : LabelKey) (queue : List ScheduledNotification)
    (rest : List (LabelKey × List ScheduledNotification)) :
    queueOf key ((other, queue) :: rest) = if key = other then queue else queueOf key rest := by
  by_cases h : key = other
  · simp [queueOf, h]
  · simp [queueOf, List.lookup_cons, h, beq_false_of_ne]

theorem head?_eq (matcher : Matcher) (key : LabelKey) :
    matcher.head? key = (queueOf key matcher.queues).head? := by
  unfold head? queueOf
  cases matcher.queues.lookup key <;> rfl

/-! ## One queue for each label set -/

theorem queueOf_eq_nil (h : key ∉ queues.map Prod.fst) : queueOf key queues = [] := by
  induction queues with
  | nil => rfl
  | cons entry rest ih =>
    obtain ⟨other, queue⟩ := entry
    simp only [List.map_cons, List.mem_cons, not_or] at h
    rw [queueOf_cons, if_neg h.1, ih h.2]

/-- Each label set has one queue, and each notification is in the queue of
its own label set. -/
structure Filed (queues : List (LabelKey × List ScheduledNotification)) : Prop where
  distinct : (queues.map Prod.fst).Nodup
  own : ∀ key, ∀ event ∈ queueOf key queues, event.key = key

theorem Filed.nil : Filed [] := ⟨List.nodup_nil, by simp⟩

theorem Filed.tail {other : LabelKey} {queue : List ScheduledNotification}
    (h : Filed ((other, queue) :: queues)) : Filed queues := by
  obtain ⟨hnot, hrest⟩ := List.nodup_cons.mp h.distinct
  refine ⟨hrest, fun key event hmem => ?_⟩
  by_cases hk : key = other
  · subst hk
    rw [queueOf_eq_nil hnot] at hmem
    simp at hmem
  · exact h.own key event (by rwa [queueOf_cons, if_neg hk])

theorem mem_of_queueOf_ne_nil (h : queueOf key queues ≠ []) :
    (key, queueOf key queues) ∈ queues := by
  induction queues with
  | nil => simp at h
  | cons entry rest ih =>
    obtain ⟨other, first⟩ := entry
    rw [queueOf_cons] at h ⊢
    split at h
    · rename_i heq
      simp [heq]
    · rename_i hne
      rw [if_neg hne]
      exact List.mem_cons_of_mem _ (ih h)

theorem Filed.queueOf_eq (h : Filed queues) {queue : List ScheduledNotification}
    (hmem : (key, queue) ∈ queues) : queueOf key queues = queue := by
  induction queues with
  | nil => simp at hmem
  | cons entry rest ih =>
    obtain ⟨other, first⟩ := entry
    rw [queueOf_cons]
    rcases List.mem_cons.mp hmem with heq | hrest
    · obtain ⟨rfl, rfl⟩ := Prod.mk.inj heq
      exact if_pos rfl
    · have hne : key ≠ other := by
        rintro rfl
        exact (List.nodup_cons.mp h.distinct).1 (List.mem_map.mpr ⟨_, hrest, rfl⟩)
      rw [if_neg hne]
      exact ih h.tail hrest

/-- The notifications of one label set, among all that are queued, are its
queue. -/
theorem Filed.filter_flatMap (h : Filed queues) (key : LabelKey) :
    (queues.flatMap Prod.snd).filter (fun event => event.key = key) = queueOf key queues := by
  induction queues with
  | nil => rfl
  | cons entry rest ih =>
    obtain ⟨other, queue⟩ := entry
    have hown : ∀ e ∈ queue, e.key = other := by
      simpa [queueOf_cons] using h.own other
    rw [List.flatMap_cons, List.filter_append, ih h.tail, queueOf_cons]
    split
    · rename_i heq
      subst heq
      rw [queueOf_eq_nil (List.nodup_cons.mp h.distinct).1, List.append_nil]
      exact List.filter_eq_self.mpr fun e he => by simpa using hown e he
    · rename_i hne
      have hnone : queue.filter (fun event => event.key = key) = [] :=
        List.filter_eq_nil_iff.mpr fun e he => by simpa [hown e he] using Ne.symm hne
      rw [hnone, List.nil_append]

theorem Filed.mem_flatMap_iff (h : Filed queues) :
    event ∈ queues.flatMap Prod.snd ↔ event ∈ queueOf event.key queues := by
  rw [← h.filter_flatMap, List.mem_filter]
  simp

/-! ## Adding a notification -/

theorem queueOf_enqueue (event : ScheduledNotification) (key : LabelKey)
    (queues : List (LabelKey × List ScheduledNotification)) :
    queueOf key (enqueue event queues) =
      if key = event.key then queueOf key queues ++ [event] else queueOf key queues := by
  induction queues with
  | nil => simp [enqueue, queueOf_cons]
  | cons entry rest ih =>
    obtain ⟨other, queue⟩ := entry
    by_cases ho : other = event.key
    · subst ho
      by_cases hk : key = event.key <;> simp [enqueue, queueOf_cons, hk]
    · by_cases hk : key = other
      · subst hk
        simp [enqueue, queueOf_cons, ho]
      · simp [enqueue, queueOf_cons, ho, hk, ih]

theorem mem_keys_enqueue (event : ScheduledNotification) (key : LabelKey)
    (queues : List (LabelKey × List ScheduledNotification)) :
    key ∈ (enqueue event queues).map Prod.fst ↔
      key = event.key ∨ key ∈ queues.map Prod.fst := by
  induction queues with
  | nil => simp [enqueue]
  | cons entry rest ih =>
    obtain ⟨other, queue⟩ := entry
    by_cases ho : other = event.key
    · subst ho
      simp [enqueue]
    · simp only [enqueue, if_neg ho, List.map_cons, List.mem_cons, ih]
      exact or_left_comm

theorem mem_keys_foldl_enqueue (events : List ScheduledNotification) (key : LabelKey)
    (queues : List (LabelKey × List ScheduledNotification)) :
    key ∈ (events.foldl (fun queues event => enqueue event queues) queues).map Prod.fst ↔
      (∃ event ∈ events, event.key = key) ∨ key ∈ queues.map Prod.fst := by
  induction events generalizing queues with
  | nil => simp
  | cons event rest ih =>
    rw [List.foldl_cons, ih, mem_keys_enqueue, eq_comm (a := key)]
    simp only [List.mem_cons, or_and_right, exists_or, exists_eq_left]
    exact or_left_comm.trans or_assoc.symm

theorem nodup_keys_enqueue (event : ScheduledNotification)
    (h : (queues.map Prod.fst).Nodup) : ((enqueue event queues).map Prod.fst).Nodup := by
  induction queues with
  | nil => simp [enqueue]
  | cons entry rest ih =>
    obtain ⟨other, queue⟩ := entry
    obtain ⟨hnot, hrest⟩ := List.nodup_cons.mp h
    unfold enqueue
    split
    · simpa using h
    · rename_i ho
      rw [List.map_cons, List.nodup_cons, mem_keys_enqueue, not_or]
      exact ⟨⟨ho, hnot⟩, ih hrest⟩

theorem Filed.enqueue (h : Filed queues) (event : ScheduledNotification) :
    Filed (enqueue event queues) := by
  refine ⟨nodup_keys_enqueue event h.distinct, fun key other hmem => ?_⟩
  rw [queueOf_enqueue] at hmem
  split at hmem
  · rename_i hkey
    rcases List.mem_append.mp hmem with hold | hnew
    · exact h.own key other hold
    · rw [List.mem_singleton.mp hnew, hkey]
  · exact h.own key other hmem

/-- Adding a list of notifications adds to the queue of a label set those
of that label set, in their order. -/
theorem queueOf_foldl_enqueue (events : List ScheduledNotification) (key : LabelKey)
    (queues : List (LabelKey × List ScheduledNotification)) :
    queueOf key (events.foldl (fun queues event => Matcher.enqueue event queues) queues) =
      queueOf key queues ++ events.filter (fun event => event.key = key) := by
  induction events generalizing queues with
  | nil => simp
  | cons event rest ih =>
    rw [List.foldl_cons, ih, queueOf_enqueue]
    by_cases h : event.key = key
    · simp [h]
    · simp [h, Ne.symm h]

theorem Filed.foldl_enqueue (h : Filed queues) (events : List ScheduledNotification) :
    Filed (events.foldl (fun queues event => Matcher.enqueue event queues) queues) := by
  induction events generalizing queues with
  | nil => exact h
  | cons event rest ih => exact ih (h.enqueue event)

/-! ## Taking a head -/

theorem keys_dequeue (key : LabelKey) (queues : List (LabelKey × List ScheduledNotification)) :
    (dequeue key queues).map Prod.fst = queues.map Prod.fst := by
  induction queues with
  | nil => rfl
  | cons entry rest ih =>
    obtain ⟨other, queue⟩ := entry
    by_cases h : other = key <;> simp [dequeue, h, ih]

theorem queueOf_dequeue (taken key : LabelKey)
    (queues : List (LabelKey × List ScheduledNotification)) :
    queueOf key (dequeue taken queues) =
      if key = taken then (queueOf key queues).tail else queueOf key queues := by
  induction queues with
  | nil => simp [dequeue]
  | cons entry rest ih =>
    obtain ⟨other, queue⟩ := entry
    by_cases ho : other = taken
    · subst ho
      by_cases hk : key = other <;> simp [dequeue, queueOf_cons, hk]
    · by_cases hk : key = other
      · subst hk
        simp [dequeue, queueOf_cons, ho]
      · simp [dequeue, queueOf_cons, ho, hk, ih]

theorem Filed.dequeue (h : Filed queues) (taken : LabelKey) : Filed (dequeue taken queues) := by
  refine ⟨by rw [keys_dequeue]; exact h.distinct, fun key event hmem => ?_⟩
  rw [queueOf_dequeue] at hmem
  split at hmem
  · exact h.own key event (List.mem_of_mem_tail hmem)
  · exact h.own key event hmem

end AlertConformance.Matcher
