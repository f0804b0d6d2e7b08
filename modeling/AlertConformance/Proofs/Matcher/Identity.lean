/-
AlertConformance.Proofs.Matcher.Identity — a matcher tells alerts apart by
their label sets.

A matcher looks up its queues and its anchors by keys. A key stands for a
label set, so in every state that a run leads to, the queue of an arrival
is what is still to come with its label set, and the anchor of a burst is
the delay of the last start of a burst with its label set and its number. In
what order the labels were put together does not show.

* `Identifies` — what a state keeps of an alert is kept by its label set.
* `Reaches.mem_keys_iff` — a run neither opens nor closes a queue.
* `Tracks.queueOf_key`, `lookup_startDelays` — the queue and the anchor of a
  label set.
* `Reaches.identifies` — the statement for every run.
-/
import AlertConformance.Proofs.Matcher.Conservation
import Mathlib.Data.List.Induction

namespace AlertConformance.Matcher

variable {matcher : Matcher} {expected : List ScheduledNotification} {key : LabelKey}

/-! ## What a state keeps -/

/-- Whether a consumed pair started a burst of a number, of the alert with a
label set. -/
def starts (labels : Labels) (burst : Int) : ScheduledNotification × Notification → Bool :=
  fun (first, _) => !first.resend && first.labels.same labels && first.burst = burst

/-- How late the burst of a number started last, of the alert with a label
set. -/
def startDelay? (matcher : Matcher) (labels : Labels) (burst : Int) : Option Int :=
  (matcher.consumed.findRev? (starts labels burst)).map fun (first, arrival) =>
    arrival.receivedAt - first.ts

/-- A state of a matcher for a schedule tells alerts apart by their label
sets, and by nothing else. -/
structure Identifies (matcher : Matcher) (expected : List ScheduledNotification) : Prop where
  /-- No label set has two queues, … -/
  distinct : (matcher.queues.map Prod.fst).Nodup
  /-- … those of the schedule have one, … -/
  filed : ∀ labels : Labels, labels.key ∈ matcher.queues.map Prod.fst ↔
    ∃ event ∈ expected, event.labels.same labels = true
  /-- … and each queue is that of a label set: what is still to come with
  it. -/
  queue : ∀ key queue, (key, queue) ∈ matcher.queues → ∃ event ∈ expected,
    event.labels.key = key ∧
    queue = matcher.pending.filter fun other => other.labels.same event.labels
  /-- An arrival is compared with the first one of its label set. -/
  head : ∀ labels : Labels,
    matcher.head? labels.key = matcher.pending.find? fun event => event.labels.same labels
  /-- It is taken for the same one when its labels come in another order. -/
  verdict : ∀ (arrival : Notification) (labels : Labels), arrival.labels.same labels = true →
    (matcher.observe { arrival with labels }).toOption.map Prod.fst =
      (matcher.observe arrival).toOption.map Prod.fst
  /-- It may not overtake the first ones of other label sets. -/
  overtaken : ∀ event, matcher.overtaken? event = none ↔
    ∀ head, head.labels.same event.labels = false →
      (matcher.pending.find? fun other => other.labels.same head.labels) = some head →
      head.orderingId < event.orderingId → event.ts < head.ts
  /-- The anchor of a burst is the delay with which it started. -/
  anchor : ∀ (labels : Labels) (burst : Int),
    matcher.anchors.lookup (labels.key, burst) = matcher.startDelay? labels burst

theorem key_eq_iff_same {event : ScheduledNotification} {labels : Labels} :
    event.key = labels.key ↔ event.labels.same labels = true :=
  Labels.key_eq_iff_same _ _

/-! ## The queues of a run -/

/-- A call may shorten a queue, but it neither opens nor closes one. -/
theorem keys_call (matcher : Matcher) (call : Call) :
    (matcher.call call).2.queues.map Prod.fst = matcher.queues.map Prod.fst := by
  rcases call_cases matcher call with ⟨arrival, event, -, -, hcall⟩ | ⟨hsame, -⟩
  · rw [hcall]
    exact keys_dequeue event.key matcher.queues
  · rw [hsame]

theorem keys_after (matcher : Matcher) (calls : List Call) :
    (matcher.after calls).queues.map Prod.fst = matcher.queues.map Prod.fst := by
  induction calls generalizing matcher with
  | nil => rfl
  | cons call rest ih => rw [after, ih, keys_call]

/-- After every run there is a queue for each label set of the schedule, be
it empty by now, and no other. -/
theorem Reaches.mem_keys_iff (h : Reaches expected matcher) :
    key ∈ matcher.queues.map Prod.fst ↔ ∃ event ∈ expected, event.key = key := by
  obtain ⟨start, calls, hnew, rfl⟩ := h
  obtain ⟨-, rfl⟩ := new_eq_ok_iff.mp hnew
  rw [keys_after, mem_keys_foldl_enqueue]
  simp

/-- The queue of a label set is what is still to come with it. -/
theorem Tracks.queueOf_key (h : Tracks expected matcher) (hn : Numbered expected)
    (labels : Labels) :
    queueOf labels.key matcher.queues =
      matcher.pending.filter fun event => event.labels.same labels := by
  rw [← h.filter_pending hn labels.key]
  refine List.filter_congr fun event _ => ?_
  rw [Bool.eq_iff_iff, decide_eq_true_iff, key_eq_iff_same]

theorem Tracks.head?_key (h : Tracks expected matcher) (hn : Numbered expected)
    (labels : Labels) :
    matcher.head? labels.key = matcher.pending.find? fun event => event.labels.same labels := by
  rw [head?_eq, h.queueOf_key hn, List.head?_filter]

/-- A notification may come unless the first one of another label set has a
smaller number and is not due later. -/
theorem Tracks.not_overtaken_iff (h : Tracks expected matcher) (hn : Numbered expected)
    (event : ScheduledNotification) :
    matcher.overtaken? event = none ↔
      ∀ head, head.labels.same event.labels = false →
        (matcher.pending.find? fun other => other.labels.same head.labels) = some head →
        head.orderingId < event.orderingId → event.ts < head.ts := by
  rw [overtaken?_eq_none_iff h.filed]
  constructor
  · intro hall head hother hhead
    rw [← h.head?_key hn, head?_eq] at hhead
    refine hall head.key head (fun hkey => ?_) hhead
    rw [key_eq_iff_same.mp hkey] at hother
    contradiction
  · intro hall key head hkey hhead
    have hown : head.key = key := h.filed.own key head (List.mem_of_head? hhead)
    subst hown
    refine hall head ?_ ?_
    · rwa [← Bool.not_eq_true, ← key_eq_iff_same]
    · rw [← h.head?_key hn, head?_eq]
      exact hhead

/-- The order of the labels of an arrival does not show. -/
theorem observe_same {arrival : Notification} {labels : Labels}
    (h : arrival.labels.same labels = true) :
    (matcher.observe { arrival with labels }).toOption.map Prod.fst =
      (matcher.observe arrival).toOption.map Prod.fst := by
  have hkey : ({ arrival with labels } : Notification).key = arrival.key :=
    ((Labels.key_eq_iff_same _ _).mpr h).symm
  unfold observe
  rw [hkey]
  cases matcher.head? arrival.key with
  | none => rfl
  | some event =>
    -- the reasons for a refusal leave out the labels
    have hfault : matcher.fault? event { arrival with labels } = matcher.fault? event arrival := rfl
    simp only [hfault]
    cases matcher.fault? event arrival <;> rfl

/-! ## The anchors of a run -/

theorem lookup_startDelays_concat (consumed : List (ScheduledNotification × Notification))
    (first : ScheduledNotification) (arrival : Notification) (labels : Labels) (burst : Int) :
    (startDelays (consumed ++ [(first, arrival)])).lookup (labels.key, burst) =
      if starts labels burst (first, arrival) then some (arrival.receivedAt - first.ts)
      else (startDelays consumed).lookup (labels.key, burst) := by
  rw [startDelays_concat]
  cases hresend : first.resend with
  | true => simp [starts, hresend]
  | false =>
    have hstarts : ((labels.key, burst) == (first.key, first.burst)) =
        starts labels burst (first, arrival) := by
      rw [Bool.eq_iff_iff]
      simp only [beq_iff_eq, Prod.mk.injEq, starts, hresend, Bool.not_false,
        Bool.true_and, Bool.and_eq_true, decide_eq_true_eq, ← key_eq_iff_same]
      exact and_congr eq_comm eq_comm
    rw [if_neg Bool.false_ne_true, List.lookup_cons, hstarts]
    cases starts labels burst (first, arrival) <;> rfl

/-- The anchor of a burst is the delay with which it started last. -/
theorem lookup_startDelays (consumed : List (ScheduledNotification × Notification))
    (labels : Labels) (burst : Int) :
    (startDelays consumed).lookup (labels.key, burst) =
      (consumed.findRev? (starts labels burst)).map fun (first, arrival) =>
        arrival.receivedAt - first.ts := by
  rw [List.findRev?_eq_find?_reverse]
  induction consumed using List.reverseRecOn with
  | nil => rfl
  | append_singleton rest entry ih =>
    obtain ⟨first, arrival⟩ := entry
    rw [lookup_startDelays_concat, ih, List.reverse_concat, List.find?_cons]
    cases starts labels burst (first, arrival) <;> rfl

/-- **Queues and anchors**: in every state that a run leads to, whatever a
matcher keeps of an alert is kept by its label set. -/
theorem Reaches.identifies (h : Reaches expected matcher) : matcher.Identifies expected where
  distinct := h.tracks.filed.distinct
  filed labels := by
    rw [h.mem_keys_iff]
    simp only [key_eq_iff_same]
  queue key queue hmem := by
    obtain ⟨event, hevent, rfl⟩ := h.mem_keys_iff.mp (List.mem_map.mpr ⟨_, hmem, rfl⟩)
    refine ⟨event, hevent, rfl, ?_⟩
    rw [← h.tracks.filed.queueOf_eq hmem]
    exact h.tracks.queueOf_key h.numbered event.labels
  head := h.tracks.head?_key h.numbered
  verdict _ _ := observe_same
  overtaken := h.tracks.not_overtaken_iff h.numbered
  anchor labels burst := by
    rw [h.tracks.anchors, startDelay?, lookup_startDelays]

end AlertConformance.Matcher
