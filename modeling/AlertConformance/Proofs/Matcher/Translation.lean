/-
AlertConformance.Proofs.Matcher.Translation — a matcher does not know what
time it is.

When a schedule and all calls on its matcher are moved by the same offset,
the matcher does what it did before, that much later. Times enter it as
differences only: the anchor of a burst is one, and so is every tolerance.
A time that is moved twice, or not at all, would show up here.

* `ScheduledNotification.shifted`, `Notification.shifted` — a time later.
* `Matcher.shifted`, `Call.shifted`, `Answer.shifted` — states, calls and
  answers.
* `due_shifted`, `fault?_shifted`, `consume_shifted` — what one arrival
  meets and leaves.
* `call_shifted` — one call.
* `log_shifted` — any sequence of calls.
* `Verdict`, `Translates` — what the calls decide, and that it does not
  depend on when they are made.
-/
import AlertConformance.Proofs.Matcher.Run

namespace AlertConformance

variable (offset : Int)

/-! ## Records -/

/-- What is waited for, an offset later. -/
def ScheduledNotification.shifted (event : ScheduledNotification) : ScheduledNotification :=
  { event with
    startsAt := event.startsAt + offset
    ts := event.ts + offset
    resolvedTime := event.resolvedTime + offset
    nextState := event.nextState.map (· + offset) }

/-- What arrives, an offset later. -/
def Notification.shifted (arrival : Notification) : Notification :=
  { arrival with
    startsAt := arrival.startsAt + offset
    endsAt := arrival.endsAt.map (· + offset)
    receivedAt := arrival.receivedAt + offset }

/-- The causes that name times. -/
def RejectionCause.shifted : RejectionCause → RejectionCause
  | .endsAt actual expected => .endsAt (actual + offset) (expected + offset)
  | cause => cause

def Rejection.shifted (rejection : Rejection) : Rejection where
  cause := rejection.cause.shifted offset
  received := rejection.received.map (Notification.shifted offset)
  expected := rejection.expected.map (ScheduledNotification.shifted offset)

/-- Of the errors of a matcher only rejections have times. -/
def Error.shifted : Error → Error
  | .rejection refused => .rejection (refused.shifted offset)
  | error => error

namespace Matcher

variable {offset} {matcher : Matcher} {event : ScheduledNotification} {arrival : Notification}

/-- The queues of a schedule, an offset later. -/
def shiftedQueues (offset : Int) (queues : List (LabelKey × List ScheduledNotification)) :
    List (LabelKey × List ScheduledNotification) :=
  queues.map fun (key, queue) => (key, queue.map (ScheduledNotification.shifted offset))

/-- A state, an offset later. Anchors are delays and stay as they are. -/
def shifted (offset : Int) (matcher : Matcher) : Matcher where
  queues := shiftedQueues offset matcher.queues
  anchors := matcher.anchors
  total := matcher.total
  consumed := matcher.consumed.map fun (event, arrival) =>
    (event.shifted offset, arrival.shifted offset)

def Call.shifted (offset : Int) : Call → Call
  | .observe arrival => .observe (arrival.shifted offset)
  | .finish now => .finish (now + offset)
  | .pending => .pending
  | .due event => .due (event.shifted offset)

def Answer.shifted (offset : Int) : Answer → Answer
  | .taken event => .taken (event.shifted offset)
  | .inTime => .inTime
  | .pending events => .pending (events.map (ScheduledNotification.shifted offset))
  | .due time => .due (time + offset)

/-- An answer or an error, an offset later. -/
def shiftedResult (offset : Int) : Result Answer → Result Answer
  | .ok answer => .ok (answer.shifted offset)
  | .error error => .error (error.shifted offset)

/-! ## Setting up -/

theorem enqueue_shifted (queues : List (LabelKey × List ScheduledNotification)) :
    enqueue (event.shifted offset) (shiftedQueues offset queues) =
      shiftedQueues offset (enqueue event queues) := by
  induction queues with
  | nil => rfl
  | cons head rest ih =>
    obtain ⟨key, queue⟩ := head
    by_cases hkey : key = event.key
    · have hshifted : key = (event.shifted offset).key := hkey
      simp only [shiftedQueues, List.map_cons, enqueue, if_pos hkey, if_pos hshifted,
        List.map_append, List.map_nil]
    · have hshifted : key ≠ (event.shifted offset).key := hkey
      simp only [shiftedQueues] at ih
      simp only [shiftedQueues, List.map_cons, enqueue, if_neg hkey, if_neg hshifted, ih]

theorem idFault?_shifted (previous : Int) (expected : List ScheduledNotification) :
    idFault? previous (expected.map (ScheduledNotification.shifted offset)) =
      idFault? previous expected := by
  induction expected generalizing previous with
  | nil => rfl
  | cons event rest ih =>
    simp only [List.map_cons, idFault?, ih]
    rfl

theorem foldl_enqueue_shifted (offset : Int) (expected : List ScheduledNotification)
    (queues : List (LabelKey × List ScheduledNotification)) :
    (expected.map (ScheduledNotification.shifted offset)).foldl
        (fun queues event => enqueue event queues) (shiftedQueues offset queues) =
      shiftedQueues offset (expected.foldl (fun queues event => enqueue event queues) queues) := by
  induction expected generalizing queues with
  | nil => rfl
  | cons event rest ih => rw [List.map_cons, List.foldl_cons, enqueue_shifted, ih, List.foldl_cons]

/-- **Setting up**: a schedule is refused with the same fault whenever it
is. -/
theorem new_shifted (offset : Int) (expected : List ScheduledNotification) :
    Matcher.new (expected.map (ScheduledNotification.shifted offset)) =
      (Matcher.new expected).map (shifted offset) := by
  unfold Matcher.new
  rw [idFault?_shifted]
  cases idFault? 0 expected with
  | some fault => rfl
  | none =>
    have hqueues := foldl_enqueue_shifted offset expected []
    simp only [Except.map, shifted, List.length_map, List.map_nil]
    exact congrArg _ (congrArg (Matcher.mk · [] expected.length []) hqueues)

/-! ## What is still to come -/

theorem anchor_shifted : (matcher.shifted offset).anchor (event.shifted offset) =
    matcher.anchor event := rfl

/-- Every due time moves with the schedule. -/
theorem due_shifted (offset : Int) (matcher : Matcher) (event : ScheduledNotification) :
    (matcher.shifted offset).due (event.shifted offset) = matcher.due event + offset := by
  show (if event.resend = true then event.ts + offset + matcher.anchor event
      else event.ts + offset) =
    (if event.resend = true then event.ts + matcher.anchor event else event.ts) + offset
  split <;> omega

theorem pending_shifted : (matcher.shifted offset).pending =
    matcher.pending.map (ScheduledNotification.shifted offset) := by
  have hsort := List.map_mergeSort (r := fun a b => decide (a.orderingId ≤ b.orderingId))
    (s := fun a b => decide (a.orderingId ≤ b.orderingId))
    (f := ScheduledNotification.shifted offset) (l := matcher.queues.flatMap Prod.snd)
    fun _ _ _ _ => rfl
  rw [pending, pending, hsort, List.map_flatMap, shifted, shiftedQueues, List.flatMap_map]

theorem lookup_shifted (key : LabelKey)
    (queues : List (LabelKey × List ScheduledNotification)) :
    (shiftedQueues offset queues).lookup key =
      (queues.lookup key).map (List.map (ScheduledNotification.shifted offset)) := by
  induction queues with
  | nil => rfl
  | cons head rest ih =>
    obtain ⟨other, queue⟩ := head
    simp only [shiftedQueues, List.map_cons, List.lookup_cons] at ih ⊢
    cases key == other with
    | true => rfl
    | false => exact ih

theorem head?_shifted (key : LabelKey) : (matcher.shifted offset).head? key =
    (matcher.head? key).map (ScheduledNotification.shifted offset) := by
  unfold head?
  simp only [shifted, lookup_shifted]
  cases matcher.queues.lookup key with
  | none => rfl
  | some queue => exact List.head?_map

/-! ## Arrivals -/

/-- The end that is announced moves with the schedule. -/
theorem endAfter_shifted (delay receivedAt : Int) :
    (event.shifted offset).endAfter delay (receivedAt + offset) =
      event.endAfter delay receivedAt + offset := by
  show (if event.resolved = true then
      if event.resend = true then event.resolvedTime + offset + delay
      else event.resolvedTime + offset
    else receivedAt + offset + event.endsAtDelta) =
    (if event.resolved = true then
      if event.resend = true then event.resolvedTime + delay else event.resolvedTime
    else receivedAt + event.endsAtDelta) + offset
  split
  · split <;> omega
  · omega

theorem endFault?_some {endsAt : Int} (h : arrival.endsAt = some endsAt) :
    matcher.endFault? event arrival =
      let expected := event.endAfter (matcher.anchor event) arrival.receivedAt
      if event.tolerance < (endsAt - expected).natAbs then some (.endsAt endsAt expected)
      else none := by
  rw [endFault?, h]
  rfl

theorem endFault?_shifted :
    (matcher.shifted offset).endFault? (event.shifted offset) (arrival.shifted offset) =
      (matcher.endFault? event arrival).map (RejectionCause.shifted offset) := by
  cases hend : arrival.endsAt with
  | none =>
    have hshifted : (arrival.shifted offset).endsAt = none := by
      rw [Notification.shifted, hend]
      rfl
    rw [endFault?, endFault?, hend, hshifted]
    rfl
  | some endsAt =>
    have hshifted : (arrival.shifted offset).endsAt = some (endsAt + offset) := by
      rw [Notification.shifted, hend]
      rfl
    have htime : (arrival.shifted offset).receivedAt = arrival.receivedAt + offset := rfl
    simp only [endFault?_some hend, endFault?_some hshifted, anchor_shifted, htime,
      endAfter_shifted, Int.add_sub_add_right]
    show (if event.tolerance < _ then _ else _) = _
    split <;> rfl

/-- What is overtaken stays the same: the numbers do not move, and the
times move together. -/
theorem overtaken?_shifted : (matcher.shifted offset).overtaken? (event.shifted offset) =
    (matcher.overtaken? event).map (ScheduledNotification.shifted offset) := by
  rw [overtaken?, overtaken?, shifted, shiftedQueues, List.findSome?_map, List.map_findSome?]
  refine congrArg (List.findSome? · matcher.queues) (funext fun (key, queue) => ?_)
  cases queue with
  | nil => rfl
  | cons head rest =>
    show (if key ≠ event.key ∧ head.orderingId < event.orderingId ∧
        head.ts + offset ≤ event.ts + offset then some (head.shifted offset) else none) =
      Option.map (ScheduledNotification.shifted offset)
        (if key ≠ event.key ∧ head.orderingId < event.orderingId ∧ head.ts ≤ event.ts then some head
          else none)
    simp only [Int.add_le_add_iff_right]
    split <;> rfl

/-- **One arrival** is refused for the same cause whenever it comes. -/
theorem fault?_shifted :
    (matcher.shifted offset).fault? (event.shifted offset) (arrival.shifted offset) =
      (matcher.fault? event arrival).map (RejectionCause.shifted offset) := by
  have hdelay : (arrival.shifted offset).receivedAt -
      (matcher.shifted offset).due (event.shifted offset) =
        arrival.receivedAt - matcher.due event := by
    rw [due_shifted]
    exact Int.add_sub_add_right ..
  have hstart : (arrival.shifted offset).startsAt - (event.shifted offset).startsAt =
      arrival.startsAt - event.startsAt := Int.add_sub_add_right ..
  rw [fault?, fault?, hdelay, hstart, endFault?_shifted, overtaken?_shifted]
  show (if event.tolerance < _ then _
    else if arrival.resolved ≠ event.resolved then _
    else if !arrival.annotations.same event.annotations then _
    else if event.tolerance < _ then _ else _) = _
  split
  · rfl
  split
  · rfl
  split
  · rfl
  split
  · rfl
  cases matcher.endFault? event arrival with
  | some cause => rfl
  | none =>
    cases matcher.overtaken? event with
    | some owed => rfl
    | none => rfl

theorem dequeue_shifted (key : LabelKey)
    (queues : List (LabelKey × List ScheduledNotification)) :
    dequeue key (shiftedQueues offset queues) = shiftedQueues offset (dequeue key queues) := by
  induction queues with
  | nil => rfl
  | cons head rest ih =>
    obtain ⟨other, queue⟩ := head
    simp only [shiftedQueues, List.map_cons, dequeue] at ih ⊢
    split
    · rw [List.map_cons, List.map_tail]
    · rw [List.map_cons, ih]

/-- The state that is left is the same: an anchor is how late a burst
started, not when. -/
theorem consume_shifted :
    (matcher.shifted offset).consume (event.shifted offset) (arrival.shifted offset) =
      (matcher.consume event arrival).shifted offset := by
  have hanchor : (arrival.shifted offset).receivedAt - (event.shifted offset).ts =
      arrival.receivedAt - event.ts := Int.add_sub_add_right ..
  refine (Matcher.mk.injEq ..).mpr ⟨dequeue_shifted event.key matcher.queues, ?_, rfl, ?_⟩
  · rw [hanchor]
    rfl
  · show _ = (matcher.consumed ++ [(event, arrival)]).map _
    rw [List.map_append]
    rfl

theorem observe_shifted :
    (matcher.shifted offset).observe (arrival.shifted offset) =
      match matcher.observe arrival with
      | .ok (event, next) => .ok (event.shifted offset, next.shifted offset)
      | .error error => .error (error.shifted offset) := by
  have hkey : (arrival.shifted offset).key = arrival.key := rfl
  rw [observe, observe, hkey, head?_shifted]
  cases matcher.head? arrival.key with
  | none => rfl
  | some event =>
    simp only [Option.map_some, fault?_shifted]
    cases matcher.fault? event arrival with
    | none => simp only [Option.map_none, consume_shifted]
    | some cause => rfl

/-! ## The end -/

theorem overdue_shifted (now : Int) : (matcher.shifted offset).overdue (now + offset) =
    (matcher.overdue now).map (ScheduledNotification.shifted offset) := by
  rw [overdue, overdue, pending_shifted, List.filter_map]
  refine congrArg _ (List.filter_congr fun event _ => ?_)
  rw [Function.comp_apply, due_shifted, decide_eq_decide]
  show matcher.due event + offset + event.tolerance < now + offset ↔ _
  omega

theorem finish_shifted (now : Int) : (matcher.shifted offset).finish (now + offset) =
    (matcher.finish now).mapError (Error.shifted offset) := by
  rw [finish, finish, overdue_shifted]
  cases matcher.overdue now with
  | nil => rfl
  | cons first rest =>
    simp only [List.map_cons, List.length_map]
    rfl

/-! ## Calls -/

/-- **One call**: the answer and the state after it move with the call. -/
theorem call_shifted (matcher : Matcher) (call : Call) :
    (matcher.shifted offset).call (call.shifted offset) =
      (shiftedResult offset (matcher.call call).1, (matcher.call call).2.shifted offset) := by
  cases call with
  | observe arrival =>
    simp only [Call.shifted, Matcher.call, observe_shifted]
    cases matcher.observe arrival with
    | ok taken => rfl
    | error error => rfl
  | finish now =>
    simp only [Call.shifted, Matcher.call, finish_shifted]
    cases matcher.finish now with
    | ok _ => rfl
    | error error => rfl
  | pending =>
    simp only [Call.shifted, Matcher.call, pending_shifted]
    rfl
  | due event =>
    simp only [Call.shifted, Matcher.call, due_shifted]
    rfl

/-- **Any sequence of calls**: all answers move with the calls. -/
theorem log_shifted (matcher : Matcher) (calls : List Call) :
    (matcher.shifted offset).log (calls.map (Call.shifted offset)) =
      (matcher.log calls).map fun (call, result) =>
        (call.shifted offset, shiftedResult offset result) := by
  induction calls generalizing matcher with
  | nil => rfl
  | cons call rest ih => rw [List.map_cons, log, call_shifted, ih, log, List.map_cons]

/-- The state after them moves too. -/
theorem after_shifted (matcher : Matcher) (calls : List Call) :
    (matcher.shifted offset).after (calls.map (Call.shifted offset)) =
      (matcher.after calls).shifted offset := by
  induction calls generalizing matcher with
  | nil => rfl
  | cons call rest ih => rw [List.map_cons, after, call_shifted, ih, after]

/-! ## Verdicts -/

/-- What a call decides. -/
inductive Verdict where
  | failed
  | passed
  | taken (orderingId : Int)
  deriving DecidableEq, Repr

def verdict : Result Answer → Verdict
  | .ok (.taken event) => .taken event.orderingId
  | .ok _ => .passed
  | .error _ => .failed

theorem verdict_shifted (result : Result Answer) :
    verdict (shiftedResult offset result) = verdict result := by
  cases result with
  | ok answer => cases answer <;> rfl
  | error error => rfl

/-- What a sequence of calls decides. -/
def verdicts (matcher : Matcher) (calls : List Call) : List Verdict :=
  (matcher.log calls).map fun (_, result) => verdict result

/-- A sequence of calls on a state does not depend on the time: all that it
answers moves with it, it decides the same, and so do the due times after
it. -/
structure Translates (offset : Int) (matcher : Matcher) (calls : List Call) : Prop where
  log : (matcher.shifted offset).log (calls.map (Call.shifted offset)) =
    (matcher.log calls).map fun (call, result) =>
      (call.shifted offset, shiftedResult offset result)
  verdicts : (matcher.shifted offset).verdicts (calls.map (Call.shifted offset)) =
    matcher.verdicts calls
  due : ∀ event : ScheduledNotification,
    ((matcher.shifted offset).after (calls.map (Call.shifted offset))).due (event.shifted offset) =
      (matcher.after calls).due event + offset

theorem translates (offset : Int) (matcher : Matcher) (calls : List Call) :
    Translates offset matcher calls where
  log := log_shifted matcher calls
  verdicts := by
    rw [Matcher.verdicts, log_shifted, List.map_map, Matcher.verdicts]
    exact List.map_congr_left fun (_, result) _ => verdict_shifted result
  due event := by rw [after_shifted, due_shifted]

end Matcher

end AlertConformance
