/-
AlertConformance.Matcher — matching notifications with a schedule.

The notifications of one alert have to arrive in the order of the
schedule, so the matcher keeps a queue for each label set and compares an
arrival with the head of its queue. The first notification of a burst may
be late within its tolerance; its resends are then due later by as much,
the anchor of the burst. Between alerts, a notification may not overtake
one that was generated before it and is not due after it.

* `Matcher.observe` — an arrival: the notification it is taken for and the
  next state, or why it is refused. A refused one changes nothing.
* `Matcher.finish` — fails when the window of a notification is over.
* `due`, `pending`, `complete` — what is still to come.
-/
import AlertConformance.Error

namespace AlertConformance

/-- What has arrived and what is still to come. -/
structure Matcher where
  queues : List (LabelKey × List ScheduledNotification)
  anchors : List ((LabelKey × Int) × Int)
  total : Nat
  consumed : List (ScheduledNotification × Notification)

namespace Matcher

/-! ## Setting up -/

/-- Put a notification at the end of the queue of its label set. -/
def enqueue (event : ScheduledNotification) :
    List (LabelKey × List ScheduledNotification) → List (LabelKey × List ScheduledNotification)
  | [] => [(event.key, [event])]
  | (key, queue) :: rest =>
    if key = event.key then (key, queue ++ [event]) :: rest
    else (key, queue) :: enqueue event rest

/-- The first number that does not exceed the one before it. -/
def idFault? (previous : Int) : List ScheduledNotification → Option DefinitionFault
  | [] => none
  | event :: rest =>
    if event.orderingId ≤ previous then some (.orderingIds event.orderingId previous)
    else idFault? event.orderingId rest

/-- A matcher for a schedule whose numbers are positive and increase. -/
def new (expected : List ScheduledNotification) : Result Matcher :=
  match idFault? 0 expected with
  | some fault => .error (.definition fault)
  | none => .ok {
      queues := expected.foldl (fun queues event => enqueue event queues) []
      anchors := []
      total := expected.length
      consumed := [] }

/-! ## What is still to come -/

/-- How late the burst of a notification started. -/
def anchor (matcher : Matcher) (event : ScheduledNotification) : Int :=
  (matcher.anchors.lookup (event.key, event.burst)).getD 0

/-- When a notification is due. -/
def due (matcher : Matcher) (event : ScheduledNotification) : Int :=
  if event.resend then event.ts + matcher.anchor event else event.ts

/-- The notifications still to come, in order of their numbers. -/
def pending (matcher : Matcher) : List ScheduledNotification :=
  (matcher.queues.flatMap Prod.snd).mergeSort fun a b => a.orderingId ≤ b.orderingId

def complete (matcher : Matcher) : Bool := matcher.consumed.length = matcher.total

/-- The next notification of a label set. -/
def head? (matcher : Matcher) (key : LabelKey) : Option ScheduledNotification :=
  (matcher.queues.lookup key).bind List.head?

/-! ## Arrivals -/

/-- Why the end of an arrival is refused. A firing one has to expire some
time after it was received, a resolved one when its alert resolved. -/
def endFault? (matcher : Matcher) (event : ScheduledNotification) (arrival : Notification) :
    Option RejectionCause :=
  match arrival.endsAt with
  | none => some .noEndsAt
  | some endsAt =>
    let expected :=
      if event.resolved then
        if event.resend then event.resolvedTime + matcher.anchor event else event.resolvedTime
      else arrival.receivedAt + event.endsAtDelta
    if event.tolerance < (endsAt - expected).natAbs then some (.endsAt endsAt expected) else none

/-- The first queue whose head has to arrive before a notification: one of
another label set, generated before it and not due after it. -/
def overtaken? (matcher : Matcher) (event : ScheduledNotification) :
    Option ScheduledNotification :=
  matcher.queues.findSome? fun (key, queue) =>
    match queue with
    | [] => none
    | head :: _ =>
      if key ≠ event.key ∧ head.orderingId < event.orderingId ∧ head.ts ≤ event.ts then some head
      else none

/-- Why an arrival is not taken for the head of its queue. -/
def fault? (matcher : Matcher) (event : ScheduledNotification) (arrival : Notification) :
    Option RejectionCause :=
  let delay := arrival.receivedAt - matcher.due event
  if event.tolerance < delay.natAbs then some (.offSchedule delay)
  else if arrival.resolved ≠ event.resolved then
    some (.wrongState arrival.resolved event.resolved)
  else if !arrival.annotations.same event.annotations then some .annotations
  else if event.tolerance < (arrival.startsAt - event.startsAt).natAbs then some .startsAt
  else
    (matcher.endFault? event arrival).or <|
      (matcher.overtaken? event).map fun owed => .outOfOrder event.orderingId owed.orderingId

/-- Take the head off the queue of a label set. -/
def dequeue (key : LabelKey) :
    List (LabelKey × List ScheduledNotification) → List (LabelKey × List ScheduledNotification)
  | [] => []
  | (other, queue) :: rest =>
    if other = key then (other, queue.tail) :: rest else (other, queue) :: dequeue key rest

/-- The state after an arrival was taken for the head of its queue. The
first notification of a burst sets its anchor. -/
def consume (matcher : Matcher) (event : ScheduledNotification) (arrival : Notification) :
    Matcher where
  queues := dequeue event.key matcher.queues
  anchors :=
    if event.resend then matcher.anchors
    else ((event.key, event.burst), arrival.receivedAt - event.ts) :: matcher.anchors
  total := matcher.total
  consumed := matcher.consumed ++ [(event, arrival)]

/-- An arrival: the notification it is taken for, and the next state. -/
def observe (matcher : Matcher) (arrival : Notification) :
    Result (ScheduledNotification × Matcher) :=
  match matcher.head? arrival.key with
  | none => .error (.rejection ⟨.notExpected, some arrival, none⟩)
  | some event =>
    match matcher.fault? event arrival with
    | some cause => .error (.rejection ⟨cause, some arrival, some event⟩)
    | none => .ok (event, matcher.consume event arrival)

/-! ## The end -/

/-- The notifications whose windows closed before a time. -/
def overdue (matcher : Matcher) (now : Int) : List ScheduledNotification :=
  matcher.pending.filter fun event => matcher.due event + event.tolerance < now

/-- Fail when the window of a notification closed before a time. -/
def finish (matcher : Matcher) (now : Int) : Result Unit :=
  match matcher.overdue now with
  | [] => .ok ()
  | first :: rest => .error (.rejection ⟨.neverArrived (rest.length + 1), none, some first⟩)

end Matcher

end AlertConformance
