/-
AlertConformance.Proofs.Matcher.Run — sequences of calls on a matcher.

A run is any sequence of calls, accepted and refused ones mixed. Whatever
it does, the state is a function of what was accepted: the queues hold the
rest of the schedule, the anchors the delays of the bursts that started.

* `log`, `after` — what a sequence of calls answers, and the state it ends
  in.
* `call_cases` — a call accepts one notification or changes nothing.
* `new_eq_ok_iff` — the state that a run starts in.
* `Tracks` — the state of a matcher, told from what it has accepted.
* `Tracks.after` — every run keeps it.
* `Reaches` — the states that runs on a new matcher lead to.
* `took_iff_mem_consumed` — what is consumed is what the calls returned.
-/
import AlertConformance.Proofs.Matcher.Arrival

namespace AlertConformance.Matcher

/-! ## Calls -/

/-- A call on a matcher. -/
inductive Call where
  | observe (arrival : Notification)
  | finish (now : Int)
  | pending
  | due (event : ScheduledNotification)

/-- The answer of a call that does not fail. -/
inductive Answer where
  | taken (event : ScheduledNotification)
  | inTime
  | pending (events : List ScheduledNotification)
  | due (time : Int)

/-- A call: its answer, and the state after it. -/
def call (matcher : Matcher) : Call → Result Answer × Matcher
  | .observe arrival =>
    match matcher.observe arrival with
    | .ok (event, next) => (.ok (.taken event), next)
    | .error error => (.error error, matcher)
  | .finish now => ((matcher.finish now).map fun _ => .inTime, matcher)
  | .pending => (.ok (.pending matcher.pending), matcher)
  | .due event => (.ok (.due (matcher.due event)), matcher)

/-- The calls of a sequence with their answers. -/
def log (matcher : Matcher) : List Call → List (Call × Result Answer)
  | [] => []
  | call :: rest => (call, (matcher.call call).1) :: (matcher.call call).2.log rest

/-- The state after a sequence of calls. -/
def after (matcher : Matcher) : List Call → Matcher
  | [] => matcher
  | call :: rest => (matcher.call call).2.after rest

/-- Some call of the sequence was for `arrival` and returned `event`. -/
def Took (matcher : Matcher) (calls : List Call) (event : ScheduledNotification)
    (arrival : Notification) : Prop :=
  (.observe arrival, .ok (.taken event)) ∈ matcher.log calls

variable {matcher start : Matcher} {expected : List ScheduledNotification}
  {event : ScheduledNotification} {arrival : Notification} {calls : List Call}

theorem observe_next {next : Matcher} (h : matcher.observe arrival = .ok (event, next)) :
    next = matcher.consume event arrival := by
  unfold observe at h
  split at h
  · simp at h
  · split at h
    · simp at h
    · simp only [Except.ok.injEq, Prod.mk.injEq] at h
      rw [← h.2, h.1]

/-- A call accepts an arrival, or leaves the state as it is. -/
theorem call_cases (matcher : Matcher) (call : Call) :
    (∃ arrival event, call = .observe arrival ∧
      matcher.observe arrival = .ok (event, matcher.consume event arrival) ∧
      matcher.call call = (.ok (.taken event), matcher.consume event arrival)) ∨
    ((matcher.call call).2 = matcher ∧ ∀ event, (matcher.call call).1 ≠ .ok (.taken event)) := by
  cases call with
  | observe arrival =>
    cases h : matcher.observe arrival with
    | ok taken =>
      obtain ⟨event, next⟩ := taken
      have hnext := observe_next h
      subst hnext
      exact .inl ⟨arrival, event, rfl, h, by simp [Matcher.call, h]⟩
    | error error => exact .inr (by simp [Matcher.call, h])
  | finish now =>
    refine .inr ⟨rfl, fun event => ?_⟩
    cases h : matcher.finish now <;> simp [Matcher.call, h, Except.map]
  | pending => exact .inr (by simp [Matcher.call])
  | due event => exact .inr (by simp [Matcher.call])

/-- A call that fails leaves the state as it is. -/
theorem call_error {call : Call} {error : Error} (h : (matcher.call call).1 = .error error) :
    (matcher.call call).2 = matcher := by
  rcases call_cases matcher call with ⟨arrival, event, -, -, hcall⟩ | ⟨hsame, -⟩
  · rw [hcall] at h
    simp at h
  · exact hsame

/-! ## What was accepted -/

/-- The scheduled notifications that were accepted, in order of arrival. -/
def taken (matcher : Matcher) : List ScheduledNotification := matcher.consumed.map Prod.fst

@[simp] theorem consume_taken (matcher : Matcher) (event : ScheduledNotification)
    (arrival : Notification) :
    (matcher.consume event arrival).taken = matcher.taken ++ [event] := by
  simp [taken, consume]

/-- The pairs consumed by a run are those that its calls returned, after
the ones from before. -/
theorem mem_consumed_after :
    (event, arrival) ∈ (matcher.after calls).consumed ↔
      (event, arrival) ∈ matcher.consumed ∨ matcher.Took calls event arrival := by
  induction calls generalizing matcher with
  | nil => simp [after, Took, log]
  | cons call rest ih =>
    rw [after, ih]
    simp only [Took, log, List.mem_cons]
    rcases call_cases matcher call with ⟨other, first, rfl, -, hcall⟩ | ⟨hsame, hnot⟩
    · simp only [hcall, consume, List.mem_append, List.mem_singleton, Prod.mk.injEq,
        Call.observe.injEq, Except.ok.injEq, Answer.taken.injEq]
      rw [and_comm, or_assoc]
    · have hhead : ((Call.observe arrival, Except.ok (Answer.taken event)) :
          Call × Result Answer) ≠ (call, (matcher.call call).1) :=
        fun heq => hnot event (Prod.mk.inj heq).2.symm
      rw [hsame]
      simp [hhead]

/-! ## Anchors -/

/-- The delays of the bursts that started, latest first. -/
def startDelays (consumed : List (ScheduledNotification × Notification)) :
    List ((LabelKey × Int) × Int) :=
  ((consumed.filter fun (event, _) => !event.resend).map fun (event, arrival) =>
    ((event.key, event.burst), arrival.receivedAt - event.ts)).reverse

theorem startDelays_concat (consumed : List (ScheduledNotification × Notification))
    (event : ScheduledNotification) (arrival : Notification) :
    startDelays (consumed ++ [(event, arrival)]) =
      if event.resend then startDelays consumed
      else ((event.key, event.burst), arrival.receivedAt - event.ts) :: startDelays consumed := by
  cases h : event.resend <;> simp [startDelays, h]

theorem mem_startDelays {consumed : List (ScheduledNotification × Notification)}
    {key : LabelKey} {burst delay : Int} :
    ((key, burst), delay) ∈ startDelays consumed ↔
      ∃ first arrival, (first, arrival) ∈ consumed ∧ first.resend = false ∧ first.key = key ∧
        first.burst = burst ∧ delay = arrival.receivedAt - first.ts := by
  simp only [startDelays, List.mem_reverse, List.mem_map, List.mem_filter, Bool.not_eq_true',
    Prod.exists, Prod.mk.injEq]
  constructor
  · rintro ⟨first, arrival, ⟨hmem, hfirst⟩, ⟨hkey, hburst⟩, hdelay⟩
    exact ⟨first, arrival, hmem, hfirst, hkey, hburst, hdelay.symm⟩
  · rintro ⟨first, arrival, hmem, hfirst, hkey, hburst, hdelay⟩
    exact ⟨first, arrival, ⟨hmem, hfirst⟩, ⟨hkey, hburst⟩, hdelay.symm⟩

/-! ## The state of a run -/

/-- The state of a matcher for a schedule, told from what it accepted: of
each label set the accepted notifications and the queue are those of the
schedule, in order, and the anchors are the delays of the bursts that
started. -/
structure Tracks (expected : List ScheduledNotification) (matcher : Matcher) : Prop where
  filed : Filed matcher.queues
  split : ∀ key, matcher.taken.filter (fun event => event.key = key) ++
    queueOf key matcher.queues = expected.filter (fun event => event.key = key)
  anchors : matcher.anchors = startDelays matcher.consumed
  total : matcher.total = expected.length

/-- A new matcher has queued all of the schedule, whose numbers have no
fault, and nothing else. -/
theorem new_eq_ok_iff :
    Matcher.new expected = .ok start ↔
      idFault? 0 expected = none ∧
      start = {
        queues := expected.foldl (fun queues event => enqueue event queues) []
        anchors := []
        total := expected.length
        consumed := [] } := by
  unfold Matcher.new
  cases idFault? 0 expected with
  | none => simp [eq_comm]
  | some fault => simp

theorem Tracks.new (h : Matcher.new expected = .ok start) : Tracks expected start := by
  obtain ⟨-, rfl⟩ := new_eq_ok_iff.mp h
  exact ⟨Filed.nil.foldl_enqueue expected, fun key => by simp [taken, queueOf_foldl_enqueue],
    rfl, rfl⟩

theorem consumed_new (h : Matcher.new expected = .ok start) : start.consumed = [] := by
  obtain ⟨-, rfl⟩ := new_eq_ok_iff.mp h
  rfl

/-- One step: consuming the head of a queue moves it from the queue to
what was accepted, and leaves the other queues. -/
theorem Tracks.consume (h : Tracks expected matcher)
    (hhead : (queueOf event.key matcher.queues).head? = some event) :
    Tracks expected (matcher.consume event arrival) where
  filed := h.filed.dequeue event.key
  split key := by
    rw [consume_taken, List.filter_append, ← h.split key, List.append_assoc]
    simp only [Matcher.consume, queueOf_dequeue]
    split
    · rename_i hkey
      subst hkey
      rw [← List.cons_head?_tail hhead]
      simp
    · rename_i hkey
      simp [Ne.symm hkey]
  anchors := by
    simp only [Matcher.consume, startDelays_concat, h.anchors]
  total := h.total

theorem Tracks.observe (h : Tracks expected matcher) {next : Matcher}
    (hok : matcher.observe arrival = .ok (event, next)) : Tracks expected next := by
  obtain ⟨hhead, -, -, rfl⟩ := (observe_eq_ok_iff h.filed).mp hok
  exact h.consume hhead

theorem Tracks.call (h : Tracks expected matcher) (call : Call) :
    Tracks expected (matcher.call call).2 := by
  rcases call_cases matcher call with ⟨arrival, event, -, hok, hcall⟩ | ⟨hsame, -⟩
  · rw [hcall]
    exact h.observe hok
  · rw [hsame]
    exact h

/-- **The run**: every sequence of calls keeps the state in step with what
was accepted. -/
theorem Tracks.after (h : Tracks expected matcher) (calls : List Call) :
    Tracks expected (matcher.after calls) := by
  induction calls generalizing matcher with
  | nil => exact h
  | cons call rest ih => exact ih (h.call call)

/-- Some sequence of calls on a new matcher for a schedule leads to a
state. -/
def Reaches (expected : List ScheduledNotification) (matcher : Matcher) : Prop :=
  ∃ start calls, Matcher.new expected = .ok start ∧ start.after calls = matcher

theorem Reaches.tracks (h : Reaches expected matcher) : Tracks expected matcher := by
  obtain ⟨start, calls, hnew, rfl⟩ := h
  exact (Tracks.new hnew).after calls

/-- What a run on a fresh matcher consumed is what its calls returned. -/
theorem took_iff_mem_consumed (h : Matcher.new expected = .ok start) :
    start.Took calls event arrival ↔ (event, arrival) ∈ (start.after calls).consumed := by
  simp [mem_consumed_after, consumed_new h]

end AlertConformance.Matcher
