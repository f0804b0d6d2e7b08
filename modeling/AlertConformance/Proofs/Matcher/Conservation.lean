/-
AlertConformance.Proofs.Matcher.Conservation — nothing is lost and nothing
is made up.

Whatever is called, what was accepted and what is still to come are
together the schedule, each notification once, and of one alert they are
its notifications in their order. No assumption is made on the schedule
but that its numbers are positive and increase, which a matcher checks.

* `Numbered` — the schedules that a matcher accepts.
* `Tracks.perm`, `Tracks.filter_pending` — the notifications still to come.
* `Conserved` — the account of a state.
* `run_conserves` — every run keeps it, and its failing calls leave no
  trace.
-/
import AlertConformance.Proofs.Matcher.Run
import Mathlib.Data.List.Nodup

namespace AlertConformance.Matcher

variable {matcher start : Matcher} {expected : List ScheduledNotification}
  {event other : ScheduledNotification} {calls : List Call}

/-! ## Numbers -/

/-- The numbers of a schedule are positive and increase. -/
def Numbered (expected : List ScheduledNotification) : Prop :=
  (∀ event ∈ expected, 0 < event.orderingId) ∧
    expected.Pairwise fun a b => a.orderingId < b.orderingId

instance (expected : List ScheduledNotification) : Decidable (Numbered expected) :=
  inferInstanceAs (Decidable (_ ∧ _))

theorem idFault?_eq_none_iff (previous : Int) :
    idFault? previous expected = none ↔
      (∀ event ∈ expected, previous < event.orderingId) ∧
        expected.Pairwise fun a b => a.orderingId < b.orderingId := by
  induction expected generalizing previous with
  | nil => simp [idFault?]
  | cons event rest ih =>
    simp only [idFault?, List.forall_mem_cons, List.pairwise_cons]
    by_cases hid : event.orderingId ≤ previous
    · simp [hid, Int.not_lt.mpr hid]
    · rw [if_neg hid, ih]
      have hlt : previous < event.orderingId := Int.not_le.mp hid
      constructor
      · rintro ⟨hall, hrest⟩
        exact ⟨⟨hlt, fun e he => Int.lt_trans hlt (hall e he)⟩, hall, hrest⟩
      · rintro ⟨-, hall, hrest⟩
        exact ⟨hall, hrest⟩

theorem numbered_of_new (h : Matcher.new expected = .ok start) : Numbered expected :=
  (idFault?_eq_none_iff 0).mp (new_eq_ok_iff.mp h).1

theorem Reaches.numbered (h : Reaches expected matcher) : Numbered expected := by
  obtain ⟨start, -, hnew, -⟩ := h
  exact numbered_of_new hnew

/-- A matcher can be had for every numbered schedule. -/
theorem exists_new (h : Numbered expected) : ∃ start, Matcher.new expected = .ok start :=
  ⟨_, new_eq_ok_iff.mpr ⟨(idFault?_eq_none_iff 0).mpr h, rfl⟩⟩

theorem Numbered.nodup_ids (h : Numbered expected) : (expected.map (·.orderingId)).Nodup :=
  List.pairwise_map.mpr (h.2.imp fun hlt => Int.ne_of_lt hlt)

theorem Numbered.eq_of_id (h : Numbered expected) (ha : event ∈ expected) (hb : other ∈ expected)
    (hid : event.orderingId = other.orderingId) : event = other :=
  List.inj_on_of_nodup_map h.nodup_ids ha hb hid

/-! ## What is still to come -/

/-- Lists that agree on the elements of every key hold the same elements. -/
theorem perm_of_filter_perm {α κ : Type} [DecidableEq κ] (f : α → κ) {l l' : List α}
    (h : ∀ key, (l.filter fun a => f a = key).Perm (l'.filter fun a => f a = key)) : l.Perm l' := by
  classical
  refine List.perm_iff_count.mpr fun a => ?_
  have hcount := (h (f a)).count_eq a
  rwa [List.count_filter (by simp), List.count_filter (by simp)] at hcount

theorem pending_perm (matcher : Matcher) :
    matcher.pending.Perm (matcher.queues.flatMap Prod.snd) :=
  List.mergeSort_perm _ _

theorem mem_pending_iff (h : Filed matcher.queues) :
    event ∈ matcher.pending ↔ event ∈ queueOf event.key matcher.queues := by
  rw [(pending_perm matcher).mem_iff, h.mem_flatMap_iff]

theorem Tracks.filter_pending_perm (h : Tracks expected matcher) (key : LabelKey) :
    (matcher.pending.filter fun event => event.key = key).Perm (queueOf key matcher.queues) := by
  rw [← h.filed.filter_flatMap key]
  exact (pending_perm matcher).filter _

/-- What was accepted and what is to come are together the schedule. -/
theorem Tracks.perm (h : Tracks expected matcher) :
    (matcher.taken ++ matcher.pending).Perm expected := by
  refine perm_of_filter_perm ScheduledNotification.key fun key => ?_
  rw [List.filter_append, ← h.split key]
  exact (h.filter_pending_perm key).append_left _

theorem Tracks.nodup_ids (h : Tracks expected matcher) (hn : Numbered expected) :
    ((matcher.taken ++ matcher.pending).map (·.orderingId)).Nodup :=
  (h.perm.map _).nodup_iff.mpr hn.nodup_ids

theorem Tracks.pending_sorted (h : Tracks expected matcher) (hn : Numbered expected) :
    matcher.pending.Pairwise fun a b => a.orderingId < b.orderingId := by
  have hle : matcher.pending.Pairwise fun a b => a.orderingId ≤ b.orderingId := by
    have hsorted := @List.pairwise_mergeSort ScheduledNotification
      (fun a b => decide (a.orderingId ≤ b.orderingId))
      (by simp only [decide_eq_true_eq]; omega)
      (by simp only [Bool.or_eq_true, decide_eq_true_eq]; omega)
      (matcher.queues.flatMap Prod.snd)
    exact hsorted.imp fun hab => of_decide_eq_true hab
  have hne : matcher.pending.Pairwise fun a b => a.orderingId ≠ b.orderingId := by
    have hnodup := h.nodup_ids hn
    rw [List.map_append] at hnodup
    exact List.pairwise_map.mp (List.nodup_append.mp hnodup).2.1
  exact (hle.and hne).imp fun ⟨hab, hne⟩ => Int.lt_iff_le_and_ne.mpr ⟨hab, hne⟩

/-- A queue is a part of the schedule and has its order. -/
theorem Tracks.queue_sorted (h : Tracks expected matcher) (hn : Numbered expected)
    (key : LabelKey) :
    (queueOf key matcher.queues).Pairwise fun a b => a.orderingId < b.orderingId := by
  have hfilter := hn.2.filter fun event => event.key = key
  rw [← h.split key] at hfilter
  exact (List.pairwise_append.mp hfilter).2.1

/-- Of one alert, the notifications still to come are its queue. -/
theorem Tracks.filter_pending (h : Tracks expected matcher) (hn : Numbered expected)
    (key : LabelKey) :
    (matcher.pending.filter fun event => event.key = key) = queueOf key matcher.queues := by
  refine List.Perm.eq_of_pairwise (fun a b _ _ hab hba => ?_) ((h.pending_sorted hn).filter _)
    (h.queue_sorted hn key) (h.filter_pending_perm key)
  omega

/-! ## The account of a state -/

/-- What was accepted and what is still to come account for the schedule. -/
structure Conserved (expected : List ScheduledNotification) (matcher : Matcher) : Prop where
  /-- Together they are the schedule. -/
  perm : (matcher.taken ++ matcher.pending).Perm expected
  /-- Each number comes once. -/
  distinct : ((matcher.taken ++ matcher.pending).map (·.orderingId)).Nodup
  count : matcher.consumed.length + matcher.pending.length = matcher.total
  total : matcher.total = expected.length
  sorted : matcher.pending.Pairwise fun a b => a.orderingId < b.orderingId
  /-- The notifications of one alert keep their order. -/
  inOrder : ∀ key,
    (matcher.taken.filter fun event => event.key = key) ++
      (matcher.pending.filter fun event => event.key = key) =
    expected.filter fun event => event.key = key
  complete_iff : matcher.complete = true ↔ matcher.pending = []

theorem Tracks.count (h : Tracks expected matcher) :
    matcher.consumed.length + matcher.pending.length = matcher.total := by
  have hlength := h.perm.length_eq
  rw [List.length_append, taken, List.length_map] at hlength
  rw [hlength, h.total]

theorem Tracks.complete_iff (h : Tracks expected matcher) :
    matcher.complete = true ↔ matcher.pending = [] := by
  have hcount := h.count
  rw [complete, decide_eq_true_eq, ← List.length_eq_zero_iff]
  omega

theorem Tracks.conserved (h : Tracks expected matcher) (hn : Numbered expected) :
    Conserved expected matcher where
  perm := h.perm
  distinct := h.nodup_ids hn
  count := h.count
  total := h.total
  sorted := h.pending_sorted hn
  inOrder key := by rw [h.filter_pending hn key, h.split key]
  complete_iff := h.complete_iff

/-! ## Runs without their failing calls -/

/-- The calls of a run that do not fail. -/
def answered (matcher : Matcher) (calls : List Call) : List Call :=
  ((matcher.log calls).filter fun entry => entry.2.isOk).map Prod.fst

theorem answered_cons_ok {call : Call} {answer : Answer} (h : (matcher.call call).1 = .ok answer)
    (rest : List Call) :
    matcher.answered (call :: rest) = call :: (matcher.call call).2.answered rest := by
  simp [answered, log, h, Except.isOk, Except.toBool]

theorem answered_cons_error {call : Call} {error : Error}
    (h : (matcher.call call).1 = .error error) (rest : List Call) :
    matcher.answered (call :: rest) = matcher.answered rest := by
  simp [answered, log, h, call_error h, Except.isOk, Except.toBool]

theorem log_answered (matcher : Matcher) (calls : List Call) :
    matcher.log (matcher.answered calls) =
      (matcher.log calls).filter fun entry => entry.2.isOk := by
  induction calls generalizing matcher with
  | nil => rfl
  | cons call rest ih =>
    cases hcall : (matcher.call call).1 with
    | ok answer =>
      rw [answered_cons_ok hcall, log, log, ih]
      simp [hcall, Except.isOk, Except.toBool]
    | error error =>
      rw [answered_cons_error hcall, ih, log, call_error hcall]
      simp [hcall, Except.isOk, Except.toBool]

theorem after_answered (matcher : Matcher) (calls : List Call) :
    matcher.after (matcher.answered calls) = matcher.after calls := by
  induction calls generalizing matcher with
  | nil => rfl
  | cons call rest ih =>
    cases hcall : (matcher.call call).1 with
    | ok answer => rw [answered_cons_ok hcall, after, after, ih]
    | error error => rw [answered_cons_error hcall, ih, after, call_error hcall]

/-- **Conservation**: after every sequence of calls the schedule is
accounted for, what is consumed is what the calls returned, a call that
fails changes nothing that can be asked for, and without its failing calls
the run answers all others the same. -/
theorem run_conserves (h : Matcher.new expected = .ok start) (calls : List Call) :
    Conserved expected (start.after calls) ∧
    (∀ event arrival,
      start.Took calls event arrival ↔ (event, arrival) ∈ (start.after calls).consumed) ∧
    (∀ call error, ((start.after calls).call call).1 = .error error →
      ((start.after calls).call call).2.consumed = (start.after calls).consumed ∧
      ((start.after calls).call call).2.pending = (start.after calls).pending ∧
      ∀ event, ((start.after calls).call call).2.due event = (start.after calls).due event) ∧
    start.log (start.answered calls) = (start.log calls).filter (fun entry => entry.2.isOk) ∧
    start.after (start.answered calls) = start.after calls := by
  refine ⟨((Tracks.new h).after calls).conserved (numbered_of_new h),
    fun _ _ => took_iff_mem_consumed h, fun call error hcall => ?_,
    log_answered start calls, after_answered start calls⟩
  rw [call_error hcall]
  exact ⟨rfl, rfl, fun _ => rfl⟩

/-- A notification of an alert that fires from nought to a hundred. -/
def sampleEvent (name : String) (orderingId ts : Int) (resend : Bool) : ScheduledNotification where
  labels := .ofList [("alertname", name)]
  annotations := .empty
  startsAt := 0
  ts := ts
  resolved := false
  resend := resend
  tolerance := 5
  endsAtDelta := 40
  orderingId := orderingId
  resolvedTime := 100

def sampleArrival (name : String) (startsAt receivedAt endsAt : Int) : Notification where
  labels := .ofList [("alertname", name)]
  annotations := .empty
  startsAt := startsAt
  endsAt := some endsAt
  resolved := false
  receivedAt := receivedAt

/-- Two alerts that fire at once; the first is sent again. -/
def sampleSchedule : List ScheduledNotification :=
  [sampleEvent "A" 1 0 false, sampleEvent "A" 2 10 true, sampleEvent "B" 3 0 false]

theorem numbered_sample : Numbered sampleSchedule := by decide

/-- A run on them: the second alert comes too soon, then the first. -/
theorem run_conserves_sample : ∃ start, Matcher.new sampleSchedule = .ok start ∧
    Conserved sampleSchedule (start.after
      [.observe (sampleArrival "B" 0 3 43), .observe (sampleArrival "A" 0 4 44), .finish 20]) := by
  obtain ⟨start, hnew⟩ := exists_new numbered_sample
  exact ⟨start, hnew, (run_conserves hnew _).1⟩

end AlertConformance.Matcher
