/-
AlertConformance.Proofs.Matcher.Renumbering — what a matcher uses the
numbers of bursts for.

A matcher looks up the anchor of a notification under the number of its
burst, and does nothing else with the number. Give the bursts other
numbers, different ones to different bursts, and a matcher does what it
did before: the state is told from what was accepted, and that is the same
but for the numbers.

* `EqualButBurst` — two notifications that differ in that number at most.
* `Twins` — two matchers that have accepted the same, but for the numbers.
* `Twins.queueOf`, `Twins.anchor`, `Twins.pending` — so they await the same.
* `Agree` — what it means that two results tell the same.
* `Twins.call`, `Twins.run` — one call and a run tell the same on both.
-/
import AlertConformance.Proofs.Matcher.Conservation

namespace AlertConformance

/-! ## Other numbers -/

/-- A notification whose burst has another number. -/
def ScheduledNotification.renumbered (number : Int → Int) (event : ScheduledNotification) :
    ScheduledNotification :=
  { event with burst := number event.burst }

/-- Two notifications are equal but for the numbers of their bursts. -/
def ScheduledNotification.EqualButBurst (a b : ScheduledNotification) : Prop :=
  { a with burst := b.burst } = b

theorem ScheduledNotification.equalButBurst_renumbered (number : Int → Int)
    (event : ScheduledNotification) : event.EqualButBurst (event.renumbered number) := rfl

theorem equalButBurst_map_renumbered (number : Int → Int) (events : List ScheduledNotification) :
    List.Forall₂ ScheduledNotification.EqualButBurst events
      (events.map (ScheduledNotification.renumbered number)) := by
  rw [List.forall₂_map_right_iff, List.forall₂_same]
  exact fun event _ => event.equalButBurst_renumbered number

/-- The number of a burst plays no part in what an arrival has to be. -/
theorem conforms_renumbered {number : Int → Int} {event : ScheduledNotification} {delay : Int}
    {arrival : Notification} :
    Conforms (event.renumbered number) delay arrival ↔ Conforms event delay arrival :=
  ⟨fun h => ⟨h.labels, h.annotations, h.resolved, h.startsAt, h.receivedAt, h.endsAt⟩,
    fun h => ⟨h.labels, h.annotations, h.resolved, h.startsAt, h.receivedAt, h.endsAt⟩⟩

namespace Matcher

variable {number : Int → Int} {expected : List ScheduledNotification}
  {matcher other : Matcher} {event : ScheduledNotification} {arrival : Notification}

theorem Numbered.renumbered (h : Numbered expected) (number : Int → Int) :
    Numbered (expected.map (ScheduledNotification.renumbered number)) :=
  ⟨List.forall_mem_map.mpr h.1, List.pairwise_map.mpr h.2⟩

theorem filter_renumbered (key : LabelKey) (events : List ScheduledNotification) :
    (events.map (ScheduledNotification.renumbered number)).filter (fun event => event.key = key) =
      (events.filter fun event => event.key = key).map (ScheduledNotification.renumbered number) :=
  List.filter_map

/-! ## Matchers that have accepted the same -/

/-- Two matchers, one for a schedule and one for the schedule with other
numbers, have accepted the same notifications for the same arrivals. -/
structure Twins (number : Int → Int) (expected : List ScheduledNotification)
    (matcher other : Matcher) : Prop where
  tracks : Tracks expected matcher
  tracks' : Tracks (expected.map (ScheduledNotification.renumbered number)) other
  consumed : other.consumed = matcher.consumed.map fun (event, arrival) =>
    (event.renumbered number, arrival)

theorem Twins.taken (h : Twins number expected matcher other) :
    other.taken = matcher.taken.map (ScheduledNotification.renumbered number) := by
  rw [Matcher.taken, Matcher.taken, h.consumed, List.map_map, List.map_map]
  rfl

/-- The queues hold the rest of the schedule, so they agree as well. -/
theorem Twins.queueOf (h : Twins number expected matcher other) (key : LabelKey) :
    queueOf key other.queues =
      (Matcher.queueOf key matcher.queues).map (ScheduledNotification.renumbered number) := by
  have hsplit := h.tracks'.split key
  rw [h.taken, filter_renumbered, filter_renumbered, ← h.tracks.split key,
    List.map_append] at hsplit
  exact List.append_cancel_left hsplit

theorem Twins.head? (h : Twins number expected matcher other) (key : LabelKey) :
    (Matcher.queueOf key other.queues).head? =
      (Matcher.queueOf key matcher.queues).head?.map
        (ScheduledNotification.renumbered number) := by
  rw [h.queueOf, List.head?_map]

/-- Looking up under another number finds the same, when no two numbers
become one. -/
theorem lookup_renumbered (hnumber : number.Injective) (key : LabelKey) (burst : Int)
    (anchors : List ((LabelKey × Int) × Int)) :
    (anchors.map fun ((key, burst), delay) => ((key, number burst), delay)).lookup
      (key, number burst) = anchors.lookup (key, burst) := by
  induction anchors with
  | nil => rfl
  | cons entry rest ih =>
    obtain ⟨⟨other, count⟩, delay⟩ := entry
    have hsame : ((key, number burst) == (other, number count)) =
        ((key, burst) == (other, count)) := by
      rw [Bool.eq_iff_iff, beq_iff_eq, beq_iff_eq, Prod.mk.injEq, Prod.mk.injEq, hnumber.eq_iff]
    rw [List.map_cons, List.lookup_cons, List.lookup_cons, hsame, ih]

theorem startDelays_renumbered (consumed : List (ScheduledNotification × Notification)) :
    startDelays (consumed.map fun (event, arrival) => (event.renumbered number, arrival)) =
      (startDelays consumed).map fun ((key, burst), delay) => ((key, number burst), delay) := by
  rw [startDelays, startDelays, List.filter_map, List.map_map, List.map_reverse, List.map_map]
  rfl

/-- An anchor is found under the number of the burst, and tells how late
the burst started. -/
theorem Twins.anchor (h : Twins number expected matcher other) (hnumber : number.Injective)
    (event : ScheduledNotification) :
    other.anchor (event.renumbered number) = matcher.anchor event := by
  rw [Matcher.anchor, Matcher.anchor, h.tracks.anchors, h.tracks'.anchors, h.consumed,
    startDelays_renumbered]
  exact congrArg (Option.getD · 0) (lookup_renumbered hnumber event.key event.burst _)

theorem Twins.due (h : Twins number expected matcher other) (hnumber : number.Injective)
    (event : ScheduledNotification) :
    other.due (event.renumbered number) = matcher.due event := by
  rw [due_eq, due_eq, h.anchor hnumber]
  rfl

/-- What is still to come is sorted by the numbers of the notifications,
which stay. -/
theorem Twins.pending (h : Twins number expected matcher other) (hn : Numbered expected) :
    other.pending = matcher.pending.map (ScheduledNotification.renumbered number) := by
  have hperm : (other.taken ++ other.pending).Perm
      (other.taken ++ matcher.pending.map (ScheduledNotification.renumbered number)) := by
    have hall := h.tracks.perm.map (ScheduledNotification.renumbered number)
    rw [List.map_append, ← h.taken] at hall
    exact h.tracks'.perm.trans hall.symm
  have hsorted : (matcher.pending.map (ScheduledNotification.renumbered number)).Pairwise
      fun a b => a.orderingId < b.orderingId :=
    List.pairwise_map.mpr (h.tracks.pending_sorted hn)
  refine List.Perm.eq_of_pairwise (fun a b _ _ hab hba => ?_)
    (h.tracks'.pending_sorted (hn.renumbered number)) hsorted
    ((List.perm_append_left_iff _).mp hperm)
  omega

theorem Twins.complete (h : Twins number expected matcher other) :
    other.complete = matcher.complete := by
  have htotal : other.total = matcher.total := by
    rw [h.tracks.total, h.tracks'.total, List.length_map]
  rw [Matcher.complete, Matcher.complete, htotal, h.consumed, List.length_map]

/-! ## Arrivals -/

theorem Twins.overtaken?_eq_none_iff (h : Twins number expected matcher other)
    (event : ScheduledNotification) :
    other.overtaken? (event.renumbered number) = none ↔ matcher.overtaken? event = none := by
  rw [Matcher.overtaken?_eq_none_iff h.tracks.filed, Matcher.overtaken?_eq_none_iff h.tracks'.filed]
  constructor
  · intro hall key head hkey hhead hid
    exact hall key (head.renumbered number) hkey (by rw [h.head?, hhead]; rfl) hid
  · intro hall key head hkey hhead hid
    rw [h.head?, Option.map_eq_some_iff] at hhead
    obtain ⟨first, hfirst, rfl⟩ := hhead
    exact hall key first hkey hfirst hid

/-- An arrival that one of them accepts is accepted by the other, for the
notification with the other number. -/
theorem Twins.observe_ok (h : Twins number expected matcher other) (hnumber : number.Injective)
    {next : Matcher} (hok : matcher.observe arrival = .ok (event, next)) :
    other.observe arrival =
      .ok (event.renumbered number, other.consume (event.renumbered number) arrival) := by
  obtain ⟨hhead, hconforms, hover, -⟩ := (observe_eq_ok_iff h.tracks.filed).mp hok
  have hhead' : (Matcher.queueOf event.key other.queues).head? =
      some (event.renumbered number) := by
    rw [h.head?, hhead]
    rfl
  refine (observe_eq_ok_iff h.tracks'.filed).mpr
    ⟨hhead', ?_, (h.overtaken?_eq_none_iff event).mpr hover, rfl⟩
  rw [h.anchor hnumber]
  exact conforms_renumbered.mpr hconforms

/-- An arrival that one of them refuses is refused by the other. -/
theorem Twins.observe_error (h : Twins number expected matcher other)
    (hnumber : number.Injective) {error : Error} (herror : matcher.observe arrival = .error error) :
    ∃ error', other.observe arrival = .error error' := by
  cases hother : other.observe arrival with
  | error error' => exact ⟨error', rfl⟩
  | ok taken =>
    -- the accepted notification heads the queue, so the other head is accepted too
    obtain ⟨event', next⟩ := taken
    obtain ⟨hhead, hconforms, hover, -⟩ := (observe_eq_ok_iff h.tracks'.filed).mp hother
    rw [h.head?, Option.map_eq_some_iff] at hhead
    obtain ⟨event, hhead, rfl⟩ := hhead
    rw [h.anchor hnumber] at hconforms
    have hok : matcher.observe arrival = .ok (event, matcher.consume event arrival) :=
      (observe_eq_ok_iff h.tracks.filed).mpr ⟨hhead, conforms_renumbered.mp hconforms,
        (h.overtaken?_eq_none_iff event).mp hover, rfl⟩
    rw [hok] at herror
    cases herror

/-- Accepting the same keeps the two twins. -/
theorem Twins.consume (h : Twins number expected matcher other)
    (hhead : (Matcher.queueOf event.key matcher.queues).head? = some event) :
    Twins number expected (matcher.consume event arrival)
      (other.consume (event.renumbered number) arrival) where
  tracks := h.tracks.consume hhead
  tracks' := h.tracks'.consume (by
    show (Matcher.queueOf event.key other.queues).head? = _
    rw [h.head?, hhead]
    rfl)
  consumed := by
    simp only [Matcher.consume, h.consumed, List.map_append, List.map_cons, List.map_nil]

/-! ## Calls -/

/-- A call that asks for a notification with its other number. -/
def Call.renumbered (number : Int → Int) : Call → Call
  | .due event => .due (event.renumbered number)
  | call => call

/-- Two results tell the same: both are failures, or both are answers,
equal but for the numbers of bursts. -/
inductive Agree : Result Answer → Result Answer → Prop where
  | failed (error error' : Error) : Agree (.error error) (.error error')
  | taken {a b : ScheduledNotification} :
    a.EqualButBurst b → Agree (.ok (.taken a)) (.ok (.taken b))
  | inTime : Agree (.ok .inTime) (.ok .inTime)
  | pending {as bs : List ScheduledNotification} :
    List.Forall₂ ScheduledNotification.EqualButBurst as bs →
      Agree (.ok (.pending as)) (.ok (.pending bs))
  | due (time : Int) : Agree (.ok (.due time)) (.ok (.due time))

theorem Twins.overdue (h : Twins number expected matcher other) (hnumber : number.Injective)
    (hn : Numbered expected) (now : Int) :
    other.overdue now = (matcher.overdue now).map (ScheduledNotification.renumbered number) := by
  rw [Matcher.overdue, Matcher.overdue, h.pending hn, List.filter_map]
  refine congrArg _ (List.filter_congr fun event _ => ?_)
  rw [Function.comp_apply, h.due hnumber]
  rfl

/-- **One call** tells the same on both, and they stay twins. -/
theorem Twins.call (h : Twins number expected matcher other) (hnumber : number.Injective)
    (hn : Numbered expected) (call : Call) :
    Agree (matcher.call call).1 (other.call (call.renumbered number)).1 ∧
      Twins number expected (matcher.call call).2 (other.call (call.renumbered number)).2 := by
  cases call with
  | observe arrival =>
    simp only [Call.renumbered, Matcher.call]
    cases hobserve : matcher.observe arrival with
    | ok taken =>
      obtain ⟨event, next⟩ := taken
      obtain ⟨hhead, -, -, rfl⟩ := (observe_eq_ok_iff h.tracks.filed).mp hobserve
      rw [h.observe_ok hnumber hobserve]
      exact ⟨.taken (event.equalButBurst_renumbered number), h.consume hhead⟩
    | error error =>
      obtain ⟨error', hother⟩ := h.observe_error hnumber hobserve
      rw [hother]
      exact ⟨.failed error error', h⟩
  | finish now =>
    refine ⟨?_, h⟩
    simp only [Call.renumbered, Matcher.call, finish, h.overdue hnumber hn now]
    cases matcher.overdue now with
    | nil => exact .inTime
    | cons first rest => exact .failed _ _
  | pending =>
    refine ⟨?_, h⟩
    simp only [Call.renumbered, Matcher.call, h.pending hn]
    exact .pending (equalButBurst_map_renumbered number _)
  | due event =>
    refine ⟨?_, h⟩
    simp only [Call.renumbered, Matcher.call, h.due hnumber]
    exact .due _

/-- **A run** tells the same on both, call by call, and they stay twins. -/
theorem Twins.run (h : Twins number expected matcher other) (hnumber : number.Injective)
    (hn : Numbered expected) (calls : List Call) :
    List.Forall₂ (fun entry entry' => Agree entry.2 entry'.2) (matcher.log calls)
        (other.log (calls.map (Call.renumbered number))) ∧
      Twins number expected (matcher.after calls)
        (other.after (calls.map (Call.renumbered number))) := by
  induction calls generalizing matcher other with
  | nil => exact ⟨.nil, h⟩
  | cons call rest ih =>
    obtain ⟨hagree, hnext⟩ := h.call hnumber hn call
    obtain ⟨hlog, hlast⟩ := ih hnext
    exact ⟨.cons hagree hlog, hlast⟩

/-- New matchers for a schedule and for one with other numbers. -/
theorem Twins.new {start start' : Matcher} (hnew : Matcher.new expected = .ok start)
    (hnew' : Matcher.new (expected.map (ScheduledNotification.renumbered number)) = .ok start') :
    Twins number expected start start' where
  tracks := Tracks.new hnew
  tracks' := Tracks.new hnew'
  consumed := by rw [consumed_new hnew, consumed_new hnew', List.map_nil]

end Matcher

end AlertConformance
