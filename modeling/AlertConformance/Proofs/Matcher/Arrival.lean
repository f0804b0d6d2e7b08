/-
AlertConformance.Proofs.Matcher.Arrival — when an arrival is accepted.

A matcher names one reason for a refusal, the first that applies. Read the
other way round, an arrival is accepted exactly when it conforms to the
head of its queue and no other queue has an earlier claim.

* `Near` — two times no further apart than a tolerance.
* `Conforms` — an arrival is what a scheduled notification announces, when
  its burst started late by some delay.
* `observe_eq_ok_iff` — the condition for acceptance, and the next state.
* `overtaken?_eq_none_iff` — what the order between alerts asks.
-/
import AlertConformance.Proofs.LabelKey
import AlertConformance.Proofs.Matcher.Queues

namespace AlertConformance

/-! ## Conforming arrivals -/

/-- Two times are no further apart than a tolerance. -/
def Near (tolerance a b : Int) : Prop := (a - b).natAbs ≤ tolerance

instance (tolerance a b : Int) : Decidable (Near tolerance a b) :=
  inferInstanceAs (Decidable (_ ≤ _))

theorem near_iff {tolerance a b : Int} :
    Near tolerance a b ↔ a ≤ b + tolerance ∧ b ≤ a + tolerance := by
  unfold Near
  omega

/-- When a notification is due whose burst started late by `delay`. -/
def ScheduledNotification.dueAfter (event : ScheduledNotification) (delay : Int) : Int :=
  if event.resend then event.ts + delay else event.ts

/-- The end that a notification announces whose burst started late by
`delay`: a firing one expires some time after it was received, a resolved
one ended when its alert resolved. -/
def ScheduledNotification.endAfter (event : ScheduledNotification) (delay receivedAt : Int) :
    Int :=
  if event.resolved then
    if event.resend then event.resolvedTime + delay else event.resolvedTime
  else receivedAt + event.endsAtDelta

/-- An arrival is what a scheduled notification announces, when its burst
started late by `delay`: the same alert and the same state, and all times
within the tolerance. -/
structure Conforms (event : ScheduledNotification) (delay : Int) (arrival : Notification) :
    Prop where
  labels : arrival.labels.same event.labels = true
  annotations : arrival.annotations.same event.annotations = true
  resolved : arrival.resolved = event.resolved
  startsAt : Near event.tolerance arrival.startsAt event.startsAt
  receivedAt : Near event.tolerance arrival.receivedAt (event.dueAfter delay)
  endsAt : ∃ endsAt, arrival.endsAt = some endsAt ∧
    Near event.tolerance endsAt (event.endAfter delay arrival.receivedAt)

theorem conforms_iff {event : ScheduledNotification} {delay : Int} {arrival : Notification} :
    Conforms event delay arrival ↔
      arrival.labels.same event.labels = true ∧
      arrival.annotations.same event.annotations = true ∧
      arrival.resolved = event.resolved ∧
      Near event.tolerance arrival.startsAt event.startsAt ∧
      Near event.tolerance arrival.receivedAt (event.dueAfter delay) ∧
      ∃ endsAt ∈ arrival.endsAt,
        Near event.tolerance endsAt (event.endAfter delay arrival.receivedAt) :=
  ⟨fun ⟨hlabels, hannotations, hresolved, hstart, hdue, hend⟩ =>
      ⟨hlabels, hannotations, hresolved, hstart, hdue, hend⟩,
    fun ⟨hlabels, hannotations, hresolved, hstart, hdue, hend⟩ =>
      ⟨hlabels, hannotations, hresolved, hstart, hdue, hend⟩⟩

instance (event : ScheduledNotification) (delay : Int) (arrival : Notification) :
    Decidable (Conforms event delay arrival) :=
  decidable_of_iff' _ conforms_iff

/-- Conforming arrivals are of the same alert. -/
theorem Conforms.key_eq {event : ScheduledNotification} {delay : Int} {arrival : Notification}
    (h : Conforms event delay arrival) : arrival.key = event.key :=
  (Labels.key_eq_iff_same _ _).mpr h.labels

/-- The first notification of a burst does not depend on its delay. -/
theorem Conforms.of_first {event : ScheduledNotification} {delay other : Int}
    {arrival : Notification} (h : Conforms event delay arrival) (hfirst : event.resend = false) :
    Conforms event other arrival where
  labels := h.labels
  annotations := h.annotations
  resolved := h.resolved
  startsAt := h.startsAt
  receivedAt := by
    have := h.receivedAt
    simpa [ScheduledNotification.dueAfter, hfirst] using this
  endsAt := by
    have := h.endsAt
    simpa [ScheduledNotification.endAfter, hfirst] using this

namespace Matcher

variable {matcher next : Matcher} {event : ScheduledNotification} {arrival : Notification}

theorem due_eq (matcher : Matcher) (event : ScheduledNotification) :
    matcher.due event = event.dueAfter (matcher.anchor event) := rfl

/-! ## Faults of one arrival -/

theorem endFault?_eq_none_iff :
    matcher.endFault? event arrival = none ↔
      ∃ endsAt, arrival.endsAt = some endsAt ∧
        Near event.tolerance endsAt (event.endAfter (matcher.anchor event) arrival.receivedAt) := by
  unfold endFault?
  cases arrival.endsAt with
  | none => simp
  | some endsAt => simp [Near, ScheduledNotification.endAfter]

theorem fault?_eq_none_iff :
    matcher.fault? event arrival = none ↔
      (Near event.tolerance arrival.receivedAt (matcher.due event) ∧
        arrival.resolved = event.resolved ∧
        arrival.annotations.same event.annotations = true ∧
        Near event.tolerance arrival.startsAt event.startsAt ∧
        matcher.endFault? event arrival = none) ∧
      matcher.overtaken? event = none := by
  simp only [fault?]
  by_cases hdue : Near event.tolerance arrival.receivedAt (matcher.due event)
  swap
  · rw [if_pos (Int.not_le.mp hdue)]
    exact iff_of_false nofun fun h => hdue h.1.1
  rw [if_neg (Int.not_lt.mpr hdue)]
  by_cases hresolved : arrival.resolved = event.resolved
  swap
  · rw [if_pos hresolved]
    exact iff_of_false nofun fun h => hresolved h.1.2.1
  rw [if_neg (not_not_intro hresolved)]
  by_cases hannotations : arrival.annotations.same event.annotations = true
  swap
  · rw [if_pos (by simpa using hannotations)]
    exact iff_of_false nofun fun h => hannotations h.1.2.2.1
  rw [if_neg (by simpa using hannotations)]
  by_cases hstart : Near event.tolerance arrival.startsAt event.startsAt
  swap
  · rw [if_pos (Int.not_le.mp hstart)]
    exact iff_of_false nofun fun h => hstart h.1.2.2.2.1
  rw [if_neg (Int.not_lt.mpr hstart), Option.or_eq_none_iff, Option.map_eq_none_iff]
  simp only [hdue, hresolved, hannotations, hstart, true_and]

/-! ## The order between alerts -/

/-- A notification may come unless the head of another queue has a smaller
number and is not due later. -/
theorem overtaken?_eq_none_iff (h : Filed matcher.queues) :
    matcher.overtaken? event = none ↔
      ∀ key head, key ≠ event.key → (queueOf key matcher.queues).head? = some head →
        head.orderingId < event.orderingId → event.ts < head.ts := by
  unfold overtaken?
  rw [List.findSome?_eq_none_iff]
  constructor
  · intro hall key head hkey hhead hid
    cases hqueue : queueOf key matcher.queues with
    | nil => simp [hqueue] at hhead
    | cons first rest =>
      rw [hqueue, List.head?_cons, Option.some.injEq] at hhead
      subst hhead
      have hne : queueOf key matcher.queues ≠ [] := by simp [hqueue]
      have hnone := hall _ (mem_of_queueOf_ne_nil hne)
      simpa [hqueue, hkey, hid] using hnone
  · rintro hall ⟨key, queue⟩ hmem
    have hqueue := h.queueOf_eq hmem
    cases queue with
    | nil => rfl
    | cons head rest =>
      have hlate := hall key head
      simp only [hqueue, List.head?_cons, true_implies] at hlate
      simp only [ite_eq_right_iff, reduceCtorEq, imp_false, not_and]
      intro hkey hid hle
      exact absurd (hlate hkey hid) (Int.not_lt.mpr hle)

/-! ## Acceptance -/

/-- **Acceptance**: an arrival is taken for the head of its queue exactly
when it conforms to it and overtakes nothing. -/
theorem observe_eq_ok_iff (h : Filed matcher.queues) :
    matcher.observe arrival = .ok (event, next) ↔
      (queueOf event.key matcher.queues).head? = some event ∧
      Conforms event (matcher.anchor event) arrival ∧
      matcher.overtaken? event = none ∧ next = matcher.consume event arrival := by
  unfold observe
  rw [head?_eq]
  constructor
  · intro hok
    cases hhead : (queueOf arrival.key matcher.queues).head? with
    | none => simp [hhead] at hok
    | some first =>
      cases hfault : matcher.fault? first arrival with
      | some cause => simp [hhead, hfault] at hok
      | none =>
        simp only [hhead, hfault, Except.ok.injEq, Prod.mk.injEq] at hok
        obtain ⟨rfl, rfl⟩ := hok
        have hkey : first.key = arrival.key := h.own _ _ (List.mem_of_head? hhead)
        obtain ⟨⟨hdue, hresolved, hannotations, hstart, hend⟩, hover⟩ :=
          fault?_eq_none_iff.mp hfault
        refine ⟨by rw [hkey, hhead], ?_, hover, rfl⟩
        exact ⟨(Labels.key_eq_iff_same _ _).mp hkey.symm, hannotations, hresolved, hstart, hdue,
          endFault?_eq_none_iff.mp hend⟩
  · rintro ⟨hhead, hconforms, hover, rfl⟩
    have hfault : matcher.fault? event arrival = none :=
      fault?_eq_none_iff.mpr ⟨⟨hconforms.receivedAt, hconforms.resolved, hconforms.annotations,
        hconforms.startsAt, endFault?_eq_none_iff.mpr hconforms.endsAt⟩, hover⟩
    simp [hconforms.key_eq, hhead, hfault]

end Matcher

end AlertConformance
