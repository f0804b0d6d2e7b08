/-
AlertConformance.Proofs.Matcher.Duplicates — a delivery is accepted once.

After an arrival was accepted, the next notification of its alert is a
resend, a notification of the other state, or there is none. A copy of the
arrival cannot be taken for any of them: the resend is due a whole delay
later than what the copy would be on time for, and this is more than two
evaluations. How late the burst started does not matter, since the anchor
that moves the resend is the one that the arrival was judged by, or was set
by the arrival itself.

* `AlikeFor` — two states that one alert cannot tell apart.
* `AlikeFor.call` — a call that accepts nothing of an alert leaves its part
  of the state.
* `Tracks.not_near_again` — when a resend is due that follows an accepted
  arrival.
* `Tracks.refuses_copy` — one state in which a copy is refused.
* `copy_refused` — every later state, on every schedule of bursts that take
  turns.
-/
import AlertConformance.Proofs.Schedule.Replay
import AlertConformance.Proofs.Schedule.Sequence
import AlertConformance.Proofs.Schedule.Turns

namespace AlertConformance

namespace Matcher

variable {matcher other next later : Matcher} {expected : List ScheduledNotification}
  {event following : ScheduledNotification} {arrival copy : Notification} {key : LabelKey}
  {interval delay : Int} {calls : List Call}

/-! ## The state of one alert -/

/-- Two states agree on a label set: the same is still to come, and its
bursts started as late. -/
structure AlikeFor (key : LabelKey) (matcher other : Matcher) : Prop where
  queue : queueOf key other.queues = queueOf key matcher.queues
  anchor : ∀ event : ScheduledNotification, event.key = key →
    other.anchor event = matcher.anchor event

theorem AlikeFor.refl (key : LabelKey) (matcher : Matcher) : AlikeFor key matcher matcher :=
  ⟨rfl, fun _ _ => rfl⟩

/-- Accepting an arrival leaves the state of the other alerts. -/
theorem AlikeFor.consume (h : AlikeFor key matcher other) (hkey : event.key ≠ key) :
    AlikeFor key matcher (other.consume event arrival) where
  queue := by
    rw [Matcher.consume, queueOf_dequeue, if_neg hkey.symm, h.queue]
  anchor event' hevent' := by
    have hleads : ¬ Leads event event' := by
      intro hleads
      exact hkey (hleads.2.1.trans hevent')
    rw [anchor_consume hleads, h.anchor event' hevent']

/-- **One call** leaves the state of an alert unless it accepts an arrival
of it. -/
theorem AlikeFor.call (h : AlikeFor key matcher other) (htracks : Tracks expected other)
    (call : Call)
    (hnone : ∀ arrival event next, call = .observe arrival →
      other.observe arrival = .ok (event, next) → arrival.key ≠ key) :
    AlikeFor key matcher (other.call call).2 := by
  rcases other.call_cases call with ⟨arrival, event, hcall, hok, hanswer⟩ | ⟨hsame, -⟩
  · obtain ⟨-, hconforms, -, -⟩ := (observe_eq_ok_iff htracks.filed).mp hok
    have hkey : event.key ≠ key := by
      rw [← hconforms.key_eq]
      exact hnone arrival event _ hcall hok
    rw [hanswer]
    exact h.consume hkey
  · rw [hsame]
    exact h

/-! ## The notification after an accepted one -/

/-- The notification that is next after an accepted one succeeds it. -/
theorem Tracks.succeeds_of_observe (h : Tracks expected matcher)
    (hsuccessive : Successive interval delay expected)
    (hok : matcher.observe arrival = .ok (event, next))
    (hnext : (queueOf event.key next.queues).head? = some following) :
    Succeeds interval delay event following := by
  obtain ⟨hhead, -, -, rfl⟩ := (observe_eq_ok_iff h.filed).mp hok
  rw [Matcher.consume, queueOf_dequeue, if_pos rfl] at hnext
  have hqueue : queueOf event.key matcher.queues =
      event :: following :: (queueOf event.key matcher.queues).tail.tail := by
    rw [List.cons_head?_tail hnext, List.cons_head?_tail hhead]
  have hchain := hsuccessive event.key
  rw [← h.split event.key, hqueue] at hchain
  exact (List.isChain_append_cons_cons.mp hchain).2.1

/-- A resend that follows an accepted arrival is not due near the time when
the arrival was received. -/
theorem Tracks.not_near_again (h : Tracks expected matcher)
    (hdelay : 2 * interval < delay) (hok : matcher.observe arrival = .ok (event, next))
    (hkey : following.key = event.key) (hburst : following.burst = event.burst)
    (hresend : following.resend = true) (hts : following.ts = event.ts + delay)
    (htolerance : event.resend = true → event.tolerance = interval) :
    ¬ Near interval arrival.receivedAt (next.due following) := by
  obtain ⟨-, hconforms, -, rfl⟩ := (observe_eq_ok_iff h.filed).mp hok
  have hreceived := near_iff.mp hconforms.receivedAt
  rw [near_iff, due, if_pos hresend, hts]
  cases hfirst : event.resend with
  | false =>
    -- the arrival itself has set the anchor
    have hanchor : (matcher.consume event arrival).anchor following =
        arrival.receivedAt - event.ts := by
      simp [anchor, Matcher.consume, hfirst, hkey, hburst]
    omega
  | true =>
    have hleads : ¬ Leads event following := by
      intro hleads
      simp [hleads.1] at hfirst
    have hanchor : (matcher.consume event arrival).anchor following = matcher.anchor event := by
      rw [anchor_consume hleads, anchor, anchor, hkey, hburst]
    rw [ScheduledNotification.dueAfter, if_pos hfirst, htolerance hfirst] at hreceived
    omega

/-- **One state**: a copy of an accepted arrival is refused when the part of
its alert is as it was left. -/
theorem Tracks.refuses_copy (h : Tracks expected matcher)
    (hsuccessive : Successive interval delay expected)
    (hdelay : 2 * interval < delay) (hok : matcher.observe arrival = .ok (event, next))
    (hlater : Tracks expected later) (halike : AlikeFor arrival.key next later)
    (hcopy : arrival.Same copy) : ∀ taken last, later.observe copy ≠ .ok (taken, last) := by
  intro following last hagain
  obtain ⟨-, hconforms, -, -⟩ := (observe_eq_ok_iff h.filed).mp hok
  obtain ⟨hhead, hconforms', -, -⟩ := (observe_eq_ok_iff hlater.filed).mp hagain
  have hkey : following.key = arrival.key := by
    rw [← hconforms'.key_eq]
    exact ((Labels.key_eq_iff_same _ _).mpr hcopy.labels).symm
  have hkey' : following.key = event.key := hkey.trans hconforms.key_eq
  rw [hkey, halike.queue, hconforms.key_eq] at hhead
  cases h.succeeds_of_observe hsuccessive hok hhead with
  | resend hburst hresend hts htolerance hagain =>
    refine h.not_near_again hdelay hok hkey' hburst hresend hts hagain ?_
    have hreceived := hconforms'.receivedAt
    rwa [← due_eq, ← hcopy.receivedAt, htolerance, due, halike.anchor following hkey,
      ← due] at hreceived
  | turn hresolved =>
    refine hresolved ?_
    rw [← hconforms'.resolved, ← hcopy.resolved, hconforms.resolved]

/-! ## Any later state -/

/-- An arrival that is not accepted is rejected. -/
theorem exists_rejection (hnot : ∀ event next, matcher.observe arrival ≠ .ok (event, next)) :
    ∃ rejection, matcher.observe arrival = .error (.rejection rejection) := by
  revert hnot
  unfold observe
  split
  · exact fun _ => ⟨_, rfl⟩
  · split
    · exact fun _ => ⟨_, rfl⟩
    · exact fun hnot => absurd rfl (hnot _ _)

/-- **All calls** that accept no arrival of an alert but copies of one that
was accepted leave the state of the alert. -/
theorem Tracks.alikeFor_after (h : Tracks expected matcher)
    (hsuccessive : Successive interval delay expected)
    (hdelay : 2 * interval < delay) (hok : matcher.observe arrival = .ok (event, next))
    (hlater : Tracks expected later) (halike : AlikeFor arrival.key next later)
    (honly : ∀ taken received, later.Took calls taken received → received.key = arrival.key →
      arrival.Same received) :
    AlikeFor arrival.key next (later.after calls) := by
  induction calls generalizing later with
  | nil => exact halike
  | cons call rest ih =>
    refine ih (hlater.call call) (halike.call hlater call ?_) ?_
    · -- what is accepted of this alert would be a copy, which is refused
      intro received taken last hcall hagain hkey
      subst hcall
      have htook : later.Took (.observe received :: rest) taken received := by
        simp [Took, log, Matcher.call, hagain]
      exact h.refuses_copy hsuccessive hdelay hok hlater halike
        (honly taken received htook hkey) taken last hagain
    · intro taken received htook
      exact honly taken received (List.mem_cons_of_mem _ htook)

end Matcher

namespace Schedule

variable {empty : Schedule} {zeroTime interval : Int} {settings : Settings} {bursts : List Burst}
  {matcher next : Matcher} {event : ScheduledNotification} {arrival copy : Notification}
  {calls : List Matcher.Call}

/-- Bursts that take turns are scheduled one after another. -/
theorem successive_after (hnew : Schedule.new zeroTime interval settings = .ok empty)
    (hturns : Burst.TakesTurns settings (empty.accepted bursts)) :
    Successive interval settings.resendDelay (empty.after bursts).events := by
  obtain ⟨hempty, rfl, rfl⟩ := new_eq hnew
  obtain ⟨rows, hrows⟩ := empty.exists_rows bursts
  rw [← hrows.accepted] at hturns
  rw [hrows.events, hempty, List.nil_append]
  exact hturns.successive hrows.exact

/-- **Duplicates** are refused. On a schedule of bursts that take turns,
with resends more than two evaluations apart, let an arrival be accepted in
any state that a matcher can reach. After any calls that accept no other
arrival of its alert, it is refused when it comes again. -/
theorem copy_refused (hnew : Schedule.new zeroTime interval settings = .ok empty)
    (hdelay : 2 * interval < settings.resendDelay)
    (hturns : Burst.TakesTurns settings (empty.accepted bursts))
    (hreaches : Matcher.Reaches (empty.after bursts).events matcher)
    (hok : matcher.observe arrival = .ok (event, next))
    (honly : ∀ taken received, next.Took calls taken received → received.key = arrival.key →
      arrival.Same received)
    (hcopy : arrival.Same copy) :
    ∃ rejection, (next.after calls).observe copy = .error (.rejection rejection) := by
  have hsuccessive := successive_after hnew hturns
  have h := hreaches.tracks
  have hnext := h.observe hok
  have halike := h.alikeFor_after hsuccessive hdelay hok hnext (.refl _ _) honly
  exact Matcher.exists_rejection
    (h.refuses_copy hsuccessive hdelay hok (hnext.after calls) halike hcopy)

theorem tenSeconds_pos : 0 < 10 * second := by decide

theorem usualDelay_pos : 0 < ({} : Settings).resendDelay := by decide

/-- The empty schedule of a group that is evaluated every ten seconds. -/
def tenSeconds : Schedule := ⟨0, 10 * second, {}, [], 0, tenSeconds_pos, usualDelay_pos⟩

/-- An alert without labels that fires for two minutes and is inactive for
two. Each of its bursts is sent twice. -/
def sentTwice : List Burst :=
  Burst.episode .empty .empty 0 (2 * minute) (some (4 * minute))

theorem takesTurns_sentTwice : Burst.TakesTurns {} (tenSeconds.accepted sentTwice) where
  sent := by
    have hsent : ∀ burst ∈ tenSeconds.accepted sentTwice, burst.start < burst.stop {} := by
      decide
    intro burst hmem
    exact Burst.lt_stop_iff.mp (hsent burst hmem)
  turns key := by
    have haccepted : tenSeconds.accepted sentTwice = sentTwice := rfl
    rw [haccepted]
    by_cases hkey : Labels.empty.key = key <;>
      simp [sentTwice, Burst.episode, Burst.labels, Burst.isResolved, hkey]

/-- All its notifications, eight seconds late. -/
def sentTwiceDelivery : List (ScheduledNotification × Notification) :=
  (tenSeconds.after sentTwice).events.map fun event =>
    (event, event.deliveredAt (8 * second) (event.ts + 8 * second))

theorem delivers_sentTwice :
    Matcher.Delivers (tenSeconds.after sentTwice).events sentTwiceDelivery where
  all := by
    rw [sentTwiceDelivery, List.map_map]
    exact List.Perm.of_eq (List.map_id _)
  ordered := by decide +kernel
  conforms := by decide +kernel

/-- The first notification is refused when it comes a second and a third
time. -/
theorem copy_refused_sentTwice : Schedule.new 0 (10 * second) {} = .ok tenSeconds ∧
    ∃ start event arrival next, Matcher.new (tenSeconds.after sentTwice).events = .ok start ∧
      sentTwiceDelivery.head? = some (event, arrival) ∧
      start.observe arrival = .ok (event, next) ∧
      ∃ rejection,
        (next.after [.observe arrival]).observe arrival = .error (.rejection rejection) := by
  have hnew : Schedule.new 0 (10 * second) {} = .ok tenSeconds := rfl
  have hn : Matcher.Numbered (tenSeconds.after sentTwice).events := by decide +kernel
  have hl : Matcher.LedByFirst (tenSeconds.after sentTwice).events := by decide +kernel
  obtain ⟨start, hstart⟩ := Matcher.exists_new hn
  have hok := Matcher.Continues.accepts_next delivers_sentTwice.continues hn hl
    (Matcher.Tracks.new hstart) (Matcher.consumed_new hstart)
  refine ⟨hnew, start, _, _, _, hstart, rfl, hok, ?_⟩
  have hreaches : Matcher.Reaches (tenSeconds.after sentTwice).events start :=
    ⟨start, [], hstart, rfl⟩
  refine copy_refused hnew (by decide) takesTurns_sentTwice hreaches hok ?_ (.refl _)
  intro taken received htook _
  obtain ⟨rfl, -⟩ : received = _ ∧ _ := by
    simpa [Matcher.Took, Matcher.log] using htook
  exact .refl _

end Schedule

end AlertConformance
