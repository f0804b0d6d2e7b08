/-
AlertConformance.Proofs.Schedule.Rows — the notifications of a sequence of
bursts, row by row.

Bursts may be given in any order, at any times, and some of them may be
refused. Whatever the sequence, the schedule is the rows of the accepted
bursts, one after another: a notification for each send that is due while
the burst goes on, and no other. The notifications are numbered from one
without a gap, and each row has a number of its own, which grows from row
to row even when a refused burst used one up.

* `Burst.GoesOn`, `Burst.MakesSense` — until when a burst lasts, and when
  it is accepted.
* `Row.Exact` — the notifications that a burst has to lead to.
* `Schedule.after`, `Schedule.accepted` — a sequence of bursts.
* `exists_rows`, `Counted.after` — the rows and the numbers of all bursts.
* `scheduled_exactly` — the whole schedule.
-/
import AlertConformance.Proofs.Schedule.Built

namespace AlertConformance

/-! ## What a burst asks for -/

namespace Burst

def annotations : Burst → Labels
  | firing _ annotations .. => annotations
  | resolved _ annotations .. => annotations

/-- Since when the alert is reported as active. -/
def activeSince : Burst → Int
  | firing _ _ start _ startsAt => startsAt.getD start
  | resolved _ _ startsAt _ _ => startsAt

/-- When the alert resolves. -/
def resolvedAt : Burst → Int
  | firing _ _ _ stop _ => stop
  | resolved _ _ _ start _ => start

/-- When the alert changes its state the next time, if it is known to. -/
def changesAt : Burst → Option Int
  | firing _ _ _ stop _ => some stop
  | resolved _ _ _ _ nextState => nextState

/-- A burst goes on at a time: its alert has not resolved; or it did, and
is still retained and not active again. -/
def GoesOn (settings : Settings) (time : Int) : Burst → Prop
  | firing _ _ _ stop _ => time < stop
  | resolved _ _ _ start nextState =>
    time < start + settings.resolvedRetention ∧ ∀ next ∈ nextState, time < next

/-- A burst makes sense: its alert fires before it resolves, or resolves
before it becomes active again. -/
def MakesSense : Burst → Prop
  | firing _ _ start stop _ => start < stop
  | resolved _ _ _ start nextState => ∀ next ∈ nextState, start < next

instance : DecidablePred MakesSense
  | firing .. => inferInstanceAs (Decidable (_ < _))
  | resolved _ _ _ start nextState => inferInstanceAs (Decidable (∀ next ∈ nextState, start < next))

theorem lt_stop_iff {settings : Settings} {time : Int} {burst : Burst} :
    time < burst.stop settings ↔ burst.GoesOn settings time := by
  cases burst with
  | firing => exact Iff.rfl
  | resolved _ _ _ start nextState =>
    cases nextState with
    | none => simp [stop, GoesOn]
    | some next => simp only [stop, GoesOn, Int.lt_min, Option.mem_some_iff, forall_eq']

theorem fault?_eq_none_iff {burst : Burst} : burst.fault? = none ↔ burst.MakesSense := by
  cases burst with
  | firing => simp [fault?, MakesSense]
  | resolved _ _ _ start nextState => cases nextState <;> simp [fault?, MakesSense]

end Burst

/-! ## Rows -/

/-- The notifications of a burst, and the number that they share. -/
structure Row where
  burst : Burst
  number : Int
  events : List ScheduledNotification

namespace Row

/-- Notification `k` of a row, counted from nought, is what its burst asks
for. -/
structure Announces (row : Row) (zeroTime interval : Int) (settings : Settings) (k : Nat)
    (event : ScheduledNotification) : Prop where
  labels : event.labels = row.burst.labels
  annotations : event.annotations = row.burst.annotations
  burst : event.burst = row.number
  ts : event.ts = zeroTime + row.burst.start + k * settings.resendDelay
  resolved : event.resolved = row.burst.isResolved
  resend : event.resend = true ↔ 0 < k
  tolerance : event.tolerance =
    if row.burst.isResolved = true ∧ k = 0 then 2 * interval else interval
  startsAt : event.startsAt = zeroTime + row.burst.activeSince
  endsAtDelta : event.endsAtDelta = settings.endsAtDelta interval
  resolvedTime : event.resolvedTime = zeroTime + row.burst.resolvedAt
  nextState : event.nextState = row.burst.changesAt.map (zeroTime + ·)

/-- A row has notification `k` exactly when the burst goes on `k` delays
after its start, and each one is what the burst asks for. -/
structure Exact (row : Row) (zeroTime interval : Int) (settings : Settings) : Prop where
  sent_iff : ∀ k : Nat, (∃ event, row.events[k]? = some event) ↔
    row.burst.GoesOn settings (row.burst.start + k * settings.resendDelay)
  announced : ∀ (k : Nat) (event : ScheduledNotification), row.events[k]? = some event →
    row.Announces zeroTime interval settings k event

end Row

namespace Schedule

variable {schedule : Schedule} {burst : Burst} {interval : Int} {settings : Settings}

/-- The row of a burst that is added to a schedule. -/
def row (schedule : Schedule) (burst : Burst) : Row :=
  ⟨burst, schedule.bursts + 1, schedule.sends burst⟩

theorem getElem?_sends_eq_some_iff {k : Nat} {event : ScheduledNotification} :
    (schedule.sends burst)[k]? = some event ↔
      burst.GoesOn schedule.settings (burst.start + k * schedule.settings.resendDelay) ∧
        event = schedule.send burst k := by
  rw [sends_eq, List.getElem?_map, Option.map_eq_some_iff, ← Burst.lt_stop_iff,
    ← lt_sendCount_iff schedule.resendDelay_pos]
  constructor
  · rintro ⟨i, hi, rfl⟩
    obtain ⟨hlt, rfl⟩ := List.getElem?_eq_some_iff.mp hi
    rw [List.getElem_range]
    exact ⟨by simpa using hlt, rfl⟩
  · rintro ⟨hlt, rfl⟩
    exact ⟨k, List.getElem?_range hlt, rfl⟩

theorem row_announces (k : Nat) :
    (schedule.row burst).Announces schedule.zeroTime schedule.interval schedule.settings k
      (schedule.send burst k) := by
  constructor
  case ts => rw [send_ts, ← Int.add_assoc]; rfl
  case resend => rw [send_resend, Nat.pos_iff_ne_zero]
  case tolerance => exact send_tolerance k
  case nextState => cases burst <;> rfl
  all_goals cases burst <;> rfl

/-- **One burst** adds the row that it asks for. -/
theorem row_exact (schedule : Schedule) (burst : Burst) :
    (schedule.row burst).Exact schedule.zeroTime schedule.interval schedule.settings where
  sent_iff k := by
    simp only [row, getElem?_sends_eq_some_iff]
    exact ⟨fun ⟨_, hgoes, _⟩ => hgoes, fun hgoes => ⟨_, hgoes, rfl⟩⟩
  announced k event h := by
    obtain ⟨-, rfl⟩ := getElem?_sends_eq_some_iff.mp h
    exact row_announces k

/-! ## Sequences of bursts -/

/-- The schedule after a sequence of bursts. -/
def after (schedule : Schedule) : List Burst → Schedule
  | [] => schedule
  | burst :: rest => (schedule.step burst).1.after rest

/-- The bursts of a sequence that are not refused. -/
def accepted (schedule : Schedule) : List Burst → List Burst
  | [] => []
  | burst :: rest =>
    match schedule.step burst with
    | (next, none) => burst :: next.accepted rest
    | (next, some _) => next.accepted rest

/-- A burst that makes sense is added, and any other one is refused. -/
theorem step_cases (schedule : Schedule) (burst : Burst) :
    (burst.MakesSense ∧ schedule.step burst = (schedule.extend burst, none)) ∨
      (¬ burst.MakesSense ∧ ∃ fault, schedule.step burst = (schedule.refuse burst, some fault)) := by
  rw [← Burst.fault?_eq_none_iff]
  cases h : burst.fault? with
  | none => exact .inl ⟨rfl, step_eq h⟩
  | some fault => exact .inr ⟨nofun, fault, by simp only [step, h]⟩

/-- Whether a burst is accepted does not depend on the ones before it. -/
theorem accepted_eq (schedule : Schedule) (bursts : List Burst) :
    schedule.accepted bursts = bursts.filter fun burst => burst.MakesSense := by
  induction bursts generalizing schedule with
  | nil => rfl
  | cons burst rest ih =>
    rcases schedule.step_cases burst with ⟨hsense, hstep⟩ | ⟨hsense, fault, hstep⟩
    · simp [accepted, hstep, hsense, ih]
    · simp [accepted, hstep, hsense, ih]

/-- A refused burst leaves the notifications and the set-up as they are. -/
theorem refuse_eq (schedule : Schedule) (burst : Burst) :
    ∃ bursts, schedule.bursts ≤ bursts ∧ schedule.refuse burst = { schedule with bursts } := by
  cases burst with
  | firing => exact ⟨schedule.bursts, Nat.le_refl _, rfl⟩
  | resolved => exact ⟨schedule.bursts + 1, Nat.le_succ _, rfl⟩

/-- What a sequence of bursts adds to a schedule, row by row. -/
structure Adds (schedule : Schedule) (bursts : List Burst) (rows : List Row) : Prop where
  accepted : rows.map Row.burst = schedule.accepted bursts
  events : (schedule.after bursts).events = schedule.events ++ rows.flatMap Row.events
  exact : ∀ row ∈ rows, row.Exact schedule.zeroTime schedule.interval schedule.settings
  later : ∀ row ∈ rows, schedule.bursts < row.number
  increasing : rows.Pairwise fun earlier later => earlier.number < later.number

/-- **All bursts**: they add the rows of the accepted ones, in order. -/
theorem exists_rows (schedule : Schedule) (bursts : List Burst) :
    ∃ rows, schedule.Adds bursts rows := by
  induction bursts generalizing schedule with
  | nil => exact ⟨[], rfl, (List.append_nil _).symm, nofun, nofun, .nil⟩
  | cons burst rest ih =>
    rcases schedule.step_cases burst with ⟨-, hstep⟩ | ⟨-, fault, hstep⟩
    · obtain ⟨rows, h⟩ := ih (schedule.extend burst)
      have hlater : ∀ row ∈ rows, schedule.bursts + 1 < row.number := h.later
      refine ⟨schedule.row burst :: rows, ?_⟩
      constructor
      case accepted => simp only [accepted, hstep, List.map_cons, h.accepted, row]
      case events =>
        rw [after, hstep, h.events, List.flatMap_cons, ← List.append_assoc]
        rfl
      case exact => exact List.forall_mem_cons.mpr ⟨schedule.row_exact burst, h.exact⟩
      case later =>
        refine List.forall_mem_cons.mpr ⟨Int.lt_succ _, fun row hmem => ?_⟩
        have hnumber := hlater row hmem
        omega
      case increasing => exact List.pairwise_cons.mpr ⟨hlater, h.increasing⟩
    · obtain ⟨count, hcount, hrefuse⟩ := schedule.refuse_eq burst
      rw [hrefuse] at hstep
      obtain ⟨rows, h⟩ := ih { schedule with bursts := count }
      refine ⟨rows, ?_, ?_, h.exact, fun row hmem => ?_, h.increasing⟩
      · simp only [accepted, hstep, h.accepted]
      · simp only [after, hstep, h.events]
      · have hnumber : (count : Int) < row.number := h.later row hmem
        omega

/-! ## Numbers -/

/-- The notifications of a schedule are numbered from one, without a
gap. -/
def Counted (schedule : Schedule) : Prop :=
  schedule.events.map (·.orderingId) =
    (List.range schedule.events.length).map fun i : Nat => (i : Int) + 1

theorem Counted.extend (h : schedule.Counted) (burst : Burst) :
    (schedule.extend burst).Counted := by
  have hsends : (schedule.sends burst).map (·.orderingId) =
      (List.range (schedule.sends burst).length).map fun i : Nat =>
        ((schedule.events.length + i : Nat) : Int) + 1 := by
    rw [sends_eq, List.map_map, List.length_map, List.length_range]
    refine List.map_congr_left fun k _ => ?_
    simp only [Function.comp_apply, send_orderingId]
    omega
  rw [Counted] at h ⊢
  simp only [Schedule.extend, List.map_append, h, hsends, List.length_append, List.range_add,
    List.map_map, Function.comp_def]

/-- **All numbers**: every sequence of bursts keeps the count. -/
theorem Counted.after (h : schedule.Counted) (bursts : List Burst) :
    (schedule.after bursts).Counted := by
  induction bursts generalizing schedule with
  | nil => exact h
  | cons burst rest ih =>
    refine ih ?_
    rcases schedule.step_cases burst with ⟨-, hstep⟩ | ⟨-, fault, hstep⟩
    · rw [hstep]
      exact h.extend burst
    · obtain ⟨count, -, hrefuse⟩ := schedule.refuse_eq burst
      rw [hstep, hrefuse]
      exact h

/-- Notifications that are counted are numbered as a matcher wants it. -/
theorem Counted.numbered (h : schedule.Counted) : Matcher.Numbered schedule.events := by
  have hpositive : ∀ id ∈ schedule.events.map (·.orderingId), 0 < id := by
    rw [h]
    intro id hmem
    obtain ⟨i, -, rfl⟩ := List.mem_map.mp hmem
    omega
  have hincreasing : (schedule.events.map (·.orderingId)).Pairwise (· < ·) := by
    rw [h, List.pairwise_map]
    exact List.pairwise_lt_range.imp fun hlt => by omega
  exact ⟨List.forall_mem_map.mp hpositive, List.pairwise_map.mp hincreasing⟩

/-! ## The whole schedule -/

/-- **The schedule** of any sequence of bursts: it is the rows of the
accepted ones, which are those that make sense, in order. Each row is
exactly what its burst asks for, and has a greater number than the rows
before it. The notifications are numbered from one, and a matcher can be
had for them. -/
theorem scheduled_exactly (hinterval : 0 < interval) (hdelay : 0 < settings.resendDelay)
    (zeroTime : Int) (bursts : List Burst) :
    ∃ (empty : Schedule) (rows : List Row), Schedule.new zeroTime interval settings = .ok empty ∧
      rows.map Row.burst = empty.accepted bursts ∧
      empty.accepted bursts = bursts.filter (fun burst => burst.MakesSense) ∧
      (empty.after bursts).events = rows.flatMap Row.events ∧
      (∀ row ∈ rows, row.Exact zeroTime interval settings) ∧
      rows.Pairwise (fun earlier later => earlier.number < later.number) ∧
      (empty.after bursts).events.map (·.orderingId) =
        (List.range (empty.after bursts).events.length).map (fun i : Nat => (i : Int) + 1) ∧
      ∃ matcher, Matcher.new (empty.after bursts).events = .ok matcher := by
  let empty : Schedule := ⟨zeroTime, interval, settings, [], 0, hinterval, hdelay⟩
  have hnew : Schedule.new zeroTime interval settings = .ok empty := by
    simp only [Schedule.new, dif_pos hinterval, dif_pos hdelay, empty]
  have hempty : empty.Counted := rfl
  have hcounted : (empty.after bursts).Counted := hempty.after bursts
  obtain ⟨rows, h⟩ := empty.exists_rows bursts
  exact ⟨empty, rows, hnew, h.accepted, empty.accepted_eq bursts, h.events, h.exact, h.increasing,
    hcounted, Matcher.exists_new hcounted.numbered⟩

/-! ## An alert that comes back -/

/-- An alert that fires for a minute and is active again after another
half. Between its two bursts are two that make no sense. -/
def interruptedBursts (labels annotations : Labels) : List Burst := [
  .firing labels annotations 0 minute none,
  .resolved labels annotations 0 minute (some minute),
  .firing labels annotations minute minute none,
  .resolved labels annotations 0 minute (some (90 * second))]

/-- The schedule has the rows of the two others. -/
theorem scheduled_exactly_interrupted :
    0 < 10 * second ∧ 0 < ({} : Settings).resendDelay ∧
    ∃ (empty : Schedule) (rows : List Row), Schedule.new 7 (10 * second) {} = .ok empty ∧
      rows.map Row.burst = [
        .firing .empty .empty 0 minute none,
        .resolved .empty .empty 0 minute (some (90 * second))] ∧
      (empty.after (interruptedBursts .empty .empty)).events = rows.flatMap Row.events ∧
      (∀ row ∈ rows, row.Exact 7 (10 * second) {}) ∧
      ∃ matcher,
        Matcher.new (empty.after (interruptedBursts .empty .empty)).events = .ok matcher := by
  obtain ⟨empty, rows, hnew, hbursts, haccepted, hevents, hexact, -, -, hmatcher⟩ :=
    scheduled_exactly (by decide : 0 < 10 * second)
      (by decide : 0 < ({} : Settings).resendDelay) 7 (interruptedBursts .empty .empty)
  exact ⟨by decide, by decide, empty, rows, hnew, hbursts.trans haccepted, hevents, hexact,
    hmatcher⟩

end Schedule

end AlertConformance
