/-
AlertConformance.Schedule — when an engine has to send notifications.

For every alert the engine sends a firing notification as soon as the
alert fires and again every `resendDelay` while it keeps firing. Once the
alert resolves, a resolved notification is sent and sent again at the same
cadence for `resolvedRetention`, unless the alert becomes active again
first. Such a row of notifications is a burst; a schedule collects bursts
in the order in which they are generated.

* `sendTimes` — the times of one burst: `start + k * delay` below its end.
* `Schedule.step` — one more burst. One that makes no sense adds nothing.
* `idealStream` — what an engine without any delay delivers.
-/
import AlertConformance.Error
import AlertConformance.Settings

namespace AlertConformance

/-! ## Bursts -/

/-- A row of notifications of one alert. Times are relative to the start
of the test. -/
inductive Burst where
  /-- The alert fires at `start` and resolves at `stop`. It is reported as
  active since `startsAt`, or since `start`. -/
  | firing (labels annotations : Labels) (start stop : Int) (startsAt : Option Int)
  /-- The alert, active since `startsAt`, resolves at `start` and perhaps
  becomes active again at `nextState`. -/
  | resolved (labels annotations : Labels) (startsAt start : Int) (nextState : Option Int)

namespace Burst

/-- Why a burst makes no sense. -/
def fault? : Burst → Option DefinitionFault
  | firing labels _ start stop _ => if stop ≤ start then some (.emptyBurst labels) else none
  | resolved labels _ _ start (some next) =>
    if next ≤ start then some (.resumesTooEarly labels) else none
  | resolved _ _ _ _ none => none

def start : Burst → Int
  | firing _ _ start _ _ => start
  | resolved _ _ _ start _ => start

/-- When a burst is over. -/
def stop (settings : Settings) : Burst → Int
  | firing _ _ _ stop _ => stop
  | resolved _ _ _ start none => start + settings.resolvedRetention
  | resolved _ _ _ start (some next) => min (start + settings.resolvedRetention) next

end Burst

/-- The times `start`, `start + delay`, … below `stop`; the delay is
positive. -/
def sendTimes (start stop delay : Int) : List Int :=
  (List.range ((stop - start + delay - 1) / delay).toNat).map fun k : Nat => start + k * delay

/-! ## Schedules -/

/-- The notifications of the bursts so far. `bursts` counts the bursts
that were given a number. -/
structure Schedule where
  zeroTime : Int
  interval : Int
  settings : Settings
  events : List ScheduledNotification := []
  bursts : Nat := 0
  interval_pos : 0 < interval
  resendDelay_pos : 0 < settings.resendDelay

namespace Schedule

/-- An empty schedule. -/
def new (zeroTime interval : Int) (settings : Settings) : Result Schedule :=
  if hInterval : 0 < interval then
    if hDelay : 0 < settings.resendDelay then
      .ok { zeroTime, interval, settings, interval_pos := hInterval, resendDelay_pos := hDelay }
    else .error (.definition .resendDelay)
  else .error (.definition .scheduleInterval)

def endsAtDelta (schedule : Schedule) : Int :=
  schedule.settings.endsAtDelta schedule.interval

/-- The notification of a burst that is due at `time`. The first resolved
one may be late by one more evaluation, because the engine has to reset
the state of the alert; the resends follow it. -/
def event (schedule : Schedule) (burst : Burst) (orderingId : Int) (time : Int) :
    ScheduledNotification :=
  let zero := schedule.zeroTime
  match burst with
  | .firing labels annotations start stop startsAt => {
      labels, annotations, orderingId
      startsAt := zero + startsAt.getD start
      ts := zero + time
      resolved := false
      resend := time != start
      tolerance := schedule.interval
      endsAtDelta := schedule.endsAtDelta
      resolvedTime := zero + stop
      nextState := some (zero + stop)
      burst := schedule.bursts + 1 }
  | .resolved labels annotations startsAt start nextState => {
      labels, annotations, orderingId
      startsAt := zero + startsAt
      ts := zero + time
      resolved := true
      resend := time != start
      tolerance := if time = start then 2 * schedule.interval else schedule.interval
      endsAtDelta := schedule.endsAtDelta
      resolvedTime := zero + start
      nextState := nextState.map (zero + ·)
      burst := schedule.bursts + 1 }

/-- The notifications of a burst, numbered after those that are there. -/
def sends (schedule : Schedule) (burst : Burst) : List ScheduledNotification :=
  (sendTimes burst.start (burst.stop schedule.settings) schedule.settings.resendDelay).mapIdx
    fun index time => schedule.event burst (schedule.events.length + 1 + index) time

/-- The schedule with a burst. -/
def extend (schedule : Schedule) (burst : Burst) : Schedule :=
  { schedule with
    events := schedule.events ++ schedule.sends burst
    bursts := schedule.bursts + 1 }

/-- The schedule after a refused burst: no notification is added, but a
resolved burst has used up its number. -/
def refuse (schedule : Schedule) : Burst → Schedule
  | .firing .. => schedule
  | .resolved .. => { schedule with bursts := schedule.bursts + 1 }

/-- The schedule after a burst, and why the burst was refused. -/
def step (schedule : Schedule) (burst : Burst) : Schedule × Option DefinitionFault :=
  match burst.fault? with
  | none => (schedule.extend burst, none)
  | some fault => (schedule.refuse burst, some fault)

/-- The schedule with a burst that has to make sense. -/
def add (schedule : Schedule) (burst : Burst) : Result Schedule :=
  match schedule.step burst with
  | (next, none) => .ok next
  | (_, some fault) => .error (.definition fault)

end Schedule

/-! ## Delivery without delay -/

/-- The order of sending: by time, then by number. -/
def sendsBefore (a b : ScheduledNotification) : Bool :=
  (compareLex (compareOn ScheduledNotification.ts) (compareOn ScheduledNotification.orderingId)
    a b).isLE

/-- What an engine without any delay delivers, in order of sending. -/
def idealStream (expected : List ScheduledNotification) : List Notification :=
  (expected.mergeSort sendsBefore).map ScheduledNotification.ideal

end AlertConformance
