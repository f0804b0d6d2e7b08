/-
AlertConformance.Observation — what is observed of the engine and what is
expected of it.

All times are integer milliseconds since the Unix epoch.

* `Alert`, `RuleSnapshot`, `GroupSnapshot` — the alerts and rules pages.
* `QuerySample` — an element of an instant vector.
* `Notification` — one alert as it arrives at a receiver.
* `ScheduledNotification` — one arrival that a test case waits for.

Each record has a literal form for messages.
-/
import AlertConformance.Labels

namespace AlertConformance

/-! ## States -/

namespace AlertState

def inactive : String := "inactive"

def pending : String := "pending"

def firing : String := "firing"

end AlertState

/-! ## The engine's pages -/

/-- An alert as the engine lists it. -/
structure Alert where
  labels : Labels
  annotations : Labels
  state : String
  value : String
  activeAt : Option Int := none
  deriving Inhabited

/-- An alerting rule as the engine lists it; `duration` is in seconds. -/
structure RuleSnapshot where
  name : String
  query : String
  state : String
  labels : Labels
  annotations : Labels
  duration : Binary64 := 0
  alerts : List Alert := []
  health : String := "ok"
  kind : String := "alerting"
  deriving Inhabited

/-- A rule group as the engine lists it; `interval` is in seconds. -/
structure GroupSnapshot where
  name : String
  interval : Binary64
  rules : List RuleSnapshot := []
  deriving Inhabited

/-- An element of an instant vector. -/
structure QuerySample where
  metric : Labels
  timestamp : Int
  value : Binary64
  deriving Inhabited

/-! ## Notifications -/

/-- One alert as the engine's notification path delivers it. -/
structure Notification where
  labels : Labels
  annotations : Labels
  startsAt : Int
  endsAt : Option Int
  resolved : Bool
  receivedAt : Int
  generatorUrl : String := ""
  deriving Inhabited

/-- A notification that a test case waits for. It is due at `ts`; a resend
is due later by as much as the first notification of its burst was late.
`resolvedTime` is when its alert resolves, `nextState` when the burst has
to be over. -/
structure ScheduledNotification where
  labels : Labels
  annotations : Labels
  startsAt : Int
  ts : Int
  resolved : Bool
  resend : Bool
  tolerance : Int
  endsAtDelta : Int
  orderingId : Int
  resolvedTime : Int
  nextState : Option Int := none
  burst : Int := 0
  deriving Inhabited

/-! ## Identity -/

def Alert.key (alert : Alert) : LabelKey := alert.labels.key

def QuerySample.key (sample : QuerySample) : LabelKey := sample.metric.key

def Notification.key (notification : Notification) : LabelKey := notification.labels.key

def ScheduledNotification.key (expected : ScheduledNotification) : LabelKey :=
  expected.labels.key

/-- What an engine without any delay delivers. -/
def ScheduledNotification.ideal (expected : ScheduledNotification) : Notification where
  labels := expected.labels
  annotations := expected.annotations
  startsAt := expected.startsAt
  endsAt :=
    some (if expected.resolved then expected.resolvedTime else expected.ts + expected.endsAtDelta)
  resolved := expected.resolved
  receivedAt := expected.ts

/-! ## Equality

Label sets are compared without their order, and a time or a value by its
own equality. -/

def Alert.same (a b : Alert) : Bool :=
  a.labels.same b.labels && a.annotations.same b.annotations && a.state = b.state &&
    a.value = b.value && a.activeAt = b.activeAt

/-- Whether two lists agree element by element. -/
def sameLists {α : Type} (same : α → α → Bool) : List α → List α → Bool
  | [], [] => true
  | a :: as, b :: bs => same a b && sameLists same as bs
  | _, _ => false

def RuleSnapshot.same (a b : RuleSnapshot) : Bool :=
  a.name = b.name && a.query = b.query && a.state = b.state && a.labels.same b.labels &&
    a.annotations.same b.annotations && a.duration.equal b.duration &&
    sameLists Alert.same a.alerts b.alerts && a.health = b.health && a.kind = b.kind

def GroupSnapshot.same (a b : GroupSnapshot) : Bool :=
  a.name = b.name && a.interval.equal b.interval && sameLists RuleSnapshot.same a.rules b.rules

/-! ## Literal forms -/

def Alert.toLiteral (alert : Alert) : Literal :=
  .record "Alert" [
    ("labels", alert.labels.toLiteral),
    ("annotations", alert.annotations.toLiteral),
    ("state", .text alert.state),
    ("value", .text alert.value),
    ("active_at", .ofInt? alert.activeAt)]

def RuleSnapshot.toLiteral (rule : RuleSnapshot) : Literal :=
  .record "AlertingRule" [
    ("name", .text rule.name),
    ("query", .text rule.query),
    ("state", .text rule.state),
    ("labels", rule.labels.toLiteral),
    ("annotations", rule.annotations.toLiteral),
    ("duration", .real rule.duration),
    ("alerts", .tuple (rule.alerts.map Alert.toLiteral)),
    ("health", .text rule.health),
    ("type", .text rule.kind)]

def GroupSnapshot.toLiteral (group : GroupSnapshot) : Literal :=
  .record "RuleGroupSnapshot" [
    ("name", .text group.name),
    ("interval", .real group.interval),
    ("rules", .tuple (group.rules.map RuleSnapshot.toLiteral))]

def QuerySample.toLiteral (sample : QuerySample) : Literal :=
  .record "QuerySample" [
    ("metric", sample.metric.toLiteral),
    ("timestamp", .int sample.timestamp),
    ("value", .real sample.value)]

def Notification.toLiteral (notification : Notification) : Literal :=
  .record "Notification" [
    ("labels", notification.labels.toLiteral),
    ("annotations", notification.annotations.toLiteral),
    ("starts_at", .int notification.startsAt),
    ("ends_at", .ofInt? notification.endsAt),
    ("resolved", .bool notification.resolved),
    ("received_at", .int notification.receivedAt),
    ("generator_url", .text notification.generatorUrl)]

def ScheduledNotification.toLiteral (expected : ScheduledNotification) : Literal :=
  .record "ExpectedNotification" [
    ("labels", expected.labels.toLiteral),
    ("annotations", expected.annotations.toLiteral),
    ("starts_at", .int expected.startsAt),
    ("ts", .int expected.ts),
    ("resolved", .bool expected.resolved),
    ("resend", .bool expected.resend),
    ("tolerance_ms", .int expected.tolerance),
    ("ends_at_delta_ms", .int expected.endsAtDelta),
    ("ordering_id", .int expected.orderingId),
    ("resolved_time", .int expected.resolvedTime),
    ("next_state", .ofInt? expected.nextState),
    ("burst", .int expected.burst)]

end AlertConformance
