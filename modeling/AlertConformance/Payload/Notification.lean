/-
AlertConformance.Payload.Notification — the notifications of a payload.

A payload is a list of alerts or an envelope with one. Without a status
field an alert is resolved when its end is not after its arrival.
-/
import AlertConformance.Payload.Field

namespace AlertConformance.Payload

variable [NestingLimits]

/-- Whether an alert with a status and an end is resolved. -/
def isResolved (status : Json) (endsAt : Option Int) (receivedAt : Int) : Bool :=
  match status with
  | .null => (endsAt.map fun time => decide (time ≤ receivedAt)).getD false
  | status => status.isText "resolved"

/-- The members of the labels of an alert, which has to have some. -/
def labelMembers (entry labels : Json) : Result (List (Text × Json)) :=
  match labels with
  | .object (first :: rest) => .ok (first :: rest)
  | _ => refuse .withoutLabels entry

/-- The start of an alert. -/
def startTime (entry startsAt : Json) : Result Int := do
  match ← timestamp startsAt with
  | some time => return time
  | none => refuse .withoutStart entry

/-- The members of the annotations of an alert; they may be left out. -/
def noteMembers (entry annotations : Json) : Result (List (Text × Json)) :=
  if annotations.isVacant then .ok []
  else match annotations with
    | .object notes => .ok notes
    | _ => refuse .annotationsNotAnObject entry

/-- An alert that arrives at a time. -/
def notification (receivedAt : Int) (value : Json) : Result Notification := do
  let members ← object "notification" value
  let pairs ← labelMembers value (Json.member "labels" members)
  let startsAt ← startTime value (Json.member "startsAt" members)
  let notes ← noteMembers value (Json.member "annotations" members)
  let endsAt ← timestamp (Json.member "endsAt" members)
  let labels ← labelsOf pairs
  let annotations ← labelsOf notes
  let generatorUrl ← textOr "generatorURL" members
  return {
    labels, annotations, startsAt, endsAt, receivedAt, generatorUrl
    resolved := isResolved (Json.member "status" members) endsAt receivedAt }

/-- The list of alerts of a payload. -/
def alertList? : Json → Option (List Json)
  | .array alerts => some alerts
  | .object members =>
    match Json.member "alerts" members with
    | .array alerts => some alerts
    | _ => none
  | _ => none

/-- The notifications of a payload that arrives at a time. -/
def notifications (receivedAt : Int) (payload : Json) : Result (List Notification) :=
  match alertList? payload with
  | some alerts => alerts.mapM (notification receivedAt)
  | none => .error (.response .noAlertList)

end AlertConformance.Payload
