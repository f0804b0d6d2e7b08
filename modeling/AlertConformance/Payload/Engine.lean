/-
AlertConformance.Payload.Engine — the answers of the engine's API.

An answer is an envelope with a status and a data object. The data of the
alerts page are a list of alerts, those of the rules page a list of rule
groups, and those of a query an instant vector.

* `alerts`, `ruleGroups`, `vector` — the three kinds of answers.
* `findGroup?` — the group of a name.
-/
import AlertConformance.Payload.Field

namespace AlertConformance.Payload

variable [NestingLimits]

/-! ## The envelope -/

/-- The data of an answer that reports success. -/
def data (payload : Json) : Result (List (Text × Json)) :=
  match payload with
  | .object members =>
    let status := Json.member "status" members
    if status.isText "success" then
      match Json.member "data" members with
      | .object data => .ok data
      | _ => .error (.response .noData)
    else do
      let detail := (Keyed.find? ("error" : Text) members).getD payload
      throw (.response (.callFailed (← text status) (← text detail)))
  | _ => .error .payloadNotAnObject

/-- The items of a list that the data of a page have to hold. -/
def pageItems (page array : String) (data : List (Text × Json)) : Result (List Json) :=
  match Json.member array data with
  | .array items => .ok items
  | _ => .error (.response (.noArray page array))

/-! ## Alerts -/

/-- An alert. -/
def alert (value : Json) : Result Alert := do
  let members ← object "alert" value
  let labels ← labelSet "alert labels" (Json.member "labels" members)
  let annotations ← labelSet "alert annotations" (Json.member "annotations" members)
  let state ← textOr "state" members
  let value ← textOr "value" members
  let activeAt ← timestamp (Json.member "activeAt" members)
  return { labels, annotations, state, value, activeAt }

/-- The alerts of the alerts page. -/
def alerts (payload : Json) : Result (List Alert) := do
  (← pageItems "alerts" "alerts" (← data payload)).mapM alert

/-! ## Rule groups -/

/-- The kind of the rules that have alerts. -/
def alertingKind : String := "alerting"

/-- Whether an object describes an alerting rule. -/
def isAlerting (members : List (Text × Json)) : Bool :=
  (Json.member "type" members).isText alertingKind

/-- An alerting rule. -/
def alertingRule (members : List (Text × Json)) : Result RuleSnapshot := do
  let name ← textOr "name" members
  let query ← textOr "query" members
  let state ← textOr "state" members
  let labels ← labelSet "rule labels" (Json.member "labels" members)
  let annotations ← labelSet "rule annotations" (Json.member "annotations" members)
  let given := (Keyed.find? ("duration" : Text) members).getD (.real 0)
  let duration ← number (.notANumber "rule duration") given
  let alerts ← (← items (Json.member "alerts" members)).mapM alert
  let health ← textOr "health" members
  return {
    name, query, state, labels, annotations, duration, alerts, health, kind := alertingKind }

/-- A rule; one that is not alerting is left out. -/
def rule (value : Json) : Result (Option RuleSnapshot) := do
  let members ← object "rule" value
  if isAlerting members then return some (← alertingRule members) else return none

/-- A rule group. -/
def ruleGroup (value : Json) : Result GroupSnapshot := do
  let members ← object "rule group" value
  let rules ← (← items (Json.member "rules" members)).mapM rule
  let name ← textOr "name" members
  let given := (Keyed.find? ("interval" : Text) members).getD (.real 0)
  let interval ← number (.notANumber "group interval") given
  return { name, interval, rules := rules.filterMap id }

/-- The rule groups of the rules page. -/
def ruleGroups (payload : Json) : Result (List GroupSnapshot) := do
  (← pageItems "rules" "groups" (← data payload)).mapM ruleGroup

/-- The first group of a name. -/
def findGroup? (name : String) (groups : List GroupSnapshot) : Option GroupSnapshot :=
  groups.find? fun group => group.name = name

/-! ## Vectors -/

/-- An element of an instant vector: a metric and a pair of a time and a
value. -/
def sample (value : Json) : Result QuerySample := do
  let members ← object "vector sample" value
  match Json.member "value" members with
  | .array [time, reading] =>
    let metric ← labelSet "sample metric" (Json.member "metric" members)
    let timestamp ← milliseconds time
    let value ← number (.notANumber "sample value") reading
    return { metric, timestamp, value }
  | _ => refuse .malformedSample value

/-- The elements of an instant vector. -/
def vector (payload : Json) : Result (List QuerySample) := do
  let data ← data payload
  let resultType := Json.member "resultType" data
  if resultType.isText "vector" then (← pageItems "query" "result" data).mapM sample
  else refuse .notAVector resultType

end AlertConformance.Payload
