/-
AlertConformance.Error — what can go wrong, and how it is worded.

An error is a cause with the values it is about; `Error.message` is the
only place that words one.

* `DefinitionFault` — a rule, a group, a sample line or a schedule that
  makes no sense.
* `ResponseFault` — a payload that does not have the expected shape.
* `Mismatch` — an observation that fits no candidate.
* `Rejection` — a notification that the schedule does not expect, or one
  that never came.
* `CaseFault` — a test case that is used before it starts, that has no
  expectations at some time, or not the same ones twice.
-/
import AlertConformance.Observation

namespace AlertConformance

/-! ## Definitions -/

/-- What is wrong with a definition. -/
inductive DefinitionFault where
  | invalidSample (token : String)
  | unboundedSample (token : String)
  | invalidRepeat (token : String)
  | vacuousRepeat (token : String)
  | repeatOfNothing (token : String)
  | sampleInterval (interval : Int)
  | negativeDuration (duration : Int)
  | ruleWithoutName
  | ruleWithoutExpression (rule : String)
  | negativeHold (rule : String)
  | emptyLabelName (rule : String)
  | groupWithoutName
  | groupInterval (group : String)
  | groupWithoutRules (group : String)
  | ruleTwice (group rule : String)
  | groupTwice (group : String)
  | emptyWindow (start stop : Binary64)
  | noScenario
  | scenarioWithoutWindow (scenario : String)
  | transitionOrder (transitions : List Binary64)
  | earlyHorizon (horizon last : Binary64)
  | zeroTimeBound (bound refused : Int)
  | annotationsNotCovered (rule : String)
  | snapshotSize (group : String) (needed given : Nat)
  | scheduleInterval
  | resendDelay
  | emptyBurst (labels : Labels)
  | resumesTooEarly (labels : Labels)
  | orderingIds (id previous : Int)

/-- A list of numbers as messages show it. -/
def showNumbers (values : List Binary64) : String := (Literal.list (values.map .real)).render

def DefinitionFault.message : DefinitionFault → String
  | invalidSample token => s!"invalid sample value {quoteText token}"
  | unboundedSample token => s!"sample value must be finite: {quoteText token}"
  | invalidRepeat token => s!"invalid repeat count in {quoteText token}"
  | vacuousRepeat token => s!"repeat count must be positive in {quoteText token}"
  | repeatOfNothing token => s!"repeat token {quoteText token} has no previous value to extend"
  | sampleInterval interval => s!"sample interval must be positive, got {interval}"
  | negativeDuration duration => s!"duration must not be negative, got {duration}ms"
  | ruleWithoutName => "alerting rule is missing a name"
  | ruleWithoutExpression rule => s!"alerting rule {rule} is missing an expression"
  | negativeHold rule => "alerting rule " ++ rule ++ " has a negative 'for' duration"
  | emptyLabelName rule => s!"alerting rule {rule} has an empty label or annotation name"
  | groupWithoutName => "rule group is missing a name"
  | groupInterval group => s!"rule group {group} must have a positive interval"
  | groupWithoutRules group => s!"rule group {group} has no rules"
  | ruleTwice group rule => s!"rule group {group} defines {rule} twice"
  | groupTwice group => s!"rule group {group} is defined by more than one test case"
  | emptyWindow start stop => s!"empty window [{start.toText}, {stop.toText})"
  | noScenario => "classifier needs at least one scenario"
  | scenarioWithoutWindow scenario => s!"scenario {scenario} has no windows"
  | transitionOrder transitions =>
    s!"phase transitions must increase strictly: {showNumbers transitions}"
  | earlyHorizon horizon last =>
    s!"horizon {horizon.toText} ends before the last transition {last.toText}"
  | zeroTimeBound bound refused => s!"zero time already bound to {bound}, refusing {refused}"
  | annotationsNotCovered rule =>
    s!"rendered annotations of {rule} do not cover the rule annotations"
  | snapshotSize group needed given => s!"snapshot of {group} needs {needed} rules, got {given}"
  | scheduleInterval => "group interval must be positive"
  | resendDelay => "resend delay must be positive"
  | emptyBurst labels => s!"firing burst for {labels.toLiteral.render} ends before it starts"
  | resumesTooEarly labels =>
    s!"alert {labels.toLiteral.render} becomes active again before it resolves"
  | orderingIds id previous => s!"ordering ids must increase strictly, got {id} after {previous}"

/-! ## Payloads -/

/-- What is wrong with a payload. A fault quotes the shown form of a value,
or names its kind. -/
inductive ResponseFault where
  | callFailed (status detail : String)
  | noData
  | notAnObject (context kind : String)
  | notANumber (context shown : String)
  | noArray (page array : String)
  | notAVector (shown : String)
  | malformedSample (shown : String)
  | bodyNotAnObject (path : String)
  | withoutLabels (shown : String)
  | withoutStart (shown : String)
  | annotationsNotAnObject (shown : String)
  | noAlertList
  | invalidTimestamp (shown : String)
  | invalidUnixTimestamp (shown : String)

def ResponseFault.message : ResponseFault → String
  | callFailed status detail => s!"engine API call failed with status {status}: {detail}"
  | noData => "engine API response missing data object"
  | notAnObject context kind => s!"{context} must be an object, got {kind}"
  | notANumber context shown => s!"{context} is not a number: {shown}"
  | noArray page array => s!"{page} response missing {array} array"
  | notAVector shown => s!"expected a vector result, got {shown}"
  | malformedSample shown => s!"malformed vector sample: {shown}"
  | bodyNotAnObject path => s!"{path} returned a non-object body"
  | withoutLabels shown => s!"notification without labels: {shown}"
  | withoutStart shown => s!"notification without startsAt: {shown}"
  | annotationsNotAnObject shown => s!"notification annotations must be an object: {shown}"
  | noAlertList => "notification payload is neither an alert list nor a webhook envelope"
  | invalidTimestamp shown => s!"invalid timestamp {shown}"
  | invalidUnixTimestamp shown => s!"invalid unix timestamp {shown}"

/-! ## Observations -/

/-- An observation that none of the candidates describes. -/
structure Mismatch where
  subject : String
  actual : Literal
  candidates : List Literal
  reason : String

/-- The observed thing and how many candidates there were. -/
def Mismatch.headline (mismatch : Mismatch) : String :=
  s!"{mismatch.subject} did not match any of {mismatch.candidates.length} expected candidates"

def Mismatch.message (mismatch : Mismatch) : String :=
  "; ".intercalate
    ([mismatch.headline, mismatch.reason, s!"actual: {mismatch.actual.render}"] ++
      mismatch.candidates.mapIdx fun index candidate => s!"candidate {index}: {candidate.render}")

/-! ## Notifications -/

/-- Why a notification is refused, or missed. -/
inductive RejectionCause where
  | notExpected
  | offSchedule (delay : Int)
  | wrongState (actual expected : Bool)
  | annotations
  | startsAt
  | noEndsAt
  | endsAt (actual expected : Int)
  | outOfOrder (arrived owed : Int)
  | neverArrived (count : Nat)

/-- A number with its sign, also when it is not negative. -/
def signedText (n : Int) : String := if n < 0 then toString n else s!"+{n}"

/-- The word for a truth value. -/
def boolText (value : Bool) : String := (Literal.bool value).render

def RejectionCause.message : RejectionCause → String
  | notExpected => "no remaining expected notification for this alert"
  | offSchedule delay =>
    s!"notification {signedText delay}ms " ++ (if delay < 0 then "early" else "late")
  | wrongState actual expected => s!"resolved={boolText actual}, expected {boolText expected}"
  | annotations => "annotations differ"
  | startsAt => "startsAt outside tolerance"
  | noEndsAt => "endsAt missing"
  | endsAt actual expected => s!"endsAt {actual} != {expected}"
  | outOfOrder arrived owed => s!"out of order: #{arrived} arrived before #{owed}"
  | neverArrived count => s!"{count} expected notifications never arrived"

/-- A notification that is refused, or one that is missed. -/
structure Rejection where
  cause : RejectionCause
  received : Option Notification
  expected : Option ScheduledNotification

def Rejection.message (rejection : Rejection) : String :=
  let received := rejection.received.toList.map fun n => s!"received: {n.toLiteral.render}"
  let expected := rejection.expected.toList.map fun e => s!"expected: {e.toLiteral.render}"
  "; ".intercalate (rejection.cause.message :: received ++ expected)

/-! ## Cases -/

/-- A test case that is used or defined wrongly. -/
inductive CaseFault where
  | notStarted
  | noExpectedState (elapsed : Int)
  | viewsDiffer (elapsed : Int)

def CaseFault.message : CaseFault → String
  | notStarted => "test case used before init()"
  | noExpectedState elapsed => s!"no expected state at +{elapsed}ms"
  | viewsDiffer elapsed => s!"projections differ between calls at +{elapsed}ms"

/-! ## Errors -/

/-- Everything that can go wrong. -/
inductive Error where
  | definition (fault : DefinitionFault)
  | response (fault : ResponseFault)
  | mismatch (mismatch : Mismatch)
  | rejection (rejection : Rejection)
  | caseFault (fault : CaseFault)
  | unknownName (name : String)
  | inactiveIndicator
  | invalidNumber
  | numberTooLarge
  | payloadNotAnObject
  | notASequence
  | invalidJson
  | nestedTooDeep
  | invalidUtf8
  | malformedExposition
  | blankName
  | unknownScheme

/-- The error of a value that has no text. -/
def Error.ofTextFault : TextFault → Error
  | .integerTooLong => .invalidNumber
  | .nestedTooDeep => .nestedTooDeep

/-- Whether an error belongs to the test itself: definitions, payloads,
observations, notifications and cases. -/
def Error.isVerdict : Error → Bool
  | definition _ | response _ | mismatch _ | rejection _ | caseFault _ => true
  | _ => false

/-- The wording of an error; `none` for the errors of reading, which have
no wording of their own. -/
def Error.message? : Error → Option String
  | definition fault => some fault.message
  | response fault => some fault.message
  | mismatch m => some m.message
  | rejection r => some r.message
  | caseFault fault => some fault.message
  | unknownName name => some name
  | inactiveIndicator => some "inactive alerts have no ALERTS series"
  | _ => none

/-- A result of the library. -/
abbrev Result := Except Error

end AlertConformance
