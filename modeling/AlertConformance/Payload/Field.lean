/-
AlertConformance.Payload.Field — reading the fields of a payload.

A payload is a JSON value; each function below reads one kind of field, or
tells what is wrong with it.

* `decode`, `decodeBytes` — the payload in a body.
* `shown`, `text`, `refuse` — values as text, which not every value has.
* `object`, `items`, `textOr` — objects, lists and texts.
* `labelSet` — a label set, whose values may be any JSON values.
* `number`, `milliseconds`, `timestamp` — numbers and times.
-/
import AlertConformance.Error
import AlertConformance.Json.Reader
import AlertConformance.Time.Timestamp

namespace AlertConformance.Payload

variable [NestingLimits]

/-! ## Bodies -/

/-- The payload that a text holds. -/
def decode (body : String) : Result Json :=
  match Json.parse body with
  | .ok payload => .ok payload
  | .error .malformed => .error .invalidJson
  | .error .integerTooLong => .error .invalidNumber
  | .error .nestedTooDeep => .error .nestedTooDeep

/-- The payload that bytes hold. -/
def decodeBytes (body : ByteArray) : Result Json :=
  match String.fromUTF8? body with
  | some text => decode text
  | none => .error .invalidUtf8

/-! ## Values as text -/

/-- The form of a value in a message. -/
def shown (value : Json) : Result String := value.shown.mapError .ofTextFault

/-- A value as text. -/
def text (value : Json) : Result String := value.asText.mapError .ofTextFault

/-- Refuse a value with a fault that quotes it. Without a text to quote,
that is the error. -/
def refuse {α : Type} (fault : String → ResponseFault) (value : Json) : Result α := do
  throw (.response (fault (← shown value)))

/-! ## Objects, lists and texts -/

/-- The members of a value that has to be an object. -/
def object (context : String) : Json → Result (List (Text × Json))
  | .object members => .ok members
  | value => .error (.response (.notAnObject context value.kind))

/-- The items of a list that may be absent. A text stands for the list of
its code points and an object for the list of its names. -/
def items (value : Json) : Result (List Json) :=
  if value.isVacant then .ok []
  else match value with
    | .array items => .ok items
    | .text text => .ok (text.points.map fun point => .text ⟨[point]⟩)
    | .object members => .ok (members.map fun (name, _) => .text name)
    | _ => .error .notASequence

/-- The text of a member, empty when there is none. -/
def textOr (name : String) (members : List (Text × Json)) : Result String :=
  match Keyed.find? (name : Text) members with
  | some value => text value
  | none => .ok ""

/-- The label set of an object's members. Label sets are made of characters:
a lone surrogate is replaced, and names that differ in nothing else are
one name. -/
def labelsOf (members : List (Text × Json)) : Result Labels := do
  return .ofList (← members.mapM fun (name, value) => do return (name.toString, ← text value))

/-- A label set, empty when it is absent. -/
def labelSet (context : String) (value : Json) : Result Labels :=
  match value with
  | .null => .ok .empty
  | value => do labelsOf (← object context value)

/-! ## Numbers and times -/

/-- A number, which may be written as text; a truth value is zero or
one. -/
def number (fault : String → ResponseFault) : Json → Result Binary64
  | .bool value => .ok (if value then 1 else 0)
  | .int value =>
    match Binary64.ofInt? value with
    | some number => .ok number
    | none => .error .numberTooLarge
  | .real value => .ok value
  | .text text =>
    match Binary64.ofText? text.toString with
    | some number => .ok number
    | none => refuse fault (.text text)
  | value => refuse fault value

/-- Unix seconds as milliseconds. -/
def milliseconds (value : Json) : Result Int := do
  let seconds ← number .invalidUnixTimestamp value
  match Timestamp.ofSeconds? seconds with
  | some time => return time
  | none =>
    if seconds.isNaN then refuse .invalidUnixTimestamp value else throw .numberTooLarge

/-- A written instant as milliseconds. It may be absent or not set. -/
def timestamp (value : Json) : Result (Option Int) :=
  match value with
  | .null => .ok none
  | .text text =>
    if text = "" || text = Timestamp.unset then .ok none
    else match Timestamp.ofText? text with
      | some time => .ok (some time)
      | none => refuse .invalidTimestamp value
  | value => refuse .invalidTimestamp value

end AlertConformance.Payload
