/-
AlertConformance.Json.Value — JSON values.

Payloads of the engine's API and of its notifications are JSON. Objects
keep the order of their members, and a number without fraction and
exponent is an integer of any size while every other number is a double
precision number, which may be infinite or not a number. Texts are made of
code points, because their escapes can write lone surrogates.
-/
import AlertConformance.Keyed
import AlertConformance.Text.Literal

namespace AlertConformance

/-- A JSON value. -/
inductive Json where
  | null
  | bool (value : Bool)
  | int (value : Int)
  | real (value : Binary64)
  | text (value : Text)
  | array (items : List Json)
  | object (members : List (Text × Json))
  deriving Inhabited

namespace Json

/-- The word for a value's kind in messages. -/
def kind : Json → String
  | null => "NoneType"
  | bool _ => "bool"
  | int _ => "int"
  | real _ => "float"
  | text _ => "str"
  | array _ => "list"
  | object _ => "dict"

mutual

/-- How messages show a value. -/
def toLiteral : Json → Literal
  | null => .none
  | bool value => .bool value
  | int value => .int value
  | real value => .real value
  | text value => .text value
  | array items => .list (literals items)
  | object members => .map (memberLiterals members)

def literals : List Json → List Literal
  | [] => []
  | item :: rest => item.toLiteral :: literals rest

def memberLiterals : List (Text × Json) → List (Text × Literal)
  | [] => []
  | (name, value) :: rest => (name, value.toLiteral) :: memberLiterals rest

end

/-- A value as messages show it. -/
def shown [NestingLimits] (value : Json) : Except TextFault String := value.toLiteral.shown

/-- A value as text: the characters of a text, and anything else as
messages show it. -/
def asText [NestingLimits] (value : Json) : Except TextFault String := value.toLiteral.plain

/-- The member of a name, `null` when there is none. -/
def member (name : String) (members : List (Text × Json)) : Json :=
  (Keyed.find? (name : Text) members).getD null

/-- Whether a value is a text, and which one. -/
def isText (word : String) : Json → Bool
  | text value => value = word
  | _ => false

/-- Whether a value counts as absent where a list or a map may be left
out: `null`, `false`, zero and everything empty. -/
def isVacant : Json → Bool
  | null => true
  | bool value => !value
  | int value => value = 0
  | real value => value.equal 0
  | text value => value.isEmpty
  | array items => items.isEmpty
  | object members => members.isEmpty

end Json

end AlertConformance
