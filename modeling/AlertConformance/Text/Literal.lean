/-
AlertConformance.Text.Literal — how messages show values.

A message quotes what it talks about: labels, alerts, payloads. The shown
form is a tree, `Literal`, and one printer.

* Text stands between single quotes, or between double quotes when it has
  a single quote and no double one; quotes and backslashes are escaped,
  and so is every character that is not printable.
* Lists, tuples and maps list their elements in order. A tuple of one
  element keeps its comma.
* A record shows its name and every field.

A value from outside may have no such form: `Literal.textFault?` tells why,
and `Literal.shown` is the form of a value that has one.
-/
import AlertConformance.Numeric.Shortest
import AlertConformance.Text.CodePoint
import AlertConformance.Text.Limits
import AlertConformance.Text.Printable

namespace AlertConformance

/-- A value as a message shows it. -/
inductive Literal where
  | none
  | bool (value : Bool)
  | int (value : Int)
  | real (value : Binary64)
  | text (value : Text)
  | list (items : List Literal)
  | tuple (items : List Literal)
  | map (entries : List (Text × Literal))
  | record (name : String) (fields : List (String × Literal))
  deriving Inhabited

/-- Why a value has no text. -/
inductive TextFault where
  | integerTooLong
  | nestedTooDeep
  deriving DecidableEq, Repr

/-! ## Text -/

/-- The hexadecimal digits of a number, at least `width` of them. -/
def hexDigits (width n : Nat) : List Char :=
  let digits := Nat.toDigits 16 n
  List.replicate (width - digits.length) '0' ++ digits

/-- A code point that is not printable, by its number. -/
def escapeCodePoint (n : Nat) : List Char :=
  if n < 0x100 then '\\' :: 'x' :: hexDigits 2 n
  else if n < 0x10000 then '\\' :: 'u' :: hexDigits 4 n
  else '\\' :: 'U' :: hexDigits 8 n

/-- A character between quotes. -/
def quoteChar (quote c : Char) : List Char :=
  if c = quote || c = '\\' then ['\\', c]
  else if c = '\n' then ['\\', 'n']
  else if c = '\r' then ['\\', 'r']
  else if c = '\t' then ['\\', 't']
  else if isPrintable c then [c]
  else escapeCodePoint c.toNat

/-- A code point between quotes. No lone surrogate is printable. -/
def quotePoint (quote : Char) (point : CodePoint) : List Char :=
  match point with
  | .character c => quoteChar quote c
  | .surrogate _ => escapeCodePoint point.toNat

/-- Text between quotes. -/
def quoteText (text : Text) : String :=
  let holds (c : Char) : Bool := text.points.contains (.character c)
  let quote := if holds '\'' && !holds '"' then '"' else '\''
  String.ofList (quote :: text.points.flatMap (quotePoint quote) ++ [quote])

/-! ## Values -/

/-- Elements with a comma and a space between them. -/
def commaSeparated (items : List String) : String := ", ".intercalate items

namespace Literal

mutual

/-- The shown form of a value, as far as it has one. -/
def render : Literal → String
  | .none => "None"
  | .bool value => if value then "True" else "False"
  | .int value => toString value
  | .real value => value.toText
  | .text value => quoteText value
  | .list items => "[" ++ commaSeparated (renderAll items) ++ "]"
  | .tuple items =>
    "(" ++ commaSeparated (renderAll items) ++ (if items.length = 1 then ",)" else ")")
  | .map entries => "\x7b" ++ commaSeparated (renderEntries entries) ++ "\x7d"
  | .record name fields => name ++ "(" ++ commaSeparated (renderFields fields) ++ ")"

def renderAll : List Literal → List String
  | [] => []
  | item :: rest => item.render :: renderAll rest

def renderEntries : List (Text × Literal) → List String
  | [] => []
  | (key, value) :: rest => (quoteText key ++ ": " ++ value.render) :: renderEntries rest

def renderFields : List (String × Literal) → List String
  | [] => []
  | (name, value) :: rest => (name ++ "=" ++ value.render) :: renderFields rest

end

/-! ## Values without a text -/

mutual

/-- Why a value has no text when it may be nested to a depth: the first
fault on the way through it. -/
def textFault? : Literal → (depth : Nat) → Option TextFault
  | _, 0 => some .nestedTooDeep
  | .int value, _ + 1 => if isWritable value then Option.none else some .integerTooLong
  | .list items, depth + 1 => textFaultOfAll? items depth
  | .tuple items, depth + 1 => textFaultOfAll? items depth
  | .map entries, depth + 1 => textFaultOfEntries? entries depth
  | .record _ fields, depth + 1 => textFaultOfFields? fields depth
  | _, _ + 1 => Option.none

def textFaultOfAll? : List Literal → (depth : Nat) → Option TextFault
  | [], _ => Option.none
  | item :: rest, depth => (item.textFault? depth).or (textFaultOfAll? rest depth)

def textFaultOfEntries? : List (Text × Literal) → (depth : Nat) → Option TextFault
  | [], _ => Option.none
  | (_, value) :: rest, depth => (value.textFault? depth).or (textFaultOfEntries? rest depth)

def textFaultOfFields? : List (String × Literal) → (depth : Nat) → Option TextFault
  | [], _ => Option.none
  | (_, value) :: rest, depth => (value.textFault? depth).or (textFaultOfFields? rest depth)

end

/-- The shown form of a value that has one. -/
def shown [NestingLimits] (value : Literal) : Except TextFault String :=
  match value.textFault? NestingLimits.showing with
  | some fault => .error fault
  | Option.none => .ok value.render

/-- The bare form: text without quotes, anything else as shown. -/
def plain [NestingLimits] : Literal → Except TextFault String
  | .text value => .ok value.toString
  | other => other.shown

/-- A number that may be absent. -/
def ofInt? : Option Int → Literal
  | some n => .int n
  | Option.none => .none

end Literal

end AlertConformance
