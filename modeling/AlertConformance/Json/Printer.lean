/-
AlertConformance.Json.Printer — writing JSON in ASCII.

* `quotedText` — a JSON string: code points outside the printable ASCII
  range are escaped by their UTF-16 code units.
* `Json.renderIndented` — a document with one item a line, two blanks of
  indentation a level; empty arrays and objects stay on one line.
-/
import AlertConformance.Json.Value

namespace AlertConformance.Json

/-! ## Text -/

/-- An escape by code unit. -/
def unitEscape (unit : Nat) : List Char := '\\' :: 'u' :: hexDigits 4 unit

/-- The UTF-16 code units of a character. -/
def codeUnits (c : Char) : List Nat :=
  let n := c.toNat
  if n < 0x10000 then [n]
  else [0xd800 + (n - 0x10000) / 0x400, 0xdc00 + (n - 0x10000) % 0x400]

/-- A character inside a JSON string. -/
def quotedChar (c : Char) : List Char :=
  if c = '"' || c = '\\' then ['\\', c]
  else if c = '\n' then ['\\', 'n']
  else if c = '\r' then ['\\', 'r']
  else if c = '\t' then ['\\', 't']
  else if c = '\x0c' then ['\\', 'f']
  else if c = '\x08' then ['\\', 'b']
  else if ' ' ≤ c && c ≤ '~' then [c]
  else (codeUnits c).flatMap unitEscape

/-- A code point inside a JSON string. -/
def quotedPoint (point : CodePoint) : List Char :=
  match point with
  | .character c => quotedChar c
  | .surrogate _ => unitEscape point.toNat

/-- A text as a JSON string. -/
def quotedText (value : Text) : String :=
  String.ofList ('"' :: value.points.flatMap quotedPoint ++ ['"'])

/-! ## Documents -/

/-- The text of a number that need not be finite. -/
def realText (value : Binary64) : String :=
  match value with
  | .nan => "NaN"
  | .infinite negative => if negative then "-Infinity" else "Infinity"
  | _ => value.toText

def indentation (depth : Nat) : String := String.ofList ('\n' :: List.replicate (2 * depth) ' ')

mutual

/-- A document at a depth of nesting. -/
def renderAt (depth : Nat) : Json → String
  | null => "null"
  | bool value => if value then "true" else "false"
  | int value => toString value
  | real value => realText value
  | text value => quotedText value
  | array [] => "[]"
  | array (item :: rest) =>
    "[" ++ ",".intercalate (renderItems (depth + 1) (item :: rest)) ++ indentation depth ++ "]"
  | object [] => "\x7b\x7d"
  | object (entry :: rest) =>
    "\x7b" ++ ",".intercalate (renderMembers (depth + 1) (entry :: rest)) ++
      indentation depth ++ "\x7d"

def renderItems (depth : Nat) : List Json → List String
  | [] => []
  | item :: rest => (indentation depth ++ renderAt depth item) :: renderItems depth rest

def renderMembers (depth : Nat) : List (Text × Json) → List String
  | [] => []
  | (name, value) :: rest =>
    (indentation depth ++ quotedText name ++ ": " ++ renderAt depth value) ::
      renderMembers depth rest

end

/-- A document with one item a line. -/
def renderIndented (value : Json) : String := renderAt 0 value

end AlertConformance.Json
