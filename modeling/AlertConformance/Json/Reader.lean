/-
AlertConformance.Json.Reader — reading JSON text.

The reader takes the standard grammar, plus the numbers `NaN`, `Infinity`
and `-Infinity`. A name that comes twice in an object keeps its first
place and its last value. Text that is not JSON is `malformed`; an integer
with more digits than the library reads and a value that is nested too
deep are refused on their own, because a caller may treat them
differently.

Every step takes a character off the input, so the length of the text
bounds the depth of the recursion.
-/
import AlertConformance.Json.Value
import AlertConformance.Numeric.Numeral

namespace AlertConformance.Json

/-- Why text is not read. -/
inductive ReadFault where
  | malformed
  | integerTooLong
  | nestedTooDeep
  deriving DecidableEq, Repr

/-- A value and the characters after it. -/
abbrev Reading (α : Type) := Except ReadFault (α × List Char)

/-! ## Blanks and words -/

def isJsonBlank (c : Char) : Bool := c = ' ' || c = '\t' || c = '\n' || c = '\r'

def skipBlanks (cs : List Char) : List Char := cs.dropWhile isJsonBlank

/-- What follows a word at the head of the input. -/
def afterWord? (word : String) (cs : List Char) : Option (List Char) :=
  if word.toList.isPrefixOf cs then some (cs.drop word.length) else none

/-! ## Text -/

def hexValue? (c : Char) : Option Nat :=
  if c.isDigit then some (c.toNat - '0'.toNat)
  else if 'a' ≤ c && c ≤ 'f' then some (c.toNat - 'a'.toNat + 10)
  else if 'A' ≤ c && c ≤ 'F' then some (c.toNat - 'A'.toNat + 10)
  else none

/-- Four hexadecimal digits. -/
def readHex4? : List Char → Option (Nat × List Char)
  | a :: b :: c :: d :: rest => do
    let w ← hexValue? a
    let x ← hexValue? b
    let y ← hexValue? c
    let z ← hexValue? d
    return (((w * 16 + x) * 16 + y) * 16 + z, rest)
  | _ => none

/-- The code point of an escape by code unit, which takes two of them for
a surrogate pair. -/
def readUnit? (cs : List Char) : Option (CodePoint × List Char) :=
  (readHex4? cs).map fun (unit, rest) =>
    let first := CodePoint.ofUnit unit
    let second : Option (Nat × List Char) := match rest with
      | '\\' :: 'u' :: rest => readHex4? rest
      | _ => none
    match second with
    | some (unit, after) =>
      match CodePoint.ofPair? first (.ofUnit unit) with
      | some pair => (pair, after)
      | none => (first, rest)
    | none => (first, rest)

/-- The character of an escape with one letter. -/
def escapedChar? : Char → Option Char
  | '"' => some '"'
  | '\\' => some '\\'
  | '/' => some '/'
  | 'b' => some '\x08'
  | 'f' => some '\x0c'
  | 'n' => some '\n'
  | 'r' => some '\r'
  | 't' => some '\t'
  | _ => none

/-- Text up to the closing quote. Control characters have to be escaped. -/
def readText : (fuel : Nat) → List CodePoint → List Char → Reading Text
  | 0, _, _ => .error .malformed
  | _ + 1, _, [] => .error .malformed
  | _ + 1, seen, '"' :: rest => .ok (⟨seen.reverse⟩, rest)
  | fuel + 1, seen, '\\' :: 'u' :: rest =>
    match readUnit? rest with
    | some (point, rest) => readText fuel (point :: seen) rest
    | none => .error .malformed
  | fuel + 1, seen, '\\' :: c :: rest =>
    match escapedChar? c with
    | some c => readText fuel (.character c :: seen) rest
    | none => .error .malformed
  | fuel + 1, seen, c :: rest =>
    if c.toNat < 0x20 || c = '\\' then .error .malformed
    else readText fuel (.character c :: seen) rest

/-! ## Numbers -/

/-- The fraction at the head of the input: a point and digits. -/
def fractionChars : List Char → List Char
  | '.' :: rest =>
    let digits := rest.takeWhile Char.isDigit
    if digits.isEmpty then [] else '.' :: digits
  | _ => []

/-- The exponent at the head of the input. -/
def exponentChars : List Char → List Char
  | [] => []
  | mark :: rest =>
    if mark = 'e' || mark = 'E' then
      let sign := (rest.take 1).filter fun c => c = '+' || c = '-'
      let digits := (rest.drop sign.length).takeWhile Char.isDigit
      if digits.isEmpty then [] else mark :: sign ++ digits
    else []

/-- The digits before the point: a zero alone, or a run that starts with
another digit. -/
def wholeChars : List Char → List Char
  | '0' :: _ => ['0']
  | cs => cs.takeWhile Char.isDigit

/-- An unsigned number. -/
def readNumber (negative : Bool) (cs : List Char) : Reading Json :=
  let whole := wholeChars cs
  if whole.isEmpty then .error .malformed
  else
    let fraction := fractionChars (cs.drop whole.length)
    let exponent := exponentChars (cs.drop (whole.length + fraction.length))
    let rest := cs.drop (whole.length + fraction.length + exponent.length)
    if fraction.isEmpty && exponent.isEmpty then
      match intOfChars? whole with
      | some value => .ok (.int (if negative then -value else value), rest)
      | none => .error .integerTooLong
    else
      match decimalOfChars? negative (whole ++ fraction ++ exponent) with
      | some value => .ok (.real value, rest)
      | none => .error .malformed

/-! ## Values -/

/-- A value that is one word or a number. -/
def readScalar (cs : List Char) : Reading Json :=
  match afterWord? "null" cs, afterWord? "true" cs, afterWord? "false" cs with
  | some rest, _, _ => .ok (.null, rest)
  | _, some rest, _ => .ok (.bool true, rest)
  | _, _, some rest => .ok (.bool false, rest)
  | _, _, _ =>
    match afterWord? "NaN" cs, afterWord? "Infinity" cs, afterWord? "-Infinity" cs with
    | some rest, _, _ => .ok (.real .nan, rest)
    | _, some rest, _ => .ok (.real (.infinite false), rest)
    | _, _, some rest => .ok (.real (.infinite true), rest)
    | _, _, _ =>
      match cs with
      | '-' :: rest => readNumber true rest
      | _ => readNumber false cs

mutual

/-- A value at the head of the input, in which arrays and objects may be
nested to a depth. -/
def readValue : (fuel depth : Nat) → List Char → Reading Json
  | 0, _, _ => .error .malformed
  | _ + 1, _, '"' :: rest =>
    match readText (rest.length + 1) [] rest with
    | .ok (body, rest) => .ok (.text body, rest)
    | .error fault => .error fault
  | _ + 1, 0, '[' :: _ => .error .nestedTooDeep
  | _ + 1, 0, '{' :: _ => .error .nestedTooDeep
  | fuel + 1, depth + 1, '[' :: rest =>
    match skipBlanks rest with
    | ']' :: rest => .ok (.array [], rest)
    | rest => readItems fuel depth [] rest
  | fuel + 1, depth + 1, '{' :: rest =>
    match skipBlanks rest with
    | '}' :: rest => .ok (.object [], rest)
    | rest => readMembers fuel depth [] rest
  | _ + 1, _, cs => readScalar cs

/-- The items of an array from the next one on. -/
def readItems : (fuel depth : Nat) → List Json → List Char → Reading Json
  | 0, _, _, _ => .error .malformed
  | fuel + 1, depth, seen, cs =>
    match readValue fuel depth cs with
    | .error fault => .error fault
    | .ok (item, rest) =>
      match skipBlanks rest with
      | ']' :: rest => .ok (.array (item :: seen).reverse, rest)
      | ',' :: rest => readItems fuel depth (item :: seen) (skipBlanks rest)
      | _ => .error .malformed

/-- The members of an object from the next one on. -/
def readMembers : (fuel depth : Nat) → List (Text × Json) → List Char → Reading Json
  | 0, _, _, _ => .error .malformed
  | fuel + 1, depth, seen, '"' :: rest =>
    match readText (rest.length + 1) [] rest with
    | .error fault => .error fault
    | .ok (name, rest) =>
      match skipBlanks rest with
      | ':' :: rest =>
        match readValue fuel depth (skipBlanks rest) with
        | .error fault => .error fault
        | .ok (value, rest) =>
          let members := Keyed.put name value seen
          match skipBlanks rest with
          | '}' :: rest => .ok (.object members, rest)
          | ',' :: rest => readMembers fuel depth members (skipBlanks rest)
          | _ => .error .malformed
      | _ => .error .malformed
  | _ + 1, _, _, _ => .error .malformed

end

/-- The value that a text holds. -/
def parse [NestingLimits] (source : String) : Except ReadFault Json :=
  let cs := skipBlanks source.toList
  match readValue (2 * cs.length + 2) NestingLimits.reading cs with
  | .error fault => .error fault
  | .ok (value, rest) => if (skipBlanks rest).isEmpty then .ok value else .error .malformed

end AlertConformance.Json
