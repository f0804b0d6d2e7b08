/-
AlertConformance.Yaml.Resolution — what an unquoted YAML scalar means.

A scalar without quotes is text unless it has the form of another type:
a truth value, nothing, an integer or a fraction (in several bases, with
underscores, or in base sixty), a date, a merge key or a default value.
Text of such a form has to be quoted.
-/
import AlertConformance.Numeric.Numeral

namespace AlertConformance.Yaml

/-! ## Pieces -/

def isDigitOrUnderscore (c : Char) : Bool := c.isDigit || c = '_'

def isHexOrUnderscore (c : Char) : Bool :=
  isDigitOrUnderscore c || ('a' ≤ c && c ≤ 'f') || ('A' ≤ c && c ≤ 'F')

/-- Whether a run is not empty and holds only characters of a class. -/
def isRunOf (member : Char → Bool) (cs : List Char) : Bool := !cs.isEmpty && cs.all member

/-- Without a sign at the head. -/
def dropSign (cs : List Char) : List Char := (splitSign cs).2

/-- What follows a number of digits between `least` and `most`. -/
def afterDigits? (least most : Nat) (cs : List Char) : Option (List Char) :=
  let count := (cs.takeWhile Char.isDigit).length
  if least ≤ count && count ≤ most then some (cs.drop count) else none

/-- What follows a character. -/
def afterChar? (c : Char) : List Char → Option (List Char)
  | [] => none
  | d :: rest => if d = c then some rest else none

/-! ## Numbers -/

/-- What follows the groups of a number in base sixty: a colon and one or
two digits each, the first of two at most five. -/
def afterSixties (fuel : Nat) (cs : List Char) : List Char :=
  match fuel, cs with
  | fuel + 1, ':' :: rest =>
    match rest.takeWhile Char.isDigit with
    | [_] => afterSixties fuel (rest.drop 1)
    | [tens, _] => if tens ≤ '5' then afterSixties fuel (rest.drop 2) else cs
    | _ => cs
  | _, _ => cs

/-- What follows the head and at least one group of a number in base
sixty; the head is a run of digits and underscores. -/
def afterBaseSixty? (cs : List Char) : Option (List Char) :=
  match cs with
  | [] => none
  | c :: _ =>
    let groups := cs.dropWhile isDigitOrUnderscore
    let rest := afterSixties groups.length groups
    if c.isDigit && rest.length < groups.length then some rest else none

/-- The forms of an integer. -/
def isInteger (cs : List Char) : Bool :=
  match dropSign cs with
  | ['0'] => true
  | '0' :: 'b' :: bits => isRunOf (fun c => c = '0' || c = '1' || c = '_') bits
  | '0' :: 'x' :: digits => isRunOf isHexOrUnderscore digits
  | '0' :: digits => isRunOf (fun c => ('0' ≤ c && c ≤ '7') || c = '_') digits
  | c :: digits =>
    c.isDigit && (digits.all isDigitOrUnderscore || afterBaseSixty? (c :: digits) == some [])
  | [] => false

/-- An exponent with its sign, or nothing. -/
def isExponent : List Char → Bool
  | [] => true
  | mark :: sign :: digits =>
    (mark = 'e' || mark = 'E') && (sign = '+' || sign = '-') && isRunOf Char.isDigit digits
  | _ => false

/-- The forms of a fraction that start with a digit. -/
def isDecimalFraction (cs : List Char) : Bool :=
  match cs with
  | [] => false
  | c :: _ =>
    let plain := match cs.dropWhile isDigitOrUnderscore with
      | '.' :: rest => isExponent (rest.dropWhile isDigitOrUnderscore)
      | _ => false
    let sixty := match afterBaseSixty? cs with
      | some ('.' :: rest) => rest.all isDigitOrUnderscore
      | _ => false
    c.isDigit && (plain || sixty)

/-- The forms of a fraction. Only those that start with a digit and the
infinities may have a sign. -/
def isFraction (cs : List Char) : Bool :=
  let unsigned := dropSign cs
  let pointFirst := match cs with
    | '.' :: c :: rest => c.isDigit && isExponent (rest.dropWhile isDigitOrUnderscore)
    | _ => false
  isDecimalFraction unsigned || pointFirst ||
    ([".inf", ".Inf", ".INF"].map String.toList).contains unsigned ||
    ([".nan", ".NaN", ".NAN"].map String.toList).contains cs

/-! ## Dates -/

def isBlankOrTab (c : Char) : Bool := c = ' ' || c = '\t'

/-- The zone of a date with a time: nothing, or blanks and a `Z` or an
offset. -/
def isZone (cs : List Char) : Bool :=
  match cs.dropWhile isBlankOrTab with
  | [] => cs.isEmpty
  | ['Z'] => true
  | sign :: rest =>
    (sign = '+' || sign = '-') &&
      (match afterDigits? 1 2 rest with
        | some [] => true
        | some (':' :: minutes) => afterDigits? 2 2 minutes == some []
        | _ => false)

/-- The time of a date after its hour. -/
def isClockTail (cs : List Char) : Bool :=
  let seconds := do
    let rest ← afterChar? ':' cs
    let rest ← afterDigits? 2 2 rest
    let rest ← afterChar? ':' rest
    afterDigits? 2 2 rest
  match seconds with
  | none => false
  | some ('.' :: rest) => isZone (rest.dropWhile Char.isDigit)
  | some rest => isZone rest

/-- What stands between a date and its time: one `T` or blanks. -/
def afterDateMark? (cs : List Char) : Option (List Char) :=
  match cs with
  | [] => none
  | c :: rest =>
    if c = 'T' || c = 't' then some rest
    else if isBlankOrTab c then some (cs.dropWhile isBlankOrTab)
    else none

/-- The forms of a date, with or without a time. -/
def isDate (cs : List Char) : Bool :=
  let year := do
    let rest ← afterDigits? 4 4 cs
    afterChar? '-' rest
  let dateOnly := do
    let rest ← year
    let rest ← afterDigits? 2 2 rest
    let rest ← afterChar? '-' rest
    afterDigits? 2 2 rest
  let hour := do
    let rest ← year
    let rest ← afterDigits? 1 2 rest
    let rest ← afterChar? '-' rest
    let rest ← afterDigits? 1 2 rest
    let rest ← afterDateMark? rest
    afterDigits? 1 2 rest
  dateOnly == some [] || (hour.map isClockTail).getD false

/-! ## Words -/

/-- The words that stand for truth values, for nothing, for a merge and
for a default value. -/
def reservedWords : List String := [
  "yes", "Yes", "YES", "no", "No", "NO", "true", "True", "TRUE", "false", "False", "FALSE",
  "on", "On", "ON", "off", "Off", "OFF", "~", "null", "Null", "NULL", "", "<<", "="]

/-- Whether a scalar without quotes is text. -/
def isTextUnquoted (cs : List Char) : Bool :=
  !((reservedWords.map String.toList).contains cs || isInteger cs || isFraction cs || isDate cs)

end AlertConformance.Yaml
