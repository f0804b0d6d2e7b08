/-
AlertConformance.Numeric.Numeral — reading numbers from text.

Numbers reach the library as text: sample values, repeat counts, values
reported by the engine. A numeral may stand between blanks, carry a sign,
use the digits of any script and group them by single underscores.

* `readInt?` — integers.
* `Binary64.ofText?` — decimal fractions with an optional exponent,
  infinities and `nan`, in any case.
* `Binary64.ofDecimal` — the number nearest to a decimal.
-/
import AlertConformance.Numeric.Binary64
import AlertConformance.Text.Blank
import AlertConformance.Text.Digit
import AlertConformance.Text.Limits

namespace AlertConformance

/-! ## Characters of a numeral -/

/-- The blanks of ASCII that may surround a numeral. -/
def isNumeralBlank (c : Char) : Bool := c = ' ' || (0x9 ≤ c.toNat && c.toNat ≤ 0xd)

/-- A character of a numeral in ASCII: digits and blanks of other scripts
are replaced, anything else outside ASCII is no part of a numeral. -/
def asciiNumeralChar (c : Char) : Char :=
  if c.toNat < 0x7f then c
  else if isBlank c then ' '
  else match digitValue? c with
    | some value => digitChar value
    | none => '?'

/-- The numeral in a text: in ASCII and without the blanks around it. -/
def numeralChars (text : String) : List Char :=
  trimBy isNumeralBlank (text.toList.map asciiNumeralChar)

/-- Without the underscores that group digits; `none` when one does not
stand between two digits. -/
def ungroup (afterDigit : Bool) : List Char → Option (List Char)
  | [] => some []
  | '_' :: rest =>
    if afterDigit && (rest.head?.map Char.isDigit).getD false then ungroup false rest else none
  | c :: rest => (ungroup c.isDigit rest).map (c :: ·)

/-- The sign and the rest. -/
def splitSign : List Char → Bool × List Char
  | '-' :: rest => (true, rest)
  | '+' :: rest => (false, rest)
  | cs => (false, cs)

/-- The value of a run of ASCII digits. -/
def digitsValue (cs : List Char) : Nat :=
  cs.foldl (fun value c => 10 * value + (c.toNat - '0'.toNat)) 0

/-! ## Integers -/

/-- The integer written in ASCII characters without blanks. -/
def intOfChars? (cs : List Char) : Option Int :=
  let (negative, digits) := splitSign cs
  if digits.isEmpty || !digits.all Char.isDigit || maxIntegerDigits < digits.length then none
  else
    let value := digitsValue digits
    some (if negative then -(value : Int) else value)

/-- The integer that a text holds. -/
def readInt? (text : String) : Option Int := (ungroup false (numeralChars text)).bind intOfChars?

/-! ## Decimal fractions -/

/-- The number nearest to `± digits · 10 ^ exponent`. Exponents that are
out of reach of the digits are settled by their size alone. -/
def Binary64.ofDecimal (negative : Bool) (digits : Nat) (exponent : Int) : Binary64 :=
  if digits = 0 then .zero negative
  else if 400 < exponent then .infinite negative
  else if exponent < 0 then
    let places := (-exponent).toNat
    if digits.log2 + 1100 < 3 * places then .zero negative
    else .ofScaledRatio negative digits (Nat.pow 10 places) 0
  else .ofScaledRatio negative (digits * Nat.pow 10 exponent.toNat) 1 0

/-- The exponent part of a decimal, when the characters are one. -/
def exponentOfChars? : List Char → Option Int
  | [] => some 0
  | c :: rest =>
    if c = 'e' || c = 'E' then
      let (negative, digits) := splitSign rest
      if digits.isEmpty || !digits.all Char.isDigit then none
      else some (if negative then -(digitsValue digits : Int) else digitsValue digits)
    else none

/-- An unsigned decimal: digits with a point somewhere, then perhaps an
exponent. -/
def decimalOfChars? (negative : Bool) (cs : List Char) : Option Binary64 :=
  let whole := cs.takeWhile Char.isDigit
  let rest := cs.dropWhile Char.isDigit
  let (fraction, rest) := match rest with
    | '.' :: tail => (tail.takeWhile Char.isDigit, tail.dropWhile Char.isDigit)
    | _ => ([], rest)
  if whole.isEmpty && fraction.isEmpty then none
  else (exponentOfChars? rest).map fun exponent =>
    .ofDecimal negative (digitsValue (whole ++ fraction)) (exponent - fraction.length)

/-- The number written in ASCII characters without blanks. -/
def Binary64.ofChars? (cs : List Char) : Option Binary64 :=
  let (negative, body) := splitSign cs
  let word := String.ofList (body.map Char.toLower)
  if word = "nan" then some .nan
  else if word = "inf" || word = "infinity" then some (.infinite negative)
  else decimalOfChars? negative body

/-- The number that a text holds. -/
def Binary64.ofText? (text : String) : Option Binary64 :=
  (ungroup false (numeralChars text)).bind Binary64.ofChars?

end AlertConformance
