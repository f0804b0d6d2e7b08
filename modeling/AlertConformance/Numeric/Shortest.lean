/-
AlertConformance.Numeric.Shortest — writing numbers.

* `Binary64.toText` — the fewest digits that read back as the number, and
  of the decimals with that many digits the nearest, a tie going to the
  even digit. The point is always written, and exponents below -4 or from
  16 on use the exponent form (`1e+16`, `2.5e-07`).
* `Binary64.toFixed` — a fixed count of places, a half going to the even
  digit.
-/
import AlertConformance.Numeric.Numeral

namespace AlertConformance.Binary64

/-! ## The shortest decimal -/

/-- `10 ^ shift` times a fraction. -/
def shiftDecimal (num den : Nat) (shift : Int) : Nat × Nat :=
  if 0 ≤ shift then (num * Nat.pow 10 shift.toNat, den)
  else (num, den * Nat.pow 10 (-shift).toNat)

/-- The power of ten of the leading digit of a positive fraction. The
binary logarithm gives it up to one. -/
def leadingPower (num den : Nat) : Int :=
  let guess := (((num.log2 : Int) - den.log2) * 30103).fdiv 100000
  let reaches (power : Int) : Bool :=
    let (n, d) := shiftDecimal num den (-power)
    d ≤ n
  if reaches (guess + 1) then guess + 1
  else if reaches guess then guess
  else guess - 1

/-- The decimal of `count` digits that is nearest to `m · 2 ^ e` among its
two neighbours that read back as it, as digits and a power of ten. -/
def nearestDecimal? (m : Nat) (e : Int) (count : Nat) : Option (Nat × Int) :=
  let (num, den) := shiftRatio m 1 e
  let power := leadingPower num den - count + 1
  let (n, d) := shiftDecimal num den (-power)
  let below := n / d
  let readsBack (digits : Nat) : Bool := ofDecimal false digits power = finite false m e
  match readsBack below, readsBack (below + 1) with
  | true, true => some (roundQuotient n d, power)
  | true, false => some (below, power)
  | false, true => some (below + 1, power)
  | false, false => none

/-- The first count of digits from `count` on that suffices. Seventeen
always do. -/
def shortestFrom (m : Nat) (e : Int) : (count fuel : Nat) → Nat × Int
  | count, fuel + 1 => (nearestDecimal? m e count).getD (shortestFrom m e (count + 1) fuel)
  | _, 0 => (0, 0)

/-- Digits without trailing zeros and the power of ten of the first one. -/
def shortestDigits (m : Nat) (e : Int) : List Char × Int :=
  let (digits, power) := shortestFrom m e 1 17
  let all := (toString digits).toList
  ((all.reverse.dropWhile (· = '0')).reverse, power + all.length - 1)

/-! ## Text -/

/-- Digits with the point after the one of power zero. -/
def positional (digits : List Char) (lead : Int) : List Char :=
  if lead < 0 then '0' :: '.' :: List.replicate (-lead - 1).toNat '0' ++ digits
  else
    let width := lead.toNat + 1
    let whole := digits.take width ++ List.replicate (width - digits.length) '0'
    let fraction := digits.drop width
    whole ++ '.' :: (if fraction.isEmpty then ['0'] else fraction)

/-- Digits with the point after the first one and an exponent of at least
two digits. -/
def scientific (digits : List Char) (lead : Int) : List Char :=
  let point := match digits with
    | [] => []
    | [d] => [d]
    | d :: rest => d :: '.' :: rest
  let exponent := (toString lead.natAbs).toList
  let padded := if exponent.length < 2 then '0' :: exponent else exponent
  point ++ 'e' :: (if lead < 0 then '-' else '+') :: padded

/-- The shortest text that reads back as the number. -/
def toText : Binary64 → String
  | nan => "nan"
  | infinite s => if s then "-inf" else "inf"
  | finite s m e =>
    let body :=
      if m = 0 then ['0', '.', '0']
      else
        let (digits, lead) := shortestDigits m e
        if -4 ≤ lead && lead < 16 then positional digits lead else scientific digits lead
    String.ofList (if s then '-' :: body else body)

/-- The number with `places` digits after the point. -/
def toFixed (places : Nat) : Binary64 → String
  | nan => "nan"
  | infinite s => if s then "-inf" else "inf"
  | finite s m e =>
    let (num, den) := shiftRatio m 1 e
    let unit := Nat.pow 10 places
    let scaled := roundQuotient (num * unit) den
    let fraction := (toString (scaled % unit)).toList
    let padded := List.replicate (places - fraction.length) '0' ++ fraction
    let body := (toString (scaled / unit)).toList ++
      (if places = 0 then [] else '.' :: padded)
    String.ofList (if s then '-' :: body else body)

end AlertConformance.Binary64
