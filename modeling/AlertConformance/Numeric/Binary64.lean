/-
AlertConformance.Numeric.Binary64 — double precision numbers with exact
meaning.

Sample values, window edges and rule durations are double precision
numbers: 53 bits of significand, exponents from -1074 to 971, rounding to
nearest with a half going to the even neighbour. A finite number is kept
as its sign, significand and exponent, so every operation below is integer
arithmetic followed by ONE rounding step, `ofScaledRatio`, and a proof
about an operation is a proof about that step.

* `ofScaledRatio` — the nearest number to `± num / den · 2 ^ e`.
* `add`, `sub`, `mul`, `div` — the rounded results.
* `compare?`, `compareInt?` — the order of the exact values; `none` as
  soon as one side is not a number.
* `roundToInt?`, `truncate?` — back to the integers.
-/
namespace AlertConformance

/-- A double precision number. The value of `finite negative m e` is
`± m · 2 ^ e`; both zeros are finite numbers with significand `0`. -/
inductive Binary64 where
  | nan
  | infinite (negative : Bool)
  | finite (negative : Bool) (significand : Nat) (exponent : Int)
  deriving DecidableEq, Repr, Inhabited

/-- The integer nearest to `num / den`, a half going to the even one. -/
def roundQuotient (num den : Nat) : Nat :=
  let quotient := num / den
  let remainder := num % den
  if 2 * remainder < den then quotient
  else if den < 2 * remainder then quotient + 1
  else if quotient % 2 = 0 then quotient else quotient + 1

namespace Binary64

/-! ## The format -/

/-- Bits of a significand. -/
def precision : Nat := 53

/-- The exponent of the smallest positive number. -/
def minExponent : Int := -1074

/-- The exponent of the largest finite number. -/
def maxExponent : Int := 971

def zero (negative : Bool) : Binary64 := finite negative 0 minExponent

/-! ## Rounding -/

/-- `num / den · 2 ^ shift` as a fraction of natural numbers. -/
def shiftRatio (num den : Nat) (shift : Int) : Nat × Nat :=
  if 0 ≤ shift then (num * Nat.pow 2 shift.toNat, den)
  else (num, den * Nat.pow 2 (-shift).toNat)

/-- The number with significand `m`, at most `2 ^ 53`, and exponent `e`:
a carry out of the significand moves to the exponent, and what lies above
the largest finite number is an infinity. -/
def pack (negative : Bool) (m : Nat) (e : Int) : Binary64 :=
  let (m, e) :=
    if m = Nat.pow 2 precision then (Nat.pow 2 (precision - 1), e + 1) else (m, e)
  if maxExponent < e then infinite negative else finite negative m e

/-- The exponent at which `num / den · 2 ^ e` has a significand of 53 bits,
or the least exponent when the number is too small for that. -/
def targetExponent (num den : Nat) (e : Int) : Int :=
  let guess := max minExponent (e + num.log2 - den.log2 - precision)
  let (n, d) := shiftRatio num den (e - guess)
  if n / d < Nat.pow 2 precision then guess else guess + 1

/-- The number nearest to `± num / den · 2 ^ e`. -/
def ofScaledRatio (negative : Bool) (num den : Nat) (e : Int) : Binary64 :=
  if num = 0 then zero negative
  else
    let target := targetExponent num den e
    let (n, d) := shiftRatio num den (e - target)
    pack negative (roundQuotient n d) target

/-- The number nearest to an integer. -/
def ofInt (n : Int) : Binary64 := ofScaledRatio (decide (n < 0)) n.natAbs 1 0

/-- The number nearest to a fraction of integers; the denominator is not
zero. -/
def ofRatio (num : Int) (den : Nat) : Binary64 :=
  ofScaledRatio (decide (num < 0)) num.natAbs den 0

instance (n : Nat) : OfNat Binary64 n := ⟨ofInt n⟩

/-! ## Classes of numbers -/

def isNaN : Binary64 → Bool
  | nan => true
  | _ => false

def isFinite : Binary64 → Bool
  | finite .. => true
  | _ => false

/-- A finite number from an integer, unless it lies beyond the largest
one. -/
def ofInt? (n : Int) : Option Binary64 :=
  match ofInt n with
  | finite s m e => some (finite s m e)
  | _ => none

/-- A finite number from a fraction, unless it lies beyond the largest
one. -/
def ofRatio? (num : Int) (den : Nat) : Option Binary64 :=
  match ofRatio num den with
  | finite s m e => some (finite s m e)
  | _ => none

/-! ## Arithmetic -/

/-- A significand with its sign. -/
def signed (negative : Bool) (m : Nat) : Int := if negative then -(m : Int) else m

def neg : Binary64 → Binary64
  | nan => nan
  | infinite s => infinite (!s)
  | finite s m e => finite (!s) m e

def abs : Binary64 → Binary64
  | nan => nan
  | infinite _ => infinite false
  | finite _ m e => finite false m e

/-- The exact sum is an integer multiple of the smaller power of two. A
zero sum is negative only when both terms are. -/
def add : Binary64 → Binary64 → Binary64
  | nan, _ => nan
  | _, nan => nan
  | infinite s, infinite t => if s = t then infinite s else nan
  | infinite s, finite .. => infinite s
  | finite .., infinite t => infinite t
  | finite s m e, finite t n f =>
    let low := min e f
    let sum := signed s (m * Nat.pow 2 (e - low).toNat) +
      signed t (n * Nat.pow 2 (f - low).toNat)
    if sum = 0 then zero (s && t) else ofScaledRatio (decide (sum < 0)) sum.natAbs 1 low

def sub (x y : Binary64) : Binary64 := add x (neg y)

def mul : Binary64 → Binary64 → Binary64
  | nan, _ => nan
  | _, nan => nan
  | infinite s, infinite t => infinite (s != t)
  | infinite s, finite t n _ => if n = 0 then nan else infinite (s != t)
  | finite s m _, infinite t => if m = 0 then nan else infinite (s != t)
  | finite s m e, finite t n f => ofScaledRatio (s != t) (m * n) 1 (e + f)

def div : Binary64 → Binary64 → Binary64
  | nan, _ => nan
  | _, nan => nan
  | infinite _, infinite _ => nan
  | infinite s, finite t _ _ => infinite (s != t)
  | finite s _ _, infinite t => zero (s != t)
  | finite s m e, finite t n f =>
    if n = 0 then if m = 0 then nan else infinite (s != t)
    else ofScaledRatio (s != t) m n (e - f)

instance : Add Binary64 := ⟨add⟩
instance : Sub Binary64 := ⟨sub⟩
instance : Mul Binary64 := ⟨mul⟩
instance : Div Binary64 := ⟨div⟩
instance : Neg Binary64 := ⟨neg⟩

/-! ## Order -/

/-- The order of `m · 2 ^ e` and `n · 2 ^ f`. -/
def compareScaled (m : Int) (e : Int) (n : Int) (f : Int) : Ordering :=
  let low := min e f
  compare (m * Int.pow 2 (e - low).toNat) (n * Int.pow 2 (f - low).toNat)

/-- The order of two values. A number that is not one has no place in the
order, and the two zeros are equal. -/
def compare? : Binary64 → Binary64 → Option Ordering
  | nan, _ => none
  | _, nan => none
  | infinite s, infinite t => some (if s = t then .eq else if s then .lt else .gt)
  | infinite s, finite .. => some (if s then .lt else .gt)
  | finite .., infinite t => some (if t then .gt else .lt)
  | finite s m e, finite t n f => some (compareScaled (signed s m) e (signed t n) f)

/-- The order of a value and an integer, which is not rounded first. -/
def compareInt? : Binary64 → Int → Option Ordering
  | nan, _ => none
  | infinite s, _ => some (if s then .lt else .gt)
  | finite s m e, n => some (compareScaled (signed s m) e n 0)

/-- Equality of values: the two zeros are equal, and a number that is not
one differs from everything. -/
def equal (x y : Binary64) : Bool := x.compare? y == some .eq

def lt (x y : Binary64) : Bool := x.compare? y == some .lt

def le (x y : Binary64) : Bool :=
  match x.compare? y with
  | some .lt | some .eq => true
  | _ => false

/-- Whether a value is at most an integer. -/
def leInt (x : Binary64) (n : Int) : Bool :=
  match x.compareInt? n with
  | some .lt | some .eq => true
  | _ => false

/-- Whether a value is greater than an integer. -/
def gtInt (x : Binary64) (n : Int) : Bool := x.compareInt? n == some .gt

/-! ## Back to the integers -/

/-- The nearest integer, a half going to the even one. Only finite numbers
have one. -/
def roundToInt? : Binary64 → Option Int
  | finite s m e =>
    let (n, d) := shiftRatio m 1 e
    some (signed s (roundQuotient n d))
  | _ => none

/-- The integer part. Only finite numbers have one. -/
def truncate? : Binary64 → Option Int
  | finite s m e =>
    let (n, d) := shiftRatio m 1 e
    some (signed s (n / d))
  | _ => none

/-- Whether a value is finite and has no fraction. -/
def isIntegral : Binary64 → Bool
  | finite _ m e =>
    let (n, d) := shiftRatio m 1 e
    n % d = 0
  | _ => false

/-! ## Approximate equality -/

/-- The relative difference that `isClose` allows, the number nearest to
one part in 10 ^ 9. -/
def relativeTolerance : Binary64 := ofRatio 1 (Nat.pow 10 9)

/-- Equality up to a relative difference of 10 ^ -9 of either value. An
infinity is close to itself only. -/
def isClose (x y : Binary64) : Bool :=
  if x.equal y then true
  else if !x.isFinite || !y.isFinite then false
  else
    let difference := (y - x).abs
    difference.le (relativeTolerance * y).abs || difference.le (relativeTolerance * x).abs

end Binary64

end AlertConformance
