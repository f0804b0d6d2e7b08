/-
AlertConformance.Text.CodePoint — text that may hold lone surrogates.

The strings of JSON are sequences of UTF-16 code units, and an escape can
write one half of a surrogate pair without the other. Such a half is no
character, yet a payload may hold it and a message has to show it. A `Text`
is therefore a list of code points; the rest of the library uses `String`.

* `CodePoint.ofUnit`, `CodePoint.ofPair?` — the code point of one code unit
  and of two.
* `Text.ofString`, `Text.toString` — between the two kinds of text. From a
  `String` and back nothing is lost.
-/
namespace AlertConformance

/-! ## Code points -/

/-- A character, or a surrogate without its partner, counted from the
first one. -/
inductive CodePoint where
  | character (c : Char)
  | surrogate (index : Fin 0x800)
  deriving DecidableEq, Repr

namespace CodePoint

/-- The first surrogate. The first half of them lead a pair, the second
half end one. -/
def firstSurrogate : Nat := 0xd800

def toNat : CodePoint → Nat
  | character c => c.toNat
  | surrogate index => firstSurrogate + index

/-- The code point of a code unit. -/
def ofUnit (unit : Nat) : CodePoint :=
  if h : firstSurrogate ≤ unit ∧ unit < firstSurrogate + 0x800 then
    surrogate ⟨unit - firstSurrogate, by omega⟩
  else character (Char.ofNat unit)

theorem toNat_ofUnit {unit : Nat} (h : unit < 0x10000) : (ofUnit unit).toNat = unit := by
  by_cases hs : firstSurrogate ≤ unit ∧ unit < firstSurrogate + 0x800
  · simp only [ofUnit, dif_pos hs, toNat]
    omega
  · have valid : unit.isValidChar := by
      simp only [firstSurrogate] at hs
      unfold Nat.isValidChar
      omega
    rw [ofUnit, dif_neg hs, toNat, Char.ofNat, dif_pos valid]
    rfl

/-- The character of a pair, when it is one: a surrogate of the first half
before one of the second half. -/
def ofPair? : CodePoint → CodePoint → Option CodePoint
  | surrogate high, surrogate low =>
    if high.val < 0x400 && 0x400 ≤ low.val then
      some (character (Char.ofNat (0x10000 + high.val * 0x400 + (low.val - 0x400))))
    else none
  | _, _ => none

/-- The character, unless it is a surrogate. -/
def character? : CodePoint → Option Char
  | character c => some c
  | surrogate _ => none

def isSurrogate (point : CodePoint) : Bool := point.character?.isNone

/-- The character that stands for a code point where only characters can
be. -/
def replaced (point : CodePoint) : Char := point.character?.getD '\ufffd'

end CodePoint

/-! ## Text -/

/-- A text by its code points. -/
structure Text where
  points : List CodePoint
  deriving DecidableEq, Repr

namespace Text

def ofString (source : String) : Text := ⟨source.toList.map .character⟩

instance : Coe String Text := ⟨ofString⟩

instance : Inhabited Text := ⟨⟨[]⟩⟩

def isEmpty (text : Text) : Bool := text.points.isEmpty

/-- The characters of a text, with a replacement for each lone
surrogate. -/
def toString (text : Text) : String := String.ofList (text.points.map CodePoint.replaced)

theorem toString_ofString (source : String) : (ofString source).toString = source := by
  have h : CodePoint.replaced ∘ CodePoint.character = id := by funext c; rfl
  simp [toString, ofString, List.map_map, h]

theorem ofString_inj {a b : String} : ofString a = ofString b ↔ a = b :=
  ⟨fun h => by rw [← toString_ofString a, h, toString_ofString], fun h => h ▸ rfl⟩

end Text

end AlertConformance
