/-
AlertConformance.Proofs.Json.Quoting — reading undoes quoting.

A quoted text is ASCII between two quotes. What is not printable in ASCII
is escaped, by one letter or by its UTF-16 code units, and a character
beyond the first plane takes two of these. The reader puts the halves of a
pair together again, also of one that the text held as two lone surrogates
in a row. So reading gives the text with its pairs joined, which is the text
itself unless it held one apart.

* `Text.joined`, `Text.Whole` — a text with its pairs joined, and the texts
  that hold none apart.
* `readHex4?_hexDigits` — four hexadecimal digits.
* `quotedChar_cases` — the three ways to quote a character.
* `readUnit?_codeUnits`, `readUnit?_surrogate`, `readUnit?_pair` — the escape
  of a character, of a lone surrogate and of a pair.
* `readText_quotedChar`, `readText_quoted` — one character and a text.
* `quotedText_joined` — joining its pairs does not change a quoted text.
* `quotedPoints_ascii` — a quoted text is ASCII.
-/
import AlertConformance.Json.Printer
import AlertConformance.Json.Reader
import Mathlib.Data.List.Chain

namespace AlertConformance

variable {n unit : Nat} {c : Char} {rest : List Char}

/-! ## Surrogate pairs -/

/-- Each first half of a pair with the second half after it, as their
character. -/
def CodePoint.joinPairs : List CodePoint → List CodePoint
  | [] => []
  | [point] => [point]
  | first :: second :: rest =>
    match ofPair? first second with
    | some pair => pair :: joinPairs rest
    | none => first :: joinPairs (second :: rest)

namespace Text

/-- The text with its surrogate pairs joined. -/
def joined (text : Text) : Text := ⟨CodePoint.joinPairs text.points⟩

/-- A text that holds no pair apart: no first half of one stands directly
before a second half. -/
def Whole (text : Text) : Prop :=
  text.points.IsChain fun first second => CodePoint.ofPair? first second = none

instance (text : Text) : Decidable text.Whole := inferInstanceAs (Decidable (List.IsChain _ _))

theorem Whole.joined_eq {text : Text} (h : text.Whole) : text.joined = text := by
  obtain ⟨points⟩ := text
  simp only [joined, Text.mk.injEq, Whole] at h ⊢
  induction points using CodePoint.joinPairs.induct with
  | case1 => rfl
  | case2 point => rfl
  | case3 first second rest pair hpair =>
    rw [(List.isChain_cons_cons.mp h).1] at hpair
    cases hpair
  | case4 first second rest hnone ih =>
    simp only [CodePoint.joinPairs, hnone, ih (List.isChain_cons_cons.mp h).2]

/-- A text of characters holds no surrogate. -/
theorem whole_ofString (source : String) : (ofString source).Whole := by
  rw [Whole, ofString, List.isChain_map]
  exact List.Pairwise.isChain (List.pairwise_of_forall fun _ _ => rfl)

end Text

/-! ## Hexadecimal digits -/

/-- The last digit and those before it. -/
theorem hexDigits_succ {width : Nat} (hwidth : 0 < width) (n : Nat) :
    hexDigits (width + 1) n = hexDigits width (n / 16) ++ [Nat.digitChar (n % 16)] := by
  by_cases hsmall : n < 16
  · obtain ⟨places, rfl⟩ := Nat.exists_eq_add_of_lt hwidth
    have hquotient : n / 16 = 0 := Nat.div_eq_of_lt hsmall
    simp [hexDigits, Nat.toDigits_of_lt_base, hsmall, hquotient, Nat.mod_eq_of_lt,
      List.replicate_succ']
  · have hdigits := Nat.toDigits_append_toDigits (b := 16) (n := n / 16) (d := n % 16) (by decide)
      (by omega) (Nat.mod_lt n (by decide))
    rw [Nat.div_add_mod, Nat.toDigits_of_lt_base (Nat.mod_lt n (by decide))] at hdigits
    simp [hexDigits, ← hdigits]

theorem hexDigits_four (h : unit < 0x10000) :
    hexDigits 4 unit = [Nat.digitChar (unit / 16 / 16 / 16), Nat.digitChar (unit / 16 / 16 % 16),
      Nat.digitChar (unit / 16 % 16), Nat.digitChar (unit % 16)] := by
  have hfirst : hexDigits 1 (unit / 16 / 16 / 16) = [Nat.digitChar (unit / 16 / 16 / 16)] := by
    simp [hexDigits, Nat.toDigits_of_lt_base (show unit / 16 / 16 / 16 < 16 by omega)]
  rw [hexDigits_succ (by decide), hexDigits_succ (by decide), hexDigits_succ (by decide), hfirst]
  rfl

namespace Json

theorem hexValue?_digitChar : ∀ value < 16, hexValue? (Nat.digitChar value) = some value := by
  decide

/-- **Hexadecimal digits** are read as the number that they write. -/
theorem readHex4?_hexDigits (h : unit < 0x10000) (rest : List Char) :
    readHex4? (hexDigits 4 unit ++ rest) = some (unit, rest) := by
  have hvalue : ((unit / 16 / 16 / 16 * 16 + unit / 16 / 16 % 16) * 16 + unit / 16 % 16) * 16 +
      unit % 16 = unit := by omega
  rw [hexDigits_four h]
  simp only [List.cons_append, List.nil_append, readHex4?,
    hexValue?_digitChar _ (show unit / 16 / 16 / 16 < 16 by omega),
    hexValue?_digitChar _ (Nat.mod_lt _ (by decide : 0 < 16)), bind, Option.bind, hvalue]
  rfl

/-! ## Quoted characters -/

/-- **A character** is quoted by a letter that stands for it, as it is, or
by its code units. -/
theorem quotedChar_cases (c : Char) :
    (∃ letter, quotedChar c = ['\\', letter] ∧ escapedChar? letter = some c ∧
      letter.toNat < 0x80) ∨
    (quotedChar c = [c] ∧ c ≠ '"' ∧ c ≠ '\\' ∧ 0x20 ≤ c.toNat ∧ c.toNat < 0x80) ∨
    quotedChar c = (codeUnits c).flatMap unitEscape := by
  unfold quotedChar
  split
  · rename_i h
    rcases (by simpa using h : c = '"' ∨ c = '\\') with rfl | rfl
    · exact .inl ⟨'"', rfl, rfl, by decide⟩
    · exact .inl ⟨'\\', rfl, rfl, by decide⟩
  rename_i hspecial
  iterate 5
    split
    · subst_vars
      exact .inl ⟨_, rfl, rfl, by decide⟩
  split
  · rename_i hprintable
    simp only [Bool.or_eq_true, decide_eq_true_eq, not_or] at hspecial
    simp only [Bool.and_eq_true, decide_eq_true_eq] at hprintable
    have hlast : c.toNat ≤ 0x7e := hprintable.2
    exact .inr (.inl ⟨rfl, hspecial.1, hspecial.2, hprintable.1, by omega⟩)
  · exact .inr (.inr rfl)

/-- No character is escaped by the letter that announces a code unit. -/
theorem ne_of_escapedChar? {letter : Char} (h : escapedChar? letter = some c) : letter ≠ 'u' := by
  rintro rfl
  cases h

/-! ## Code units -/

/-- No character is a surrogate. -/
theorem toNat_range (c : Char) : c.toNat < 0xd800 ∨ 0xdfff < c.toNat ∧ c.toNat < 0x110000 :=
  c.valid

/-- A character of the first plane is its own code unit. -/
theorem ofUnit_toNat (c : Char) : CodePoint.ofUnit c.toNat = .character c := by
  have hnot : ¬ (CodePoint.firstSurrogate ≤ c.toNat ∧
      c.toNat < CodePoint.firstSurrogate + 0x800) := by
    have hrange := toNat_range c
    simp only [CodePoint.firstSurrogate]
    omega
  rw [CodePoint.ofUnit, dif_neg hnot, Char.ofNat_toNat]

/-- A code unit among the surrogates. -/
theorem ofUnit_surrogate {index : Nat} (h : index < 0x800) :
    CodePoint.ofUnit (0xd800 + index) = .surrogate ⟨index, h⟩ := by
  rw [CodePoint.ofUnit, dif_pos (by simp only [CodePoint.firstSurrogate]; omega)]
  simp only [CodePoint.firstSurrogate, Nat.add_sub_cancel_left]

/-- Two halves of a pair make its character. -/
theorem ofPair?_surrogates {high low : Nat} (hhigh : high < 0x400) (hlow : low < 0x400) :
    CodePoint.ofPair? (.ofUnit (0xd800 + high)) (.ofUnit (0xd800 + (0x400 + low))) =
      some (.character (Char.ofNat (0x10000 + high * 0x400 + low))) := by
  rw [ofUnit_surrogate (show high < 0x800 by omega),
    ofUnit_surrogate (show 0x400 + low < 0x800 by omega), CodePoint.ofPair?]
  simp only [hhigh, Nat.le_add_right, Nat.add_sub_cancel_left, decide_true, Bool.and_self, if_true]

/-- **The escape** of a character by its code units is read as the
character, whatever comes after it. -/
theorem readUnit?_codeUnits (c : Char) (rest : List Char) :
    ∃ escaped, (codeUnits c).flatMap unitEscape = '\\' :: 'u' :: escaped ∧
      readUnit? (escaped ++ rest) = some (.character c, rest) := by
  simp only [codeUnits]
  split
  · rename_i h
    refine ⟨hexDigits 4 c.toNat, by simp [unitEscape], ?_⟩
    -- a character makes no pair with what follows
    simp only [readUnit?, readHex4?_hexDigits h, Option.map_some, ofUnit_toNat, CodePoint.ofPair?]
    split <;> rfl
  · have hrange := toNat_range c
    obtain ⟨high, hhigh⟩ : ∃ high, (c.toNat - 0x10000) / 0x400 = high := ⟨_, rfl⟩
    obtain ⟨low, hlow⟩ : ∃ low, (c.toNat - 0x10000) % 0x400 = low := ⟨_, rfl⟩
    have hvalue : 0x10000 + high * 0x400 + low = c.toNat := by omega
    have hunit : 0xdc00 + low = 0xd800 + (0x400 + low) := by omega
    rw [hhigh, hlow, hunit]
    refine ⟨hexDigits 4 (0xd800 + high) ++ unitEscape (0xd800 + (0x400 + low)),
      by simp [unitEscape], ?_⟩
    simp only [readUnit?, List.append_assoc, unitEscape, List.cons_append, Option.map_some,
      readHex4?_hexDigits (show 0xd800 + high < 0x10000 by omega),
      readHex4?_hexDigits (show 0xd800 + (0x400 + low) < 0x10000 by omega),
      ofPair?_surrogates (show high < 0x400 by omega) (show low < 0x400 by omega), hvalue,
      Char.ofNat_toNat]

/-- **The escape** of a lone surrogate is read as it, when no escape
follows, … -/
theorem readUnit?_surrogate_of_ne (index : Fin 0x800)
    (h : ∀ escaped, rest ≠ '\\' :: 'u' :: escaped) :
    readUnit? (hexDigits 4 (0xd800 + index) ++ rest) = some (.surrogate index, rest) := by
  simp only [readUnit?, readHex4?_hexDigits (show 0xd800 + index.val < 0x10000 by omega),
    ofUnit_surrogate index.isLt, Option.map_some]

/-- … or when the escape after it is no second half. -/
theorem readUnit?_surrogate_unitEscape (index : Fin 0x800) (hunit : unit < 0x10000)
    (hnone : CodePoint.ofPair? (.surrogate index) (.ofUnit unit) = none) (rest : List Char) :
    readUnit? (hexDigits 4 (0xd800 + index) ++ (unitEscape unit ++ rest)) =
      some (.surrogate index, unitEscape unit ++ rest) := by
  simp only [readUnit?, readHex4?_hexDigits (show 0xd800 + index.val < 0x10000 by omega),
    ofUnit_surrogate index.isLt, Option.map_some, unitEscape, List.cons_append,
    readHex4?_hexDigits hunit, hnone]

theorem readUnit?_surrogate_quotedChar (index : Fin 0x800) (c : Char) (rest : List Char) :
    readUnit? (hexDigits 4 (0xd800 + index) ++ (quotedChar c ++ rest)) =
      some (.surrogate index, quotedChar c ++ rest) := by
  rcases quotedChar_cases c with ⟨letter, hquoted, hletter, -⟩ | ⟨hquoted, -, hescape, -⟩ | hquoted
  · rw [hquoted]
    exact readUnit?_surrogate_of_ne index (by simp [ne_of_escapedChar? hletter])
  · rw [hquoted]
    exact readUnit?_surrogate_of_ne index (by simp [hescape])
  · simp only [hquoted, codeUnits]
    split
    · rename_i h
      simpa using readUnit?_surrogate_unitEscape index h (by rw [ofUnit_toNat]; rfl) rest
    · -- the first half of a pair is no second half
      have hrange := toNat_range c
      obtain ⟨high, hhigh⟩ : ∃ high, (c.toNat - 0x10000) / 0x400 = high := ⟨_, rfl⟩
      have hnone : CodePoint.ofPair? (.surrogate index) (.ofUnit (0xd800 + high)) = none := by
        rw [ofUnit_surrogate (show high < 0x800 by omega), CodePoint.ofPair?, if_neg]
        simp
        omega
      rw [hhigh]
      simpa using readUnit?_surrogate_unitEscape index (by omega) hnone _

theorem quotedPoint_surrogate (index : Fin 0x800) :
    quotedPoint (.surrogate index) = unitEscape (0xd800 + index) := rfl

/-- A surrogate is read as it when what follows is not the other half of a
pair. -/
theorem readUnit?_surrogate {index : Fin 0x800} {next : CodePoint}
    (h : CodePoint.ofPair? (.surrogate index) next = none) (rest : List Char) :
    readUnit? (hexDigits 4 (0xd800 + index) ++ (quotedPoint next ++ rest)) =
      some (.surrogate index, quotedPoint next ++ rest) := by
  cases next with
  | character c => exact readUnit?_surrogate_quotedChar index c rest
  | surrogate low =>
    refine readUnit?_surrogate_unitEscape index ?_ ?_ rest
    · simp only [CodePoint.toNat, CodePoint.firstSurrogate]
      omega
    · simpa only [CodePoint.toNat, CodePoint.firstSurrogate, ofUnit_surrogate low.isLt] using h

/-- **The escapes** of the two halves of a pair are read as its
character. -/
theorem readUnit?_pair {high low : Fin 0x800} {pair : CodePoint}
    (h : CodePoint.ofPair? (.surrogate high) (.surrogate low) = some pair) (rest : List Char) :
    readUnit? (hexDigits 4 (0xd800 + high) ++ (unitEscape (0xd800 + low) ++ rest)) =
      some (pair, rest) := by
  simp only [readUnit?, readHex4?_hexDigits (show 0xd800 + high.val < 0x10000 by omega),
    readHex4?_hexDigits (show 0xd800 + low.val < 0x10000 by omega), ofUnit_surrogate high.isLt,
    ofUnit_surrogate low.isLt, Option.map_some, unitEscape, List.cons_append, h]

/-! ## Texts -/

/-- A character that is quoted as it is. -/
theorem readText_plain {fuel : Nat} {seen : List CodePoint} (hquote : c ≠ '"')
    (hescape : c ≠ '\\') (hcontrol : 0x20 ≤ c.toNat) :
    readText (fuel + 1) seen (c :: rest) = readText fuel (.character c :: seen) rest := by
  rw [readText]
  · rw [if_neg (by simpa [hescape] using hcontrol)]
  all_goals simp [hquote, hescape]

/-- An escape by a letter takes one step, … -/
theorem readText_letter {fuel : Nat} {seen : List CodePoint} {letter : Char}
    (h : escapedChar? letter = some c) :
    readText (fuel + 1) seen ('\\' :: letter :: rest) =
      readText fuel (.character c :: seen) rest := by
  rw [readText]
  · rw [h]
  · exact ne_of_escapedChar? h

/-- … and so does one by code unit. -/
theorem readText_unitEscape {fuel : Nat} {seen : List CodePoint} {point : CodePoint}
    {after : List Char} (h : readUnit? (hexDigits 4 unit ++ rest) = some (point, after)) :
    readText (fuel + 1) seen (unitEscape unit ++ rest) = readText fuel (point :: seen) after := by
  rw [unitEscape, List.cons_append, List.cons_append, readText, h]

/-- One character is read back, however it is quoted. -/
theorem readText_quotedChar (fuel : Nat) (seen : List CodePoint) (c : Char) (rest : List Char) :
    readText (fuel + 1) seen (quotedChar c ++ rest) = readText fuel (.character c :: seen) rest := by
  rcases quotedChar_cases c with
    ⟨letter, hquoted, hletter, -⟩ | ⟨hquoted, hquote, hescape, hcontrol, -⟩ | hquoted
  · rw [hquoted]
    exact readText_letter hletter
  · rw [hquoted]
    exact readText_plain hquote hescape hcontrol
  · obtain ⟨escaped, hescaped, hread⟩ := readUnit?_codeUnits c rest
    rw [hquoted, hescaped]
    simp only [List.cons_append, readText, hread]

theorem quotedChar_ne_nil (c : Char) : quotedChar c ≠ [] := by
  obtain ⟨escaped, hescaped, -⟩ := readUnit?_codeUnits c []
  rcases quotedChar_cases c with ⟨letter, hquoted, -⟩ | ⟨hquoted, -⟩ | hquoted
  all_goals simp [hquoted, hescaped]

theorem quotedPoint_ne_nil (point : CodePoint) : quotedPoint point ≠ [] := by
  cases point with
  | character c => exact quotedChar_ne_nil c
  | surrogate index => exact List.cons_ne_nil _ _

theorem length_le_flatMap_quotedPoint (points : List CodePoint) :
    points.length ≤ (points.flatMap quotedPoint).length := by
  induction points with
  | nil => simp
  | cons point points ih =>
    have hpos := List.length_pos_iff.mpr (quotedPoint_ne_nil point)
    simp only [List.flatMap_cons, List.length_append, List.length_cons]
    omega

theorem readText_flatMap_quotedPoint {fuel : Nat} {points : List CodePoint}
    (hfuel : points.length < fuel) (seen : List CodePoint) (rest : List Char) :
    readText fuel seen (points.flatMap quotedPoint ++ '"' :: rest) =
      .ok (⟨seen.reverse ++ CodePoint.joinPairs points⟩, rest) := by
  induction points using CodePoint.joinPairs.induct generalizing fuel seen with
  | case1 =>
    obtain ⟨fuel, rfl⟩ : ∃ next, fuel = next + 1 := Nat.exists_eq_add_one.mpr hfuel
    simp [readText, CodePoint.joinPairs]
  | case2 point =>
    obtain ⟨fuel, rfl⟩ : ∃ next, fuel = next + 2 := Nat.exists_eq_add_of_le' hfuel
    rw [List.flatMap_singleton]
    cases point with
    | character c =>
      rw [quotedPoint, readText_quotedChar]
      simp [readText, CodePoint.joinPairs]
    | surrogate index =>
      have hread : readUnit? (hexDigits 4 (0xd800 + index) ++ '"' :: rest) =
          some (.surrogate index, '"' :: rest) := readUnit?_surrogate_of_ne index (by simp)
      rw [quotedPoint_surrogate, readText_unitEscape hread]
      simp [readText, CodePoint.joinPairs]
  | case3 first second points pair hpair ih =>
    rw [List.length_cons, List.length_cons] at hfuel
    obtain ⟨fuel, rfl⟩ : ∃ next, fuel = next + 1 := Nat.exists_eq_add_one.mpr (by omega)
    have hlength : points.length < fuel := by omega
    have hrest := ih hlength (pair :: seen)
    simp only [List.flatMap_cons, List.append_assoc, CodePoint.joinPairs, hpair]
    -- only surrogates make a pair
    cases first with
    | character c => cases hpair
    | surrogate high =>
      cases second with
      | character c => cases hpair
      | surrogate low =>
        rw [quotedPoint_surrogate, quotedPoint_surrogate,
          readText_unitEscape (readUnit?_pair hpair _), hrest]
        simp
  | case4 first second points hnone ih =>
    rw [List.length_cons] at hfuel
    obtain ⟨fuel, rfl⟩ : ∃ next, fuel = next + 1 := Nat.exists_eq_add_one.mpr (by omega)
    have hlength : (second :: points).length < fuel := by omega
    have hrest := ih hlength (first :: seen)
    rw [List.flatMap_cons, List.append_assoc]
    simp only [CodePoint.joinPairs, hnone]
    cases first with
    | character c =>
      rw [quotedPoint, readText_quotedChar, hrest]
      simp
    | surrogate index =>
      rw [List.flatMap_cons, List.append_assoc] at hrest ⊢
      rw [quotedPoint_surrogate, readText_unitEscape (readUnit?_surrogate hnone _), hrest]
      simp

/-- **Reading undoes quoting**: after the opening quote the reader gives back
the text with its pairs joined, and stops after the closing quote. -/
theorem readText_quoted (text : Text) (rest : List Char) :
    let body := text.points.flatMap quotedPoint ++ '"' :: rest
    readText (body.length + 1) [] body = .ok (text.joined, rest) := by
  intro body
  have hfuel : text.points.length < body.length + 1 := by
    have hlength := length_le_flatMap_quotedPoint text.points
    simp only [body, List.length_append]
    omega
  exact readText_flatMap_quotedPoint hfuel [] rest

/-! ## Joined pairs -/

/-- A character beyond the first plane is escaped. -/
theorem quotedChar_of_le (h : 0x10000 ≤ c.toNat) :
    quotedChar c = (codeUnits c).flatMap unitEscape := by
  have hne {d : Char} (hd : d.toNat < 0x10000) : c ≠ d := by
    rintro rfl
    omega
  have hlarge : ¬ c ≤ '~' := fun hle => by
    have hle' : c.toNat ≤ 0x7e := hle
    omega
  simp [quotedChar, hne, hlarge]

/-- The escapes of two halves make the escape of their character. -/
theorem quotedPoint_of_pair {first second pair : CodePoint}
    (h : CodePoint.ofPair? first second = some pair) :
    quotedPoint pair = quotedPoint first ++ quotedPoint second := by
  cases first with
  | character c => cases h
  | surrogate high =>
    cases second with
    | character c => cases h
    | surrogate low =>
      simp only [CodePoint.ofPair?, Option.ite_none_right_eq_some, Bool.and_eq_true,
        decide_eq_true_eq, Option.some.injEq] at h
      obtain ⟨⟨hhigh, hlow⟩, rfl⟩ := h
      obtain ⟨n, hn⟩ : ∃ n, 0x10000 + high.val * 0x400 + (low.val - 0x400) = n := ⟨_, rfl⟩
      have hvalid : n.isValidChar := .inr ⟨by omega, by omega⟩
      have htoNat : (Char.ofNat n).toNat = n := by
        rw [Char.ofNat, dif_pos hvalid]
        rfl
      have hfirst : 0xd800 + (n - 0x10000) / 0x400 = 0xd800 + high.val := by omega
      have hsecond : 0xdc00 + (n - 0x10000) % 0x400 = 0xd800 + low.val := by omega
      rw [hn, quotedPoint, quotedChar_of_le (by omega), codeUnits, htoNat]
      simp only [if_neg (show ¬ n < 0x10000 by omega), hfirst, hsecond]
      simp [quotedPoint_surrogate]

theorem flatMap_quotedPoint_joinPairs (points : List CodePoint) :
    (CodePoint.joinPairs points).flatMap quotedPoint = points.flatMap quotedPoint := by
  induction points using CodePoint.joinPairs.induct with
  | case1 => rfl
  | case2 point => rfl
  | case3 first second points pair hpair ih =>
    simp only [CodePoint.joinPairs, hpair, List.flatMap_cons, quotedPoint_of_pair hpair, ih,
      List.append_assoc]
  | case4 first second points hnone ih =>
    simp only [CodePoint.joinPairs, hnone, List.flatMap_cons] at ih ⊢
    rw [ih]

/-- **Joining** the pairs of a text does not change how it is quoted. -/
theorem quotedText_joined (text : Text) : quotedText text.joined = quotedText text := by
  rw [quotedText, quotedText, Text.joined, flatMap_quotedPoint_joinPairs]

/-! ## ASCII -/

theorem digitChar_ascii : ∀ value < 16, (Nat.digitChar value).toNat < 0x80 := by decide

theorem unitEscape_ascii (h : unit < 0x10000) : ∀ c ∈ unitEscape unit, c.toNat < 0x80 := by
  rw [unitEscape, hexDigits_four h]
  simp only [List.forall_mem_cons, List.not_mem_nil, false_implies, implies_true, and_true]
  refine ⟨by decide, by decide, ?_, ?_, ?_, ?_⟩
  all_goals exact digitChar_ascii _ (by omega)

theorem codeUnits_lt (c : Char) : ∀ unit ∈ codeUnits c, unit < 0x10000 := by
  have hrange := toNat_range c
  simp only [codeUnits]
  split
  · simpa
  · simp only [List.forall_mem_cons, List.not_mem_nil, false_implies, implies_true, and_true]
    omega

theorem quotedChar_ascii (c : Char) : ∀ d ∈ quotedChar c, d.toNat < 0x80 := by
  rcases quotedChar_cases c with ⟨letter, hquoted, -, hletter⟩ | ⟨hquoted, -, -, -, hplain⟩ | hquoted
  · rw [hquoted, List.forall_mem_cons, List.forall_mem_singleton]
    exact ⟨by decide, hletter⟩
  · rwa [hquoted, List.forall_mem_singleton]
  · intro d hd
    obtain ⟨unit, hunit, hd⟩ := List.mem_flatMap.mp (hquoted ▸ hd)
    exact unitEscape_ascii (codeUnits_lt c unit hunit) d hd

theorem quotedPoint_ascii (point : CodePoint) : ∀ c ∈ quotedPoint point, c.toNat < 0x80 := by
  cases point with
  | character c => exact quotedChar_ascii c
  | surrogate index =>
    rw [quotedPoint_surrogate]
    exact unitEscape_ascii (by omega)

/-- A quoted text is ASCII. -/
theorem quotedPoints_ascii (points : List CodePoint) :
    ∀ c ∈ '"' :: points.flatMap quotedPoint ++ ['"'], c.toNat < 0x80 := by
  intro c hc
  simp only [List.mem_append, List.mem_cons, List.mem_flatMap, List.not_mem_nil, or_false] at hc
  rcases hc with (rfl | ⟨point, -, hc⟩) | rfl
  · decide
  · exact quotedPoint_ascii point c hc
  · decide

end Json

end AlertConformance
