/-
AlertConformance.Proofs.Json.Shown — which values have a text.

Messages quote values, and label sets are made of their texts. A value has
a text as long as its integers are not too long and nothing in it is nested
too deep. Payloads are read from JSON text within the same limits, so what
has been read can be shown; a payload that comes from elsewhere need not.

* `Json.ShownWithin` — a value has a text when it may be nested to a depth.
* `Json.HasText` — a value has a text, and so have its parts.
* `Json.exists_shown_iff`, `Json.exists_asText_iff` — then it is shown.
* `Json.hasText_of_parse` — what is read has a text.
-/
import AlertConformance.Json.Reader
import AlertConformance.Proofs.LabelKey
import AlertConformance.Proofs.Numeric.Decimal

namespace AlertConformance.Json

/-! ## Values within a depth -/

/-- A value has a text when it may be nested to a depth. -/
def ShownWithin (depth : Nat) (value : Json) : Prop := value.toLiteral.textFault? depth = none

instance (depth : Nat) (value : Json) : Decidable (value.ShownWithin depth) :=
  inferInstanceAs (Decidable (_ = none))

variable {depth : Nat}

@[simp] theorem shownWithin_int {value : Int} :
    ShownWithin (depth + 1) (int value) ↔ isWritable value = true := by
  simp [ShownWithin, toLiteral, Literal.textFault?]

theorem textFaultOfAll?_eq_none_iff {items : List Json} :
    Literal.textFaultOfAll? (literals items) depth = none ↔
      ∀ item ∈ items, item.ShownWithin depth := by
  induction items with
  | nil => simp [literals, Literal.textFaultOfAll?]
  | cons item rest ih =>
    rw [literals, Literal.textFaultOfAll?, Option.or_eq_none_iff, ih, List.forall_mem_cons]
    rfl

theorem textFaultOfEntries?_eq_none_iff {members : List (Text × Json)} :
    Literal.textFaultOfEntries? (memberLiterals members) depth = none ↔
      ∀ member ∈ members, member.2.ShownWithin depth := by
  induction members with
  | nil => simp [memberLiterals, Literal.textFaultOfEntries?]
  | cons member rest ih =>
    obtain ⟨name, value⟩ := member
    rw [memberLiterals, Literal.textFaultOfEntries?, Option.or_eq_none_iff, ih,
      List.forall_mem_cons]
    rfl

@[simp] theorem shownWithin_array {items : List Json} :
    ShownWithin (depth + 1) (array items) ↔ ∀ item ∈ items, item.ShownWithin depth := by
  rw [ShownWithin, toLiteral, Literal.textFault?, textFaultOfAll?_eq_none_iff]

@[simp] theorem shownWithin_object {members : List (Text × Json)} :
    ShownWithin (depth + 1) (object members) ↔
      ∀ member ∈ members, member.2.ShownWithin depth := by
  rw [ShownWithin, toLiteral, Literal.textFault?, textFaultOfEntries?_eq_none_iff]

theorem not_shownWithin_zero (value : Json) : ¬ value.ShownWithin 0 := by
  cases value <;> simp [ShownWithin, toLiteral, Literal.textFault?]

/-- More depth does no harm. -/
theorem ShownWithin.succ {value : Json} (h : value.ShownWithin depth) :
    value.ShownWithin (depth + 1) := by
  induction depth generalizing value with
  | zero => exact absurd h (not_shownWithin_zero value)
  | succ depth ih =>
    cases value with
    | int value => exact shownWithin_int.mpr (shownWithin_int.mp h)
    | array items => exact shownWithin_array.mpr fun item hmem => ih (shownWithin_array.mp h item hmem)
    | object members =>
      exact shownWithin_object.mpr fun member hmem => ih (shownWithin_object.mp h member hmem)
    | _ => rfl

theorem ShownWithin.mono {value : Json} {deeper : Nat} (h : value.ShownWithin depth)
    (hle : depth ≤ deeper) : value.ShownWithin deeper := by
  induction hle with
  | refl => exact h
  | step _ ih => exact ih.succ

/-! ## Values with a text -/

section Shown

variable [NestingLimits]

/-- A value has a text. -/
def HasText (value : Json) : Prop := value.ShownWithin NestingLimits.showing

instance (value : Json) : Decidable value.HasText :=
  inferInstanceAs (Decidable (ShownWithin _ _))

theorem exists_showing_eq : ∃ depth, NestingLimits.showing = depth + 1 :=
  Nat.exists_eq_add_one_of_ne_zero (Nat.ne_zero_of_lt NestingLimits.reading_lt_showing)

@[simp] theorem hasText_null : HasText null := by
  obtain ⟨depth, hdepth⟩ := exists_showing_eq
  rw [HasText, hdepth]
  rfl

@[simp] theorem hasText_bool (value : Bool) : HasText (bool value) := by
  obtain ⟨depth, hdepth⟩ := exists_showing_eq
  rw [HasText, hdepth]
  rfl

@[simp] theorem hasText_real (value : Binary64) : HasText (real value) := by
  obtain ⟨depth, hdepth⟩ := exists_showing_eq
  rw [HasText, hdepth]
  rfl

theorem hasText_int {value : Int} : HasText (int value) ↔ isWritable value = true := by
  obtain ⟨depth, hdepth⟩ := exists_showing_eq
  rw [HasText, hdepth, shownWithin_int]

@[simp] theorem hasText_text (value : Text) : HasText (text value) := by
  obtain ⟨depth, hdepth⟩ := exists_showing_eq
  rw [HasText, hdepth]
  rfl

/-- The items of an array have texts, … -/
theorem HasText.of_mem_array {items : List Json} {item : Json} (h : HasText (array items))
    (hmem : item ∈ items) : item.HasText := by
  obtain ⟨depth, hdepth⟩ := exists_showing_eq
  rw [HasText, hdepth] at h ⊢
  exact (shownWithin_array.mp h item hmem).succ

/-- … and so have the members of an object. -/
theorem HasText.of_mem_object {members : List (Text × Json)} {member : Text × Json}
    (h : HasText (object members)) (hmem : member ∈ members) : member.2.HasText := by
  obtain ⟨depth, hdepth⟩ := exists_showing_eq
  rw [HasText, hdepth] at h ⊢
  exact (shownWithin_object.mp h member hmem).succ

theorem HasText.member {members : List (Text × Json)} (h : HasText (object members))
    (name : String) : (Json.member name members).HasText := by
  rw [Json.member]
  cases hfound : Keyed.find? (name : Text) members with
  | none => exact hasText_null
  | some value => exact h.of_mem_object (Keyed.mem_of_find? hfound)

/-- A value is shown when it has a text. -/
theorem exists_shown_iff {value : Json} : (∃ shown, value.shown = .ok shown) ↔ value.HasText := by
  unfold Json.shown Literal.shown HasText ShownWithin
  split <;> simp [*]

theorem exists_asText_iff {value : Json} : (∃ text, value.asText = .ok text) ↔ value.HasText := by
  cases value with
  | text value => exact iff_of_true ⟨_, rfl⟩ (hasText_text value)
  | _ => exact exists_shown_iff

end Shown

/-! ## What is read -/

theorem shownWithin_of_readNumber {negative : Bool} {cs rest : List Char} {value : Json}
    (h : readNumber negative cs = .ok (value, rest)) : value.ShownWithin (depth + 1) := by
  simp only [readNumber] at h
  split at h
  · cases h
  split at h
  · split at h
    · rename_i number hnumber
      obtain ⟨rfl, -⟩ := Prod.mk.inj (Except.ok.inj h)
      have hwritable := isWritable_of_intOfChars? hnumber
      cases negative with
      | true => exact shownWithin_int.mpr ((isWritable_neg number).trans hwritable)
      | false => exact shownWithin_int.mpr hwritable
    · cases h
  · split at h
    · obtain ⟨rfl, -⟩ := Prod.mk.inj (Except.ok.inj h)
      rfl
    · cases h

theorem shownWithin_of_readScalar {cs rest : List Char} {value : Json}
    (h : readScalar cs = .ok (value, rest)) : value.ShownWithin (depth + 1) := by
  unfold readScalar at h
  split at h
  case h_4 =>
    split at h
    case h_4 =>
      split at h
      · exact shownWithin_of_readNumber h
      · exact shownWithin_of_readNumber h
    all_goals
      obtain ⟨rfl, -⟩ := Prod.mk.inj (Except.ok.inj h)
      rfl
  all_goals
    obtain ⟨rfl, -⟩ := Prod.mk.inj (Except.ok.inj h)
    rfl

/-- What is read with some fuel has a text within the depth of reading: one
level for the value itself, and one for each array or object around it. -/
structure ReadsShown (fuel : Nat) : Prop where
  value : ∀ {depth : Nat} {cs rest : List Char} {value : Json},
    readValue fuel depth cs = .ok (value, rest) → value.ShownWithin (depth + 1)
  items : ∀ {depth : Nat} {seen : List Json} {cs rest : List Char} {value : Json},
    (∀ item ∈ seen, item.ShownWithin (depth + 1)) →
    readItems fuel depth seen cs = .ok (value, rest) → value.ShownWithin (depth + 2)
  members : ∀ {depth : Nat} {seen : List (Text × Json)} {cs rest : List Char} {value : Json},
    (∀ member ∈ seen, member.2.ShownWithin (depth + 1)) →
    readMembers fuel depth seen cs = .ok (value, rest) → value.ShownWithin (depth + 2)

variable {fuel : Nat}

theorem ReadsShown.value_succ (h : ReadsShown fuel) {cs rest : List Char} {value : Json}
    (hread : readValue (fuel + 1) depth cs = .ok (value, rest)) :
    value.ShownWithin (depth + 1) := by
  unfold readValue at hread
  split at hread
  case h_1 hfuel => cases hfuel
  case h_2 =>
    split at hread
    · obtain ⟨rfl, -⟩ := Prod.mk.inj (Except.ok.inj hread)
      rfl
    · cases hread
  case h_3 => cases hread
  case h_4 => cases hread
  case h_5 hfuel =>
    obtain rfl := Nat.succ.inj hfuel
    split at hread
    · obtain ⟨rfl, -⟩ := Prod.mk.inj (Except.ok.inj hread)
      exact shownWithin_array.mpr (List.forall_mem_nil _)
    · exact h.items (List.forall_mem_nil _) hread
  case h_6 hfuel =>
    obtain rfl := Nat.succ.inj hfuel
    split at hread
    · obtain ⟨rfl, -⟩ := Prod.mk.inj (Except.ok.inj hread)
      exact shownWithin_object.mpr (List.forall_mem_nil _)
    · exact h.members (List.forall_mem_nil _) hread
  case h_7 => exact shownWithin_of_readScalar hread

theorem ReadsShown.items_succ (h : ReadsShown fuel) {seen : List Json} {cs rest : List Char}
    {value : Json} (hseen : ∀ item ∈ seen, item.ShownWithin (depth + 1))
    (hread : readItems (fuel + 1) depth seen cs = .ok (value, rest)) :
    value.ShownWithin (depth + 2) := by
  unfold readItems at hread
  split at hread
  · cases hread
  rename_i item after hitem
  have hall : ∀ other ∈ item :: seen, other.ShownWithin (depth + 1) :=
    List.forall_mem_cons.mpr ⟨h.value hitem, hseen⟩
  split at hread
  · obtain ⟨rfl, -⟩ := Prod.mk.inj (Except.ok.inj hread)
    exact shownWithin_array.mpr fun other hmem => hall other (List.mem_reverse.mp hmem)
  · exact h.items hall hread
  · cases hread

theorem ReadsShown.members_succ (h : ReadsShown fuel) {seen : List (Text × Json)}
    {cs rest : List Char} {value : Json}
    (hseen : ∀ member ∈ seen, member.2.ShownWithin (depth + 1))
    (hread : readMembers (fuel + 1) depth seen cs = .ok (value, rest)) :
    value.ShownWithin (depth + 2) := by
  unfold readMembers at hread
  split at hread
  case h_1 hfuel => cases hfuel
  case h_3 => cases hread
  rename_i depth seen _ _ _ _ _ _ hfuel
  obtain rfl := Nat.succ.inj hfuel
  split at hread
  · cases hread
  rename_i name after hname
  split at hread
  case h_2 => cases hread
  split at hread
  · cases hread
  rename_i member after hmember
  have hall : ∀ other ∈ Keyed.put name member seen, other.2.ShownWithin (depth + 1) := by
    intro other hmem
    rcases Keyed.mem_put hmem with rfl | hmem
    · exact h.value hmember
    · exact hseen other hmem
  simp only at hread
  split at hread
  · obtain ⟨rfl, -⟩ := Prod.mk.inj (Except.ok.inj hread)
    exact shownWithin_object.mpr hall
  · exact h.members hall hread
  · cases hread

theorem readsShown (fuel : Nat) : ReadsShown fuel := by
  induction fuel with
  | zero =>
    constructor
    · intro depth cs rest value h
      simp [readValue] at h
    · intro depth seen cs rest value _ h
      simp [readItems] at h
    · intro depth seen cs rest value _ h
      simp [readMembers] at h
  | succ fuel ih => exact ⟨ih.value_succ, ih.items_succ, ih.members_succ⟩

/-- **What is read** has a text. -/
theorem hasText_of_parse [NestingLimits] {source : String} {value : Json}
    (h : parse source = .ok value) : value.HasText := by
  simp only [parse] at h
  split at h
  · cases h
  rename_i read rest hread
  split at h
  · obtain rfl := Except.ok.inj h
    exact ((readsShown _).value hread).mono NestingLimits.reading_lt_showing
  · cases h

end AlertConformance.Json
