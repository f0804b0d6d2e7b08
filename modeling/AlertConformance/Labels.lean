/-
AlertConformance.Labels — label sets.

A label set gives names their values. It remembers the order in which the
names came, which messages and rule files show; two label sets are the
same when they give the same names the same values, in whatever order.

* `Labels.ofList`, `insert`, `override` — building.
* `same` — equality of label sets.
* `key` — the pairs in order of their names, the identity of an alert.
* `compareKeys` — the order in which alerts are compared.
* `LabelTexts` — label sets whose values are any texts.
-/
import AlertConformance.Keyed
import AlertConformance.Text.Literal

namespace AlertConformance

/-- A label set in order of insertion. -/
structure Labels where
  entries : List (String × String)
  distinct : (Keyed.keys entries).Nodup

instance : Inhabited Labels := ⟨⟨[], by simp [Keyed.keys]⟩⟩

/-- The identity of a label set: its pairs in order of their names. -/
abbrev LabelKey := List (String × String)

/-- The order of two pairs: by name, then by value. -/
def comparePairs : String × String → String × String → Ordering :=
  compareLex (compareOn Prod.fst) (compareOn Prod.snd)

/-- The order of two identities: pair by pair. -/
def compareKeys : LabelKey → LabelKey → Ordering := List.compareLex comparePairs

namespace Labels

def empty : Labels := default

/-- The label set of a sequence of insertions: a name that comes again
keeps its place and takes the new value. -/
def ofList (insertions : List (String × String)) : Labels :=
  ⟨Keyed.ofList insertions, Keyed.nodup_ofList insertions⟩

def isEmpty (labels : Labels) : Bool := labels.entries.isEmpty

def names (labels : Labels) : List String := Keyed.keys labels.entries

def get? (labels : Labels) (name : String) : Option String := Keyed.find? name labels.entries

def insert (labels : Labels) (name value : String) : Labels :=
  ⟨Keyed.put name value labels.entries, Keyed.nodup_put labels.distinct⟩

/-- The labels of the first set with those of the second one put over
them. -/
def override (labels upper : Labels) : Labels :=
  ⟨upper.entries.foldl (fun acc (name, value) => Keyed.put name value acc) labels.entries,
    Keyed.nodup_foldl_put upper.entries labels.entries labels.distinct⟩

/-- Whether two label sets give the same names the same values. -/
def same (a b : Labels) : Bool :=
  a.entries.length = b.entries.length &&
    a.entries.all fun (name, value) => b.get? name == some value

/-- Whether two label sets have the same names. -/
def sameNames (a b : Labels) : Bool :=
  a.entries.length = b.entries.length && a.names.all fun name => b.names.contains name

/-- The pairs in order of their names. -/
def key (labels : Labels) : LabelKey :=
  labels.entries.mergeSort fun a b => (comparePairs a b).isLE

def toLiteral (labels : Labels) : Literal :=
  .map (labels.entries.map fun (name, value) => (name, .text value))

theorem get?_insert (labels : Labels) (name other value : String) :
    (labels.insert name value).get? other =
      if name = other then some value else labels.get? other :=
  Keyed.find?_put name other value labels.entries

end Labels

/-! ## Values that are any texts -/

/-- A label set in order of insertion whose values may hold lone
surrogates. -/
structure LabelTexts where
  entries : List (String × Text)
  distinct : (Keyed.keys entries).Nodup

namespace LabelTexts

/-- The labels of a sequence of insertions. -/
def ofList (insertions : List (String × Text)) : LabelTexts :=
  ⟨Keyed.ofList insertions, Keyed.nodup_ofList insertions⟩

def names (labels : LabelTexts) : List String := Keyed.keys labels.entries

def get? (labels : LabelTexts) (name : String) : Option Text := Keyed.find? name labels.entries

/-- The pairs in order of their names. -/
def sorted (labels : LabelTexts) : List (String × Text) :=
  labels.entries.mergeSort fun a b => (compare a.1 b.1).isLE

end LabelTexts

/-- A label set by the texts of its values. -/
def Labels.texts (labels : Labels) : LabelTexts :=
  ⟨Keyed.mapValues Text.ofString labels.entries, by simpa using labels.distinct⟩

instance : Coe Labels LabelTexts := ⟨Labels.texts⟩

end AlertConformance
