/-
AlertConformance.Exposition.Family — the samples of an exposition.

Samples belong to families. A comment with the help or the type of a
metric opens the family of that metric; a sample whose name is none of the
family's closes it and is a family of its own. Families are read one after
the other, so the samples of a family are looked at before the next lines.

* `Family.exposed` — the samples of a family under their final names:
  those of a counter end in `_total`.
* `samples` — the samples of one metric.
-/
import AlertConformance.Exposition.Line
import AlertConformance.Payload.Field

namespace AlertConformance.Exposition

/-! ## Families -/

/-- A metric with its samples. -/
structure Family where
  name : List Char
  kind : List Char
  samples : List ExposedSample

/-- The kind of a family without a type. -/
def untyped : List Char := "untyped".toList

/-- The kinds of families. -/
def familyKinds : List String := [
  "counter", "gauge", "summary", "histogram", "gaugehistogram", "unknown", "info", "stateset",
  "untyped"]

/-- What the names of a family's samples may have after its own. -/
def sampleEndings (kind : List Char) : List String :=
  if kind = "summary".toList then ["_count", "_sum", ""]
  else if kind = "histogram".toList then ["_count", "_sum", "_bucket"]
  else [""]

def counterEnding : List Char := "_total".toList

namespace Family

/-- The final name of a sample. -/
def finalName (family : Family) (sample : ExposedSample) : List Char :=
  if family.kind = "counter".toList && !counterEnding.isSuffixOf family.name then
    sample.name ++ counterEnding
  else sample.name

/-- The final name of a family. -/
def title (family : Family) : List Char :=
  if family.kind = "counter".toList && counterEnding.isSuffixOf family.name then
    family.name.take (family.name.length - counterEnding.length)
  else family.name

/-- The samples of a family under their final names. A family has a name
and a known kind. -/
def exposed (family : Family) : Result (List ExposedSample) :=
  if family.title.isEmpty || !familyKinds.contains (String.ofList family.kind) then malformed
  else .ok (family.samples.map fun sample => { sample with name := family.finalName sample })

end Family

/-! ## Lines -/

/-- The open family, if there is one, and the names of its samples. -/
structure Progress where
  family : Family
  names : List (List Char)

namespace Progress

def start : Progress := ⟨⟨[], untyped, []⟩, []⟩

/-- The open family. It has a name. -/
def open? (progress : Progress) : List Family :=
  if progress.family.name.isEmpty then [] else [progress.family]

/-- After the help of a metric. -/
def onHelp (progress : Progress) (name : List Char) : List Family × Progress :=
  if name = progress.family.name then ([], progress)
  else (progress.open?, ⟨⟨name, untyped, []⟩, [name]⟩)

/-- After the type of a metric. -/
def onType (progress : Progress) (name kind : List Char) : List Family × Progress :=
  let names := (sampleEndings kind).map fun ending => name ++ ending.toList
  if name = progress.family.name then ([], ⟨⟨name, kind, progress.family.samples⟩, names⟩)
  else (progress.open?, ⟨⟨name, kind, []⟩, names⟩)

/-- After a sample. -/
def onSample (progress : Progress) (sample : ExposedSample) : List Family × Progress :=
  if progress.names.contains sample.name then
    let family := progress.family
    ([], ⟨{ family with samples := family.samples ++ [sample] }, progress.names⟩)
  else (progress.open? ++ [⟨sample.name, untyped, [sample]⟩], start)

end Progress

/-- The name in a comment. -/
def commentName (term : List Char) : Result (List Char) := do
  let (name, quoted) ← readName term
  if quoted || isPlainName name then return name else malformed

/-- The families that a line closes, and what it leaves open. -/
def readLine (progress : Progress) (line : List Char) : Result (List Family × Progress) :=
  let line := trim line
  match line with
  | [] => .ok ([], progress)
  | '#' :: _ =>
    let parts := commentParts line
    let keyword := String.ofList (parts.getD 1 [])
    if keyword = "HELP" || keyword = "TYPE" then do
      let name ← match parts[2]? with
        | some term => commentName term
        | none => pure []
      if keyword = "HELP" then return progress.onHelp name
      else match parts[3]? with
        | some kind => return progress.onType name kind
        | none => malformed
    else .ok ([], progress)
  | _ => (readSample line).map progress.onSample

/-! ## Samples -/

/-- A sample as an element of a vector. One without a timestamp gets the
given one. -/
def querySample (timestamp : Int) (sample : ExposedSample) : Result QuerySample := do
  let given ← match sample.timestamp with
    | some seconds => Payload.milliseconds (.real seconds)
    | none => pure timestamp
  let value ← sample.value.toReal
  let labels := Labels.ofList (sample.labels.map fun (name, value) =>
    (String.ofList name, String.ofList value))
  return {
    metric := labels.insert "__name__" (String.ofList sample.name)
    timestamp := given
    value := value }

/-- The samples of a metric in a family. -/
def familySamples (metric : String) (timestamp : Int) (family : Family) :
    Result (List QuerySample) := do
  let exposed ← family.exposed
  (exposed.filter fun sample => sample.name = metric.toList).mapM (querySample timestamp)

/-- The samples of a metric from the next line on. -/
def samplesFrom (metric : String) (timestamp : Int) (progress : Progress) :
    List (List Char) → Result (List QuerySample)
  | [] => do
    let found ← progress.open?.mapM (familySamples metric timestamp)
    return found.flatten
  | line :: rest => do
    let (closed, progress) ← readLine progress line
    let found ← closed.mapM (familySamples metric timestamp)
    return found.flatten ++ (← samplesFrom metric timestamp progress rest)

/-- The samples of a metric in a text. -/
def samples (metric : String) (timestamp : Int) (text : String) : Result (List QuerySample) :=
  samplesFrom metric timestamp .start (text.toList.splitOn '\n')

end AlertConformance.Exposition
