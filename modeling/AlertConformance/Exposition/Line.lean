/-
AlertConformance.Exposition.Line — the lines of the text exposition format.

A sample stands on one line: a name, labels in braces, a value, and
perhaps a timestamp in milliseconds. Names and values of labels may be
quoted, and inside quotes separators have no meaning. A line that starts
with `#` is a comment, or tells the help or the type of a metric.

* `splitUnquoted` — a text at its first separator outside quotes.
* `readLabels` — the labels between braces.
* `readSample` — a sample line.
* `commentParts` — the words of a comment line.
-/
import AlertConformance.Error

namespace AlertConformance.Exposition

/-- Reading fails in one way, apart from names of blanks only and numbers
that are too large. -/
def malformed {α : Type} : Result α := .error .malformedExposition

/-! ## Quotes -/

/-- What stands before the first character outside quotes that `stops`
picks, and the text from that character on. `quoted` tells whether the
text starts inside quotes, `escaped` whether a backslash comes before
it. -/
def splitUnquotedFrom (stops : Char → Bool) :
    (quoted escaped : Bool) → List Char → List Char × List Char
  | _, _, [] => ([], [])
  | quoted, escaped, c :: rest =>
    let quoted := if c = '"' && !escaped then !quoted else quoted
    if !quoted && stops c then ([], c :: rest)
    else
      let (before, after) := splitUnquotedFrom stops quoted (c = '\\' && !escaped) rest
      (c :: before, after)

def splitUnquoted (stops : Char → Bool) (cs : List Char) : List Char × List Char :=
  splitUnquotedFrom stops false false cs

/-- A text without its escapes: a backslash, a quote and a line break are
escaped, and any other backslash is itself. -/
def unescape : List Char → List Char
  | '\\' :: c :: rest =>
    if c = '\\' || c = '"' then c :: unescape rest
    else if c = 'n' then '\n' :: unescape rest
    else '\\' :: unescape (c :: rest)
  | c :: rest => c :: unescape rest
  | [] => []

/-- A name that may be quoted and may stand between blanks, and whether it
was quoted. There may be no text at all, but not blanks alone. -/
def readName (cs : List Char) : Result (List Char × Bool) :=
  match cs, trim cs with
  | [], _ => .ok ([], false)
  | _, [] => .error .blankName
  | _, '"' :: rest =>
    if rest.getLast? = some '"' then .ok (unescape rest.dropLast, true) else malformed
  | _, name => .ok (unescape name, false)

/-! ## Names -/

def startsName (c : Char) : Bool := c.isAlpha || c = '_' || c = ':'

/-- A text without one final line break. -/
def beforeFinalBreak (cs : List Char) : List Char :=
  if cs.getLast? = some '\n' then cs.dropLast else cs

/-- Whether a name may stand without quotes. A line break may end it. -/
def isPlainName (name : List Char) : Bool :=
  match beforeFinalBreak name with
  | [] => false
  | c :: rest => startsName c && rest.all fun d => startsName d || d.isDigit

/-- The name of the label that holds the name of a metric. -/
def nameLabel : List Char := "__name__".toList

/-- Whether a name is reserved: two underscores and a single line, which a
line break may end. -/
def isReserved : List Char → Bool
  | '_' :: '_' :: rest => !(beforeFinalBreak rest).contains '\n'
  | _ => false

/-- Whether a label may have a name. -/
def isLabelName (name : List Char) : Bool := name = nameLabel || !isReserved name

/-! ## Labels -/

/-- A value in quotes, and nothing else. -/
def readQuotedValue : List Char → Result (List Char)
  | '"' :: rest =>
    match splitUnquotedFrom (fun c => c = '"') true false rest with
    | (value, [_]) => .ok (unescape value)
    | _ => malformed
  | _ => malformed

/-- The next term of a list of labels: a name as it is written, a value,
and the rest. A value alone is that of the name label. -/
def nextTerm (cs : List Char) : Result (List Char × List Char × List Char) :=
  let afterComma : Result (List Char) := match cs with
    | ',' :: ',' :: _ => malformed
    | ',' :: rest => .ok rest
    | _ => .ok cs
  afterComma.map fun cs =>
    match splitUnquoted (fun c => c = '=' || c = ',') cs with
    | (name, '=' :: rest) =>
      let (value, rest) := splitUnquoted (· = ',') (trim rest)
      (name, trim value, trim rest)
    | (value, rest) => (nameLabel, trim value, trim rest)

/-- The labels of a list of terms; a term without a value is left out. -/
def readTerms : (fuel : Nat) → (seen : List (List Char × List Char)) → List Char →
    Result (List (List Char × List Char))
  | 0, seen, _ => .ok seen
  | fuel + 1, seen, cs =>
    if cs.isEmpty then .ok seen
    else do
      let (nameTerm, valueTerm, rest) ← nextTerm cs
      if valueTerm.isEmpty then readTerms fuel seen rest
      else
        let (name, quoted) ← readName nameTerm
        let value ← readQuotedValue valueTerm
        if (!quoted && !isPlainName name) || !isLabelName name ||
            (seen.map Prod.fst).contains name then
          malformed
        else readTerms fuel (seen ++ [(name, value)]) rest

/-- The labels between braces. -/
def readLabels (cs : List Char) : Result (List (List Char × List Char)) :=
  readTerms (cs.length + 1) [] (trim cs)

/-! ## Values -/

/-- A number as it is written: whole, or not. -/
inductive Quantity where
  | whole (value : Int)
  | real (value : Binary64)

/-- The number that a word is. Its digits are not grouped. -/
def readQuantity (word : List Char) : Result Quantity :=
  let text := String.ofList word
  if word.contains '_' then malformed
  else match readInt? text, Binary64.ofText? text with
    | some value, _ => .ok (.whole value)
    | none, some value => .ok (.real value)
    | none, none => malformed

def Quantity.toReal : Quantity → Result Binary64
  | .whole value =>
    match Binary64.ofInt? value with
    | some number => .ok number
    | none => .error .numberTooLarge
  | .real value => .ok value

/-- Milliseconds as seconds. -/
def Quantity.seconds : Quantity → Result Binary64
  | .whole value =>
    match Binary64.ofRatio? value 1000 with
    | some number => .ok number
    | none => .error .numberTooLarge
  | .real value => .ok (value / 1000)

/-- The words of a text, split at blanks or, where there are none, at
tabs. -/
def valueWords (cs : List Char) : List (List Char) :=
  let cs := cs.dropWhile isBlank
  let separator := if cs.contains ' ' then ' ' else '\t'
  ((cs.splitOn separator).map trim).filter fun word => !word.isEmpty

/-- A value and perhaps a timestamp in seconds: the first and the last
word. -/
def readValue (cs : List Char) : Result (Quantity × Option Binary64) :=
  match valueWords cs with
  | [] => malformed
  | [word] => do return (← readQuantity word, none)
  | word :: rest => do
    let value ← readQuantity word
    let timestamp ← readQuantity (rest.getLastD word)
    return (value, some (← timestamp.seconds))

/-! ## Samples -/

/-- A sample line. -/
structure ExposedSample where
  name : List Char
  labels : List (List Char × List Char)
  value : Quantity
  timestamp : Option Binary64

/-- Whether a text has a blank, a hash and a blank in a row, which starts
an exemplar. -/
def hasExemplar : List Char → Bool
  | ' ' :: '#' :: ' ' :: _ => true
  | _ :: rest => hasExemplar rest
  | [] => false

/-- A sample without labels: a plain name up to the first blank. Without a
blank the last character is no part of the name. -/
def readBareSample (line : List Char) : Result ExposedSample :=
  let (name, rest) := match splitUnquoted (fun c => c = ' ' || c = '\t') line with
    | (_, []) => (line.dropLast, line)
    | (name, _ :: rest) => (name, rest)
  let name := trim name
  if isPlainName name then do
    let (value, timestamp) ← readValue rest
    return { name, labels := [], value, timestamp }
  else malformed

/-- A sample with labels. Its name stands before the braces or in them.
Without a closing brace there is no sample; if no name stands before the
braces either, the labels are read first, up to the last character. -/
def readLabelledSample (name body : List Char) : Result ExposedSample :=
  match splitUnquoted (· = '}') body with
  | (_, []) =>
    if name.isEmpty then (readLabels body.dropLast).bind fun _ => malformed else malformed
  | (terms, _ :: rest) => do
    let labels ← readLabels terms
    let inner := labels.lookup nameLabel
    let (name, labels) ← match name, inner with
      | [], some value => pure (value, labels.filter fun (label, _) => label ≠ nameLabel)
      | [], none => malformed
      | _, some _ => malformed
      | _, none => pure (name, labels)
    let (value, timestamp) ← readValue rest
    return { name, labels, value, timestamp }

/-- The sample on a line. -/
def readSample (line : List Char) : Result ExposedSample :=
  match splitUnquoted (· = '{') line with
  | (name, _ :: body) =>
    if hasExemplar name then readBareSample line else readLabelledSample (trim name) body
  | (_, []) => readBareSample line

/-! ## Comments -/

/-- The blanks that divide the words of a comment. -/
def isCommentBlank (c : Char) : Bool := isNumeralBlank c

/-- The words of a line outside quotes: at most `limit`, the last of which
is the rest of the line. -/
def commentWords : (limit : Nat) → (fuel : Nat) → List Char → List (List Char)
  | _, 0, _ => []
  | limit, fuel + 1, cs =>
    match cs.dropWhile isCommentBlank with
    | [] => []
    | start =>
      if limit ≤ 1 then [start]
      else
        let (word, rest) := splitUnquoted isCommentBlank start
        word :: commentWords (limit - 1) fuel rest

/-- The parts of a comment line: the hash, a keyword, a name and a text. -/
def commentParts (line : List Char) : List (List Char) := commentWords 4 (line.length + 1) line

end AlertConformance.Exposition
