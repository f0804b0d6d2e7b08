/-
AlertConformance.Yaml.Scalar — writing text as a YAML scalar.

Text is written without quotes where that is allowed and means the text,
else between single quotes, and between double quotes when it holds
characters or blanks at line ends that only escapes can express. Lines are
folded at blanks once they are longer than 80 characters; a scalar that is
the name of an entry is not folded.

* `styleOf` — which of the three forms a text takes.
* `scalar` — the text in that form, from a column on.
-/
import AlertConformance.Text.Literal
import AlertConformance.Yaml.Resolution

namespace AlertConformance.Yaml

/-! ## Characters -/

/-- A character that ends a line. -/
def isBreak (c : Char) : Bool := c = '\n' || c = '\x85' || c = '\u2028' || c = '\u2029'

/-- A character that separates words. -/
def isSeparator (c : Char) : Bool :=
  isBreak c || c = ' ' || c = '\t' || c = '\r' || c = '\x00'

/-- A character beyond ASCII that may stand as it is. -/
def isForeign (c : Char) : Bool :=
  let n := c.toNat
  (n = 0x85 || (0xa0 ≤ n && n ≤ 0xd7ff) || (0xe000 ≤ n && n ≤ 0xfffd) ||
    (0x10000 ≤ n && n < 0x10ffff)) && n ≠ 0xfeff

/-- A character that only an escape can express. -/
def isSpecial (c : Char) : Bool := !(c = '\n' || (' ' ≤ c && c ≤ '~') || isForeign c)

/-- Whether the rest of a text starts with a separator or is empty. -/
def separatorNext : List Char → Bool
  | [] => true
  | c :: _ => isSeparator c

/-! ## The form of a scalar -/

/-- Whether the first character is an indicator of YAML's own. -/
def leadsWithIndicator : List Char → Bool
  | [] => false
  | c :: rest =>
    "#,[]\x7b\x7d&*!|>'\"%@\x60".toList.contains c ||
      ((c = '?' || c = ':' || c = '-') && separatorNext rest)

/-- Whether a colon before a separator, or a number sign after one, stands
inside a text. -/
def holdsIndicator (afterSeparator : Bool) : List Char → Bool
  | [] => false
  | c :: rest =>
    (c = ':' && separatorNext rest) || (c = '#' && afterSeparator) ||
      holdsIndicator (isSeparator c) rest

/-- Whether two neighbours satisfy two conditions. -/
def holdsPair (first second : Char → Bool) : List Char → Bool
  | a :: b :: rest => (first a && second b) || holdsPair first second (b :: rest)
  | _ => false

/-- Whether a text can stand without quotes. -/
def allowsPlain (cs : List Char) : Bool :=
  let edge (c : Option Char) : Bool := (c.map fun c => c = ' ' || isBreak c).getD true
  !edge cs.head? && !edge cs.getLast? && !cs.any isBreak && !cs.any isSpecial &&
    !("---".toList.isPrefixOf cs || "...".toList.isPrefixOf cs) &&
    !leadsWithIndicator cs && !holdsIndicator true cs

/-- Whether a text can stand between single quotes. -/
def allowsSingle (cs : List Char) : Bool :=
  !cs.any isSpecial && !holdsPair isBreak (· = ' ') cs && !holdsPair (· = ' ') isBreak cs

/-- The three forms of a scalar. -/
inductive Style where
  | plain
  | single
  | double
  deriving DecidableEq, Repr

/-- The form that a text takes. -/
def styleOf (cs : List Char) : Style :=
  if isTextUnquoted cs && allowsPlain cs then .plain
  else if allowsSingle cs then .single
  else .double

/-! ## Lines -/

/-- The column after which a line is folded. -/
def foldColumn : Nat := 80

/-- Where a scalar is written: the column of continuation lines, and
whether lines are folded at all. -/
structure Frame where
  indent : Nat
  folds : Bool

def newLine (frame : Frame) : List Char := '\n' :: List.replicate frame.indent ' '

/-- The line breaks of a run, and the indentation after them. A run that
starts with a line feed takes one more, since a single one would be read
as a blank. -/
def breakLines (frame : Frame) (run : List Char) : List Char :=
  (if run.head? = some '\n' then ['\n'] else []) ++ run ++ List.replicate frame.indent ' '

/-! ## Plain and single quoted scalars -/

/-- The next run of a text: blanks, breaks, or neither. -/
def nextRun (cs : List Char) : List Char :=
  match cs with
  | [] => []
  | c :: _ =>
    if c = ' ' then cs.takeWhile (· = ' ')
    else if isBreak c then cs.takeWhile isBreak
    else cs.takeWhile fun c => !(c = ' ' || isBreak c)

theorem length_drop_nextRun_lt (c : Char) (cs : List Char) :
    ((c :: cs).drop (nextRun (c :: cs)).length).length < (c :: cs).length := by
  have pos : 0 < (nextRun (c :: cs)).length := by
    unfold nextRun
    by_cases hs : c = ' '
    · simp [hs]
    · by_cases hb : isBreak c = true <;> simp [hs, hb]
  simp only [List.length_drop, List.length_cons]
  omega

/-- A quote inside single quotes is written twice. -/
def doubleQuote (c : Char) : List Char := if c = '\'' then ['\'', '\''] else [c]

/-- The text of a plain or single quoted scalar, run by run. A single
blank between two words becomes a fold once the line is long enough. -/
def writeRuns (frame : Frame) (quoted first : Bool) (column : Nat) : List Char → List Char
  | [] => []
  | c :: tail =>
    let run := nextRun (c :: tail)
    let rest := (c :: tail).drop run.length
    if c = ' ' then
      let mayFold := frame.folds && !first && (!quoted || !rest.isEmpty)
      if run.length = 1 && mayFold && foldColumn < column then
        newLine frame ++ writeRuns frame quoted false frame.indent rest
      else run ++ writeRuns frame quoted false (column + run.length) rest
    else if isBreak c then
      breakLines frame run ++ writeRuns frame quoted false frame.indent rest
    else
      let body := if quoted then run.flatMap doubleQuote else run
      body ++ writeRuns frame quoted false (column + body.length) rest
termination_by cs => cs.length
decreasing_by all_goals exact length_drop_nextRun_lt c tail

/-! ## Double quoted scalars -/

/-- The characters with an escape of one letter. -/
def letterEscapes : List (Char × Char) := [
  ('\x00', '0'), ('\x07', 'a'), ('\x08', 'b'), ('\x09', 't'), ('\n', 'n'), ('\x0b', 'v'),
  ('\x0c', 'f'), ('\r', 'r'), ('\x1b', 'e'), ('"', '"'), ('\\', '\\'), ('\x85', 'N'),
  ('\xa0', '_'), ('\u2028', 'L'), ('\u2029', 'P')]

/-- Whether a character is escaped between double quotes. -/
def needsEscape (c : Char) : Bool :=
  let n := c.toNat
  c = '"' || c = '\\' || c = '\x85' || c = '\u2028' || c = '\u2029' || c = '\ufeff' ||
    !((' ' ≤ c && c ≤ '~') || (0xa0 ≤ n && n ≤ 0xd7ff) || (0xe000 ≤ n && n ≤ 0xfffd))

/-- The escape of a character. -/
def escapeText (c : Char) : List Char :=
  let n := c.toNat
  match letterEscapes.lookup c with
  | some letter => ['\\', letter]
  | none =>
    let width := if n < 0x100 then 2 else if n < 0x10000 then 4 else 8
    let mark := if n < 0x100 then 'x' else if n < 0x10000 then 'u' else 'U'
    '\\' :: mark :: (hexDigits width n).map Char.toUpper

/-- A fold inside double quotes: the line ends with a backslash, and a
blank at the start of the next one is escaped. -/
def escapedFold (frame : Frame) (next : Option Char) : List Char :=
  '\\' :: newLine frame ++ (if next = some ' ' then ['\\'] else [])

/-- The text of a double quoted scalar. `pending` are the characters since
the last escape or fold, the latest first; `column` is where they start.
A line is folded at a blank, after an escape, or right after a fold. -/
def writeEscaped (frame : Frame) (first : Bool) (column : Nat) (pending : List Char) :
    List Char → List Char
  | [] => pending.reverse
  | c :: rest =>
    let inside := frame.folds && !first && !rest.isEmpty
    if needsEscape c then
      let escape := escapeText c
      let written := column + pending.length + escape.length
      pending.reverse ++ escape ++
        (if inside && foldColumn + 1 < written then
          let fold := escapedFold frame rest.head?
          fold ++ writeEscaped frame false (frame.indent + if rest.head? = some ' ' then 1 else 0)
            [] rest
        else writeEscaped frame false written [] rest)
    else if inside && (c = ' ' || pending.isEmpty) && foldColumn < column + pending.length then
      pending.reverse ++ escapedFold frame (some c) ++
        writeEscaped frame false (frame.indent + if c = ' ' then 1 else 0) [c] rest
    else writeEscaped frame false column (c :: pending) rest

/-! ## Scalars -/

/-- A text as a scalar that starts at a column. -/
def scalar (frame : Frame) (column : Nat) (cs : List Char) : List Char :=
  match styleOf cs with
  | .plain => writeRuns frame false true column cs
  | .single => '\'' :: writeRuns frame true true (column + 1) cs ++ ['\'']
  | .double => '"' :: writeEscaped frame true (column + 1) [] cs ++ ['"']

end AlertConformance.Yaml
