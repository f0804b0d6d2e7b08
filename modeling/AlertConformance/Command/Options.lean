/-
AlertConformance.Command.Options — reading a command line.

A command has options only. An option is written in full or by an
unambiguous beginning of its name; its value is the next word or follows
an equals sign. A word that starts with a dash is a value when it is a
negative number or holds a blank. The last value of an option counts.

* `OptionSpec` — an option of a command.
* `readOptions` — the given options, or that the command line is refused
  or asks for help.
-/
import AlertConformance.Text.Digit

namespace AlertConformance.Command

/-! ## Options -/

/-- What an option is for. -/
inductive OptionKind where
  | flag
  | value
  | help
  deriving DecidableEq, Repr

/-- An option, by its full name. A value that it does not accept is
refused. -/
structure OptionSpec where
  name : String
  kind : OptionKind
  accepts : String → Bool := fun _ => true

/-- The options that ask for help. -/
def helpOptions : List OptionSpec := [
  { name := "-h", kind := .help },
  { name := "--help", kind := .help }]

/-! ## Words -/

/-- What a word of a command line is. -/
inductive Word where
  | option (spec : OptionSpec) (attached : Option String)
  | operand (text : String)
  | separator
  | unknown
  | ambiguous

/-- A text before and after its first equals sign. -/
def splitAssignment (text : String) : String × Option String :=
  let cs := text.toList
  let name := cs.takeWhile (· ≠ '=')
  match cs.drop name.length with
  | [] => (text, none)
  | _ :: value => (String.ofList name, some (String.ofList value))

/-- Whether a text is a negative number: digits with a point somewhere
before the last one, or none. -/
def isNegativeNumber (text : String) : Bool :=
  let isDecimal (c : Char) : Bool := (digitValue? c).isSome
  match text.toList with
  | '-' :: rest =>
    let rest := if rest.getLast? = some '\n' then rest.dropLast else rest
    let whole := rest.takeWhile isDecimal
    match rest.drop whole.length with
    | [] => !whole.isEmpty
    | '.' :: fraction => !fraction.isEmpty && fraction.all isDecimal
    | _ => false
  | _ => false

/-- The options that a word may abbreviate, with the values attached to
them. What follows the letter of a short option is attached to it. -/
def abbreviated (options : List OptionSpec) (text : String) :
    List (OptionSpec × Option String) :=
  if text.startsWith "--" then
    let (name, value) := splitAssignment text
    options.filterMap fun spec =>
      if name.toList.isPrefixOf spec.name.toList then some (spec, value) else none
  else
    let (short, further) := (text.toList.take 2, text.toList.drop 2)
    options.filterMap fun spec =>
      if spec.name.toList = short then some (spec, some (String.ofList further))
      else if text.toList.isPrefixOf spec.name.toList then some (spec, none)
      else none

/-- What a word before the separator is. -/
def classify (options : List OptionSpec) (text : String) : Word :=
  let exact (name : String) : Option OptionSpec := options.find? fun spec => spec.name = name
  if text = "--" then .separator
  else if !text.startsWith "-" || text = "-" then .operand text
  else match exact text, splitAssignment text with
    | some spec, _ => .option spec none
    | none, (name, value) =>
      match value.bind fun _ => exact name with
      | some spec => .option spec value
      | none =>
        match abbreviated options text with
        | [(spec, value)] => .option spec value
        | _ :: _ => .ambiguous
        | [] =>
          if isNegativeNumber text || text.toList.contains ' ' then .operand text else .unknown

/-- What the words of a command line are. All words after the separator
are operands. -/
def classifyAll (options : List OptionSpec) : List String → List Word
  | [] => []
  | text :: rest =>
    match classify options text with
    | .separator => .separator :: rest.map .operand
    | word => word :: classifyAll options rest

/-! ## Command lines -/

/-- What a command line asks for. -/
inductive Request where
  | refused
  | help
  | run (given : List (String × Option String))

/-- Whether a text attached to a call for help repeats its letter. Nothing
else may follow it. -/
def repeatsHelp (spec : OptionSpec) (attached : String) : Bool :=
  spec.name.length = 2 && !attached.isEmpty && attached.toList.all (· = 'h')

/-- Read words from left to right. `extra` tells whether there was a word
that belongs to no option; it is refused in the end. -/
def readWords (extra : Bool) (given : List (String × Option String)) : List Word → Request
  | [] => if extra then .refused else .run given
  | .option spec attached :: rest =>
    match spec.kind, attached with
    | .help, none => .help
    | .help, some text => if repeatsHelp spec text then .help else .refused
    | .flag, none => readWords extra (given ++ [(spec.name, none)]) rest
    | .flag, some _ => .refused
    | .value, some text =>
      if spec.accepts text then readWords extra (given ++ [(spec.name, some text)]) rest
      else .refused
    | .value, none =>
      match rest with
      | .operand text :: rest =>
        if spec.accepts text then readWords extra (given ++ [(spec.name, some text)]) rest
        else .refused
      | _ => .refused
  | .ambiguous :: _ => .refused
  | _ :: rest => readWords true given rest

/-- What a command line asks for. An ambiguous word anywhere before the
separator is refused before anything else. -/
def readOptions (options : List OptionSpec) (args : List String) : Request :=
  let words := classifyAll (helpOptions ++ options) args
  let isAmbiguous : Word → Bool
    | .ambiguous => true
    | _ => false
  if words.any isAmbiguous then .refused else readWords false [] words

/-- The last value given to an option. -/
def valueOf? (name : String) (given : List (String × Option String)) : Option String :=
  (given.reverse.find? fun (other, _) => other = name).bind Prod.snd

/-- Whether an option is given. -/
def isGiven (name : String) (given : List (String × Option String)) : Bool :=
  given.any fun (other, _) => other = name

end AlertConformance.Command
