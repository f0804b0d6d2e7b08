/-
AlertConformance.Yaml.RulesFile — rule groups as a rules file.

A rules file is a YAML document in block style: one entry a line, two
blanks of indentation a level, and the dash of a list item in the column
of the entry that holds the list. The order of groups, rules, labels and
annotations is kept.
-/
import AlertConformance.Rule
import AlertConformance.Yaml.Scalar

namespace AlertConformance.Yaml

/-! ## Entries -/

/-- The longest name that stands in front of its colon; a longer one gets
a line of its own. -/
def maxNameLength : Nat := 122

/-- Whether a name can stand in front of its colon. -/
def isSimpleName (cs : List Char) : Bool :=
  !cs.isEmpty && cs.length ≤ maxNameLength && !cs.any isBreak

/-- An entry with a text value, from the column of its name on. -/
def entry (column : Nat) (name value : String) : List Char :=
  let frame : Frame := { indent := column + 2, folds := true }
  if isSimpleName name.toList then
    let written := scalar { frame with folds := false } column name.toList
    written ++ ':' :: ' ' :: scalar frame (column + written.length + 2) value.toList
  else
    '?' :: ' ' :: scalar frame (column + 2) name.toList ++ '\n' :: List.replicate column ' ' ++
      ':' :: ' ' :: scalar frame (column + 2) value.toList

/-- A line break and the indentation of the next entry. -/
def nextEntry (column : Nat) : List Char := '\n' :: List.replicate column ' '

/-- An entry whose value is a label set, which is left out with it. -/
def labelsEntry (column : Nat) (name : String) : Option Labels → List Char
  | none => []
  | some labels =>
    nextEntry column ++ name.toList ++ [':'] ++
      labels.entries.flatMap fun (key, value) =>
        nextEntry (column + 2) ++ entry (column + 2) key value

/-! ## Documents -/

/-- A rule, from the column of its entries on. -/
def ruleLines (column : Nat) (rule : RuleDocument) : List Char :=
  entry column "alert" rule.alert ++ nextEntry column ++ entry column "expr" rule.expr ++
    (match rule.hold with
      | some hold => nextEntry column ++ entry column "for" hold
      | none => []) ++
    labelsEntry column "labels" rule.labels ++
    labelsEntry column "annotations" rule.annotations

/-- A group as an item of the list of groups. -/
def groupLines (group : GroupDocument) : List Char :=
  nextEntry 0 ++ "- ".toList ++ entry 2 "name" group.name ++
    nextEntry 2 ++ entry 2 "interval" group.interval ++
    nextEntry 2 ++ "rules:".toList ++
    group.rules.flatMap fun rule => nextEntry 2 ++ "- ".toList ++ ruleLines 4 rule

/-- The text of a rules file. -/
def rulesFile (groups : List GroupDocument) : String :=
  let body := if groups.isEmpty then " []".toList else groups.flatMap groupLines
  String.ofList ("groups:".toList ++ body ++ ['\n'])

end AlertConformance.Yaml
