/-
AlertConformance.Command.RenderRules — the command that writes the rules
file of test cases.
-/
import AlertConformance.Command.Effects
import AlertConformance.Command.Options
import AlertConformance.TestCase.Basic
import AlertConformance.Yaml.RulesFile

namespace AlertConformance.Command

def renderOptions : List OptionSpec := [
  { name := "--output", kind := .value },
  { name := "--describe", kind := .flag },
  { name := "--verbose", kind := .flag }]

/-- Write the rules of test cases to a file, and tell what each of them
tests. -/
def renderTo (cases : List TestCase) (path : String) (describe : Bool) : Effects :=
  match rulesDocument (cases.map TestCase.group) with
  | .error error => { exitCode := 1, output := ["error: " ++ error.message?.getD ""] }
  | .ok document =>
    let descriptions :=
      if describe then cases.map fun test => s!"{test.title}: {test.description}" else []
    { exitCode := 0
      output := descriptions ++ [s!"Wrote {cases.length} rule groups to {path}."]
      files := [(path, Yaml.rulesFile document)] }

/-- The command for test cases. The file has to be named. -/
def renderRules (cases : List TestCase) (args : List String) : Effects :=
  match readOptions renderOptions args with
  | .refused => .refused
  | .help => .nothing
  | .run given =>
    match valueOf? "--output" given with
    | none => .refused
    | some path => renderTo cases (normalPath path) (isGiven "--describe" given)

end AlertConformance.Command
