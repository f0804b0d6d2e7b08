/-
AlertConformance.Main — the command line.

`render-rules` writes the rules file of the test cases, `validate-cases`
checks them against themselves.
-/
import AlertConformance.Command.RenderRules
import AlertConformance.Command.ValidateCases
import AlertConformance.TestCase.Suite

namespace AlertConformance.Command

/-- Write a file and the directories it is in. -/
def writeFile (path text : String) : IO Unit := do
  let directory := "/".intercalate (path.splitOn "/").dropLast
  unless directory.isEmpty do IO.FS.createDirAll directory
  IO.FS.writeFile path text

/-- Do what a command has decided. -/
def Effects.perform (effects : Effects) : IO UInt32 := do
  for (path, text) in effects.files do writeFile path text
  for line in effects.output do IO.println line
  for line in effects.errors do IO.eprintln line
  return effects.exitCode.toUInt32

/-- The effects of a command line. -/
def effectsOf (args : List String) : Result Effects := do
  let cases ← suiteCases
  match args with
  | "render-rules" :: rest => return renderRules cases rest
  | "validate-cases" :: rest => validateCases (selfCheckAll cases) rest
  | _ => return .refused

end AlertConformance.Command

/-- Run a command. -/
def main (args : List String) : IO UInt32 :=
  match AlertConformance.Command.effectsOf args with
  | .ok effects => effects.perform
  | .error error => do
    IO.eprintln (error.message?.getD "invalid input")
    return 1
