/-
AlertConformance.Command.ValidateCases — the command that checks test
cases against themselves.
-/
import AlertConformance.Command.Effects
import AlertConformance.Command.Options
import AlertConformance.Json.Printer
import AlertConformance.TestCase.SelfCheck

namespace AlertConformance.Command

def validateOptions : List OptionSpec := [
  { name := "--artifacts", kind := .value },
  { name := "--step-ms", kind := .value, accepts := fun text => (readInt? text).isSome },
  { name := "--verbose", kind := .flag }]

/-- The distance of checked instants when none is given. -/
def usualStep : Int := second

/-- The file with the reports. -/
def reportFile (directory : String) (reports : List Report) : String × String :=
  (inDirectory directory "case_self_check.json",
    Json.renderIndented (.array (reports.map Report.toJson)))

/-- The line for a failed report. -/
def failureLine (report : Report) : Option String :=
  report.error.map fun error => s!"::error ::{report.title}: {error}"

/-- Print reports, and write them to a directory if there is one. -/
def publish (reports : List Report) (directory : Option String) : Effects :=
  let failures := reports.filterMap failureLine
  let summary := if failures.isEmpty then ["Case self-check completed successfully."] else []
  { exitCode := if failures.isEmpty then 0 else 1
    output := reports.map Report.line ++ summary
    errors := failures
    files := directory.toList.map fun directory => reportFile directory reports }

/-- The command for a self-check, which takes the distance of the
instants. -/
def validateCases (check : Int → Result (List Report)) (args : List String) : Result Effects :=
  match readOptions validateOptions args with
  | .refused => .ok .refused
  | .help => .ok .nothing
  | .run given => do
    let step := ((valueOf? "--step-ms" given).bind readInt?).getD usualStep
    return publish (← check step) ((valueOf? "--artifacts" given).map normalPath)

/-- The self-check of test cases. -/
def selfCheckAll (cases : List TestCase) (step : Int) : Result (List Report) :=
  cases.mapM fun test => test.selfCheck usualZeroTime step

end AlertConformance.Command
