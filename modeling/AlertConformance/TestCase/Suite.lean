/-
AlertConformance.TestCase.Suite — the test cases there are.
-/
import AlertConformance.TestCase.DependentRule
import AlertConformance.TestCase.LongHold
import AlertConformance.TestCase.NeverFiring
import AlertConformance.TestCase.ShortHold

namespace AlertConformance

/-- A kind of test case: the set-up it is meant for, the case for any
set-up, and what it expects there. -/
structure CaseKind where
  usual : Setup
  build : Setup → Result TestCase
  expectations : Setup → Result Expectations

namespace CaseKind

def longHold : CaseKind where
  usual := LongHold.usual
  build := LongHold.testCase
  expectations setup := do return (← LongHold.Case.new setup).expectations

def neverFiring : CaseKind where
  usual := NeverFiring.usual
  build := NeverFiring.testCase
  expectations setup := do return (← NeverFiring.Case.new setup).expectations

def shortHold : CaseKind where
  usual := ShortHold.usual
  build := ShortHold.testCase
  expectations setup := do return (← ShortHold.Case.new setup).expectations

def dependentRule : CaseKind where
  usual := DependentRule.usual
  build := DependentRule.testCase
  expectations setup := do return (← DependentRule.Case.new setup).expectations

/-- The kinds of the suite, in the order in which they are run. -/
def suite : List CaseKind := [longHold, neverFiring, shortHold, dependentRule]

/-- A test case for the set-up it is meant for. -/
def standard (kind : CaseKind) : Result TestCase := kind.build kind.usual

end CaseKind

/-- The test cases of the suite. -/
def suiteCases : Result (List TestCase) := CaseKind.suite.mapM CaseKind.standard

end AlertConformance
