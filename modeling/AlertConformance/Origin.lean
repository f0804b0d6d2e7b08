/-
AlertConformance.Origin — when a test starts.

The expectations of a test case are relative to its start. The start is
bound once, when the test is scheduled, and nothing can be asked about
absolute times before that.
-/
import AlertConformance.Error

namespace AlertConformance

/-- The start of a test, unbound at first. -/
structure Origin where
  start? : Option Int := none
  deriving DecidableEq, Repr

namespace Origin

def isBound (origin : Origin) : Bool := origin.start?.isSome

/-- Bind the start. Binding it to the same time again changes nothing. -/
def bind (origin : Origin) (zeroTime : Int) : Result Origin :=
  match origin.start? with
  | some bound =>
    if bound = zeroTime then .ok origin
    else .error (.definition (.zeroTimeBound bound zeroTime))
  | none => .ok ⟨some zeroTime⟩

/-- The start of the test. -/
def zeroTime (origin : Origin) : Result Int :=
  match origin.start? with
  | some bound => .ok bound
  | none => .error (.caseFault .notStarted)

/-- How long after the start a time is. -/
def elapsed (origin : Origin) (time : Int) : Result Int := origin.zeroTime.map (time - ·)

/-- The time some way after the start. -/
def after (origin : Origin) (offset : Int) : Result Int := origin.zeroTime.map (· + offset)

end Origin

end AlertConformance
