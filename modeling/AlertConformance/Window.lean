/-
AlertConformance.Window — which scenarios may be observed at a time.

The engine evaluates a rule group now and then, so nobody knows on which
side of a change of its data an evaluation fell. A scenario is therefore
valid over half-open windows that are wider than the scenario by an
evaluation interval, and windows of neighbouring scenarios overlap. Edges
are in seconds, elapsed times in integer milliseconds.

* `between`, `Window.contains` — an elapsed time in a window; the edge is
  multiplied as a double precision number and compared exactly.
* `Classifier.states` — the scenarios valid at an elapsed time.
* `Classifier.boundaries` — all edges, in strictly increasing order.
* `phaseWindows` — the windows of a case that goes through phases.
-/
import AlertConformance.Error

namespace AlertConformance

/-- Whether an elapsed time lies in `[start, stop)`. -/
def between (elapsed : Int) (start stop : Binary64) : Bool :=
  (start * 1000).leInt elapsed && (stop * 1000).gtInt elapsed

/-! ## Windows -/

/-- A window that does not end before it starts. -/
structure Window where
  start : Binary64
  stop : Binary64
  nonempty : stop.le start = false
  deriving DecidableEq

/-- A checked window. -/
def Window.new (start stop : Binary64) : Result Window :=
  match h : stop.le start with
  | true => .error (.definition (.emptyWindow start stop))
  | false => .ok ⟨start, stop, h⟩

def Window.contains (window : Window) (elapsed : Int) : Bool :=
  between elapsed window.start window.stop

/-! ## Classifiers -/

/-- Scenarios and their windows, in order of definition. -/
structure Classifier where
  scenarios : List (String × List Window)

namespace Classifier

/-- The first scenario without a window. -/
def windowless? (scenarios : List (String × List Window)) : Option String :=
  (scenarios.find? fun (_, windows) => windows.isEmpty).map Prod.fst

/-- A checked classifier: at least one scenario, and a window for each. A
scenario that comes twice keeps its first place and its last windows. -/
def new (definitions : List (String × List Window)) : Result Classifier :=
  let scenarios := Keyed.ofList definitions
  if scenarios.isEmpty then .error (.definition .noScenario)
  else match windowless? scenarios with
    | some name => .error (.definition (.scenarioWithoutWindow name))
    | none => .ok ⟨scenarios⟩

def names (classifier : Classifier) : List String := Keyed.keys classifier.scenarios

/-- The windows of a scenario. -/
def windows (classifier : Classifier) (name : String) : Result (List Window) :=
  match Keyed.find? name classifier.scenarios with
  | some windows => .ok windows
  | none => .error (.unknownName name)

/-- The scenarios that are valid at an elapsed time, in order of
definition. -/
def states (classifier : Classifier) (elapsed : Int) : List String :=
  (classifier.scenarios.filter fun (_, windows) =>
    windows.any fun window => window.contains elapsed).map Prod.fst

/-- Put an edge into a strictly increasing list. -/
def insertEdge (edge : Binary64) : List Binary64 → List Binary64
  | [] => [edge]
  | other :: rest =>
    if edge.equal other then other :: rest
    else if edge.lt other then edge :: other :: rest
    else other :: insertEdge edge rest

/-- The edges of all windows, in order of definition. -/
def edges (classifier : Classifier) : List Binary64 :=
  classifier.scenarios.flatMap fun (_, windows) =>
    windows.flatMap fun window => [window.start, window.stop]

/-- The edges of all windows, in increasing order and each value once. -/
def boundaries (classifier : Classifier) : List Binary64 :=
  classifier.edges.foldl (fun sorted edge => insertEdge edge sorted) []

end Classifier

/-! ## Phases -/

/-- Whether some number is followed by one that is not greater. -/
def hasStepBack : List Binary64 → Bool
  | earlier :: later :: rest => later.le earlier || hasStepBack (later :: rest)
  | _ => false

/-- The edges of the phases that `transitions` divide: a phase is valid
from one second before its nominal start until `slack` after its nominal
end, since the evaluation that sees a transition may be that late. -/
def phaseEdges (transitions : List Binary64) (horizon slack : Binary64) :
    List (Binary64 × Binary64) :=
  (0 :: transitions.map fun edge => edge - 1).zip
    ((transitions.map fun edge => edge + slack) ++ [horizon])

/-- The windows of the phases that `transitions` divide. -/
def phaseWindows (transitions : List Binary64) (horizon slack : Binary64) :
    Result (List Window) :=
  if hasStepBack transitions then .error (.definition (.transitionOrder transitions))
  else
    let windows := (phaseEdges transitions horizon slack).mapM fun (start, stop) =>
      Window.new start stop
    match transitions.getLast? with
    | some last =>
      if horizon.le last then .error (.definition (.earlyHorizon horizon last)) else windows
    | none => windows

end AlertConformance
