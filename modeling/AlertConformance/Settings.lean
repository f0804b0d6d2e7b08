/-
AlertConformance.Settings — what the engine under test is configured with.
-/
namespace AlertConformance

/-- The metric that every rule of the cases reads. -/
def testMetricName : String := "alert_generator_test_suite"

/-- The metric that tells which alerts are active. -/
def alertsMetricName : String := "ALERTS"

/-- One second and one minute in milliseconds, the unit of all times. -/
def second : Int := 1000

def minute : Int := 60 * second

/-- Delays of the notification path, in milliseconds. The engine sends a
notification again every `resendDelay`, and a resolved one no longer than
`resolvedRetention`. -/
structure Settings where
  resendDelay : Int := 1 * minute
  resolvedRetention : Int := 15 * minute
  endsAtMultiplier : Int := 4
  deriving DecidableEq, Repr, Inhabited

/-- How long after its sending a firing notification expires, for a group
that is evaluated every `groupInterval`. -/
def Settings.endsAtDelta (settings : Settings) (groupInterval : Int) : Int :=
  settings.endsAtMultiplier * max settings.resendDelay groupInterval

end AlertConformance
