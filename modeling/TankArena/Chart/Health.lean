import TankArena.Chart.Amount
import TankArena.Chart.Figure
import TankArena.Match.Run

/-! The health of both tanks over a match. -/

namespace TankArena.Chart

open Arena Match

/-- The health of both tanks at a tick. -/
structure HealthSample where
  tick : Int
  actor : Int
  opponent : Int
  deriving DecidableEq, Repr

def HealthSample.ofRecord (r : Record) : HealthSample where
  tick := r.tick
  actor := r.actor.health
  opponent := r.opponent.health

/-- A number in the sample fits no machine word. -/
def HealthSample.exceedsWord (s : HealthSample) : Bool :=
  [s.tick, s.actor, s.opponent].any fun n => (Amount.whole n).exceedsWord

def healthTitle : String := "Health Over Time"

/-- The values of a curve. -/
def curveValues (values : List Int) : Except ChartError (List Measure) :=
  values.mapM fun n => finite .tooLarge (units n)

/-- The health of both tanks, each as a curve over the ticks. -/
def healthCurves (typesetter : Typesetter) (samples : List HealthSample) (title : String) :
    Except ChartError Figure :=
  if samples.isEmpty then .error .noTicks
  else do
    let ticks ← curveValues (samples.map HealthSample.tick)
    let actor ← curveValues (samples.map HealthSample.actor)
    let opponent ← curveValues (samples.map HealthSample.opponent)
    if samples.any HealthSample.exceedsWord then .error .notComparable
    else
      checkText typesetter title
      return {
        axes := .curves "Tick" "Health"
        width := units 10
        height := units 5
        title
        bottom := units 0
        top := units (maxHealth + 5)
        legend := ["Player", "Enemy"]
        curves := [{ xs := ticks, ys := actor, color := actorColor },
          { xs := ticks, ys := opponent, color := opponentColor }] }

end TankArena.Chart
