import TankArena.Chart.Amount
import TankArena.Chart.Figure
import TankArena.Match.Ranking

/-! Damage dealt and taken by ranked programs, as bars. -/

namespace TankArena.Chart

open Arena Match Text

/-- What is drawn of one program. -/
structure Score where
  name : String
  dealt : Amount
  taken : Amount
  points : Amount
  deriving DecidableEq, Repr

def Score.ofStanding (name : String) (s : Standing) : Score where
  name := name
  dealt := .whole s.damageDealt
  taken := .whole s.damageTaken
  points := .whole s.points

def standingsTitle : String := "Gauntlet Results"

/-- The width of a bar; the two bars of a program meet at its place. -/
def barWidth : Measure := .ofQuotient 38 100

/-- Half the width of a bar. -/
def halfBar : Measure := .ofQuotient 19 100

/-- The heights of bars. One beyond machine words spoils them all; which fault is told depends on
the first height that is not infinite. -/
def barHeights (amounts : List Amount) : Except ChartError (List Measure) :=
  if amounts.any Amount.exceedsWord then
    match amounts.find? fun a => a.exceedsWord || a.toMeasure.isFinite with
    | some (.whole n) => if (units n).isFinite then .error .wordTooLarge else .error .tooLarge
    | _ => .error .wordTooLarge
  else .ok (amounts.map Amount.toMeasure)

/-- Bars side by side around the given centres. -/
def bars (centres : List Measure) (color : String) (heights : List Measure) : List Patch :=
  (centres.zip heights).map fun (centre, height) =>
    { shape := .bar, x := centre - halfBar, y := units 0, width := barWidth, height, color }

/-- The text over the bars of a program. -/
def pointsLabel (points : Amount) : Except ChartError String :=
  match points with
  | .whole n => do return (← finite .tooLarge (units n)).wholeText ++ " pts"
  | .measure m => .ok (m.wholeText ++ " pts")

/-- Two bars for each program, with its points over them. -/
def standings (typesetter : Typesetter) (scores : List Score) (title : String) :
    Except ChartError Figure :=
  if scores.isEmpty then .error .noStandings
  else do
    let places := (List.range scores.length).map fun i : Nat => units i
    let dealt ← barHeights (scores.map Score.dealt)
    let taken ← barHeights (scores.map Score.taken)
    let labels ← scores.mapM fun s => pointsLabel s.points
    let names := scores.map fun s => String.ofList (s.name.toList.take 15)
    names.forM (checkText typesetter)
    checkText typesetter title
    return {
      axes := .bars "" "HP" names
      width := .ofQuotient (max 12 (3 * scores.length)) 2
      height := units 5
      title
      bottom := units 0
      top := units (maxHealth + 12)
      legend := ["Damage dealt", "Damage taken"]
      patches := bars (places.map (· - halfBar)) actorColor dealt ++
        bars (places.map (· + halfBar)) opponentColor taken
      notes := (places.zip labels).map fun (place, text) =>
        { x := place, y := units (maxHealth + 3), text } }

end TankArena.Chart
