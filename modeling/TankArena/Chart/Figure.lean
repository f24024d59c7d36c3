import TankArena.Chart.Measure
import TankArena.Text.Digit

/-! Figures as values: what is drawn where, in which colour, with which texts. -/

namespace TankArena.Chart

open Text

/-- A whole number of units. -/
abbrev units (n : Int) : Measure := .ofInt n

/-- A line through points. -/
structure Curve where
  xs : List Measure
  ys : List Measure
  color : String
  deriving DecidableEq, Repr

inductive PatchShape
  | box | bar
  deriving DecidableEq, Repr

structure Patch where
  shape : PatchShape
  x : Measure
  y : Measure
  width : Measure
  height : Measure
  color : String
  deriving DecidableEq, Repr

/-- A text set at a point. -/
structure Note where
  x : Measure
  y : Measure
  text : String
  deriving DecidableEq, Repr

/-- What belongs to one kind of figure only. -/
inductive Axes
  /-- A board between two borders, ruled with a number of lines. -/
  | board (left right : Measure) (gridLines : Nat)
  /-- Curves over a labelled axis. -/
  | curves (xLabel yLabel : String)
  /-- Bars over named places. -/
  | bars (xLabel yLabel : String) (names : List String)
  deriving DecidableEq, Repr

structure Figure where
  axes : Axes
  width : Measure
  height : Measure
  title : String
  /-- The values at the lower and at the upper border. -/
  bottom : Measure
  top : Measure
  legend : List String
  curves : List Curve := []
  patches : List Patch := []
  notes : List Note := []
  deriving DecidableEq, Repr

/-- Why a figure cannot be drawn. -/
inductive ChartError
  | noTicks
  | noStandings
  /-- A whole number is too large for a measure. -/
  | tooLarge
  /-- A quotient is too large for a measure. -/
  | quotientTooLarge
  /-- A whole number is too large for a machine word. -/
  | wordTooLarge
  /-- Values beyond machine words cannot be told apart from infinite ones. -/
  | notComparable
  /-- A number in a text has too many digits to be written. -/
  | tooManyDigits
  /-- A text is refused. -/
  | text (reason : String)
  deriving DecidableEq, Repr

def ChartError.message : ChartError → String
  | .noTicks => "No ticks recorded"
  | .noStandings => "No gauntlet results to plot"
  | .tooLarge => "int too large to convert to float"
  | .quotientTooLarge => "integer division result too large for a float"
  | .wordTooLarge => "Python int too large to convert to C long"
  | .notComparable => "ufunc 'isfinite' not supported for the input types, and the inputs could " ++
      "not be safely coerced to any supported types according to the casting rule ''safe''"
  | .tooManyDigits => digitLimitMessage
  | .text reason => reason

/-- A measure that is not infinite. -/
def finite (error : ChartError) (m : Measure) : Except ChartError Measure :=
  if m.isFinite then .ok m else .error error

/-- What sets the texts of a figure. It takes what stands between two dollar signs for a formula and may
refuse it; a text that has no two of them is set as it is. -/
structure Typesetter where
  set : (text : String) → Except String Unit
  plain : ∀ text, text.toList.count '$' ≤ 1 → set text = .ok ()

/-- Whether a text can be set. -/
def checkText (typesetter : Typesetter) (text : String) : Except ChartError Unit :=
  (typesetter.set text).mapError .text

/-- A text with a number in it. -/
def telling (n : Int) (text : String) : Except ChartError String :=
  if isWritable n then .ok text else .error .tooManyDigits

def actorColor : String := "#00e5ff"

def opponentColor : String := "#ff2ad1"

def healthColor : String := "#00ffaa"

end TankArena.Chart
