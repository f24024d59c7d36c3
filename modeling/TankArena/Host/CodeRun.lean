import TankArena.Text.Digit

/-! Tables of code points. A table is written as lines of runs in hexadecimal digits, such as
`41-5A:61` for the letters from A to Z and the small letters from a on. -/

namespace TankArena.Host

open Text

/-- The code points from `first` to `last`, each or every second of them, and what is told of
them. -/
structure CodeRun where
  first : Nat
  last : Nat
  step : Nat
  form : List Nat
  deriving DecidableEq, Repr

/-- The parts of a text before and after the first mark; without a mark all of it is before. -/
def cut (mark : Char) (t : List Char) : List Char × List Char :=
  (t.takeWhile (· ≠ mark), (t.dropWhile (· ≠ mark)).drop 1)

def hexNumber (t : List Char) : Nat := t.foldl (fun n c => 16 * n + (hexValue? c).getD 0) 0

namespace CodeRun

/-- Reads a run: `first-last/step:form`, where all but the first code point may be missing. -/
def parse (t : List Char) : CodeRun :=
  let (place, form) := cut ':' t
  let (ends, step) := cut '/' place
  let (first, last) := cut '-' ends
  { first := hexNumber first
    last := hexNumber (if last = [] then first else last)
    step := if step = [] then 1 else hexNumber step
    form := if form = [] then [] else (form.splitOn '+').map hexNumber }

/-- Reads lines of runs with spaces between them. -/
def table (lines : List String) : List CodeRun :=
  lines.flatMap fun line => (line.toList.splitOn ' ').map parse

def contains (r : CodeRun) (c : Nat) : Bool :=
  r.first ≤ c && c ≤ r.last && (c - r.first) % r.step = 0

/-- The form of a code point in a run. A form of one code point moves along with the run. -/
def form? (r : CodeRun) (c : Nat) : Option (List Nat) :=
  if r.contains c then
    match r.form with
    | [target] => some [target + (c - r.first)]
    | form => some form
  else none

end CodeRun

end TankArena.Host
