import TankArena.Match.Run

/-! Rankings of several programs, each playing its own match. -/

namespace TankArena.Match

open Arena Machine Script

/-- How a program did. -/
structure Standing where
  wins : Nat
  draws : Nat
  losses : Nat
  points : Nat
  ticks : Int
  damageDealt : Int
  damageTaken : Int
  deriving DecidableEq, Repr, Inhabited

def Standing.ofResult (r : Result) : Standing where
  wins := if r.winner = some .actor then 1 else 0
  draws := if r.isDraw then 1 else 0
  losses := if r.winner = some .opponent then 1 else 0
  points := r.points
  ticks := r.ticks
  damageDealt := r.damageDealt
  damageTaken := r.damageTaken

/-- The numbers that are compared one after the other; the smaller comes first. -/
def Standing.key (s : Standing) : List Int :=
  [-(s.points : Int), -s.damageDealt, s.damageTaken, s.ticks]

/-- Compares numbers one after the other; the first two that differ decide. -/
def keyLe : List Int → List Int → Bool
  | [], _ => true
  | _ :: _, [] => false
  | a :: as, b :: bs => a < b || (a = b && keyLe as bs)

/-- Comes before or is level with: more points, then more damage dealt, less damage taken, fewer
ticks. -/
def Standing.le (s t : Standing) : Bool := keyLe s.key t.key

/-- The standing of a program that plays from the opening. A match that comes to a fault gives none. -/
def standing (settings : Settings) (program : Program) : Except Fault Standing :=
  (runFrom settings false program .initial).map .ofResult

/-- A program of a table with its standing in its place. -/
def entry (settings : Settings) (e : String × Program) : Except Fault (String × Standing) :=
  (standing settings e.2).map (e.1, ·)

inductive RankingError
  | noPrograms
  | fault (fault : Fault)
  deriving DecidableEq, Repr

def RankingError.message : RankingError → String
  | .noPrograms => "Need at least 1 program for a gauntlet"
  | .fault e => e.message

/-- Ranks programs, the best first; level ones keep the order of the table. The first match that comes
to a fault ends it. -/
def rank (settings : Settings) (programs : Table Program) :
    Except RankingError (List (String × Standing)) :=
  if programs.entries.isEmpty then .error .noPrograms
  else
    match programs.entries.mapM (entry settings) with
    | .error e => .error (.fault e)
    | .ok standings => .ok (standings.mergeSort fun a b => a.2.le b.2)

end TankArena.Match
