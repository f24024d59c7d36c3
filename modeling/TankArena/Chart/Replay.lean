import TankArena.Chart.Board
import TankArena.Chart.Picture
import TankArena.Match.Run
import TankArena.Text.Path

/-! The end of a match as a board, and a match as a series of boards. -/

namespace TankArena.Chart

open Arena Match Script Text

/-- Who won, and after how many ticks. -/
def endTitle (r : Result) : Except ChartError String :=
  telling r.ticks (r.winnerName ++ " after " ++ decimal r.ticks ++ " ticks")

/-- The board at the end of a match: the last recorded world, or the opening if there is no
record. -/
def finalBoard (typesetter : Typesetter) (r : Result) : Except ChartError Figure := do
  let title ← endTitle r
  board typesetter ((r.history.getLast?.map Record.world).getD .initial) (some title)

/-- Every `n`-th element, when the next `skip` elements are left out. -/
def strideFrom {α : Type} (n : Nat) : (skip : Nat) → List α → List α
  | _, [] => []
  | 0, a :: l => a :: strideFrom n (n - 1) l
  | skip + 1, _ :: l => strideFrom n skip l

/-- Every `n`-th element, from the first on. -/
def stride {α : Type} (n : Nat) (l : List α) : List α := strideFrom n 0 l

/-- The file name of a frame. -/
def frameName (tick : Int) : Except ChartError String :=
  telling tick ("tick_" ++ zeroPadded 4 tick ++ ".png")

inductive ReplayError
  | every
  | save (error : SaveError)
  deriving DecidableEq, Repr

def ReplayError.message : ReplayError → String
  | .every => "every must be at least 1"
  | .save error => error.message

/-- Saves one frame and gives its path. -/
def saveFrame (typesetter : Typesetter) (directory : Path) (o : Output) (r : Record) :
    Except SaveError (String × Output) :=
  match frameName r.tick with
  | .error e => .error (.chart e)
  | .ok name =>
    let path := (directory.child name.toList).text
    (o.draw (board typesetter r.world none) (some path)).map (path, ·)

/-- Saves frames one after the other and gives their paths. -/
def saveFrames (typesetter : Typesetter) (directory : Path) (o : Output) :
    List Record → Except SaveError (List String × Output)
  | [] => .ok ([], o)
  | r :: rs =>
    match saveFrame typesetter directory o r with
    | .error e => .error e
    | .ok (path, o) =>
      (saveFrames typesetter directory o rs).map fun (paths, o) => (path :: paths, o)

/-- Saves every `every`-th recorded tick as a board and gives the paths written. -/
def saveReplay (typesetter : Typesetter) (o : Output) (history : List Record) (directory : String)
    (every : Int) : Except ReplayError (List String × Output) :=
  if every < 1 then .error .every
  else do
    let path := Path.parse directory
    let disk ← (o.disk.ensureDirectories path).mapError fun e => .save (.disk e)
    (saveFrames typesetter path { o with disk } (stride every.toNat history)).mapError .save

end TankArena.Chart
