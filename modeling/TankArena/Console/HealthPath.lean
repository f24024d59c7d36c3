import TankArena.Text.Path

/-! Where the health chart of a match goes: beside the board, under a name of its own. -/

namespace TankArena.Console

open Text

/-- The path has no file name. -/
structure NoName where
  path : String
  deriving DecidableEq, Repr

def NoName.message (e : NoName) : String := "PosixPath(" ++ quoted e.path ++ ") has an empty name"

/-- The name of the health chart for the name of a board. -/
def healthName (name : List Char) : List Char :=
  stem name ++ "_health".toList ++ if suffix name = [] then ".png".toList else suffix name

def healthPath (boardPath : String) : Except NoName String :=
  let path := Path.parse boardPath
  match path.name? with
  | some name => .ok (path.sibling (healthName name)).text
  | none => .error ⟨path.text⟩

end TankArena.Console
