import TankArena.Console.Session
import TankArena.Host.EnvFile
import TankArena.Host.Formula.Typesetter

/-! What the command line works with, as it runs. -/

namespace TankArena.Host

open Console

/-- The command line has room for 330 readings inside one another. -/
def platform : Platform where
  room _ := 330
  typesetter := Formula.typesetter
  bindings env text := EnvFile.resolve env (EnvFile.bindings text)

end TankArena.Host
