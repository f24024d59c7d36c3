import TankArena.Host.Router

/-! The server of the page, as it runs. -/

namespace TankArena.Host

open Playground

/-- The server has room for 326 readings inside one another. -/
def server (settings : Settings := {}) : Server :=
  .ofRoom settings router (fun _ => 326) (by decide +kernel)

end TankArena.Host
