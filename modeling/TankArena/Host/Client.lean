import TankArena.Host.Address
import TankArena.Playground.Session

/-! How requests are made. -/

namespace TankArena.Host

open Playground

/-- Why a request cannot be sent. -/
inductive RequestError
  /-- A header would have more than one line. -/
  | headerLines
  | address (error : AddressError)
  deriving DecidableEq, Repr

def RequestError.message : RequestError → String
  | .headerLines => "Header values must not contain newline characters."
  | .address error => error.message

/-- Makes a request to an address. The content type is one line. -/
def makeRequest (method path contentType : String) (body : List UInt8) :
    Except RequestError Request := do
  let address ← (Address.parse path.toList).mapError .address
  if contentType.toList.any fun c => c == '\r' || c == '\n' then throw .headerLines
  address.checkShown.mapError .address
  return { method, path, contentType, body }

end TankArena.Host
