import TankArena.Host.Authority

/-! Addresses: their parts before a query, and characters written with a percent sign. -/

namespace TankArena.Host

open Text

/-- The parts of an address; a part that is missing is empty. -/
structure Url where
  scheme : List Char
  authority : List Char
  path : List Char
  deriving DecidableEq, Repr

namespace Url

def isSchemeChar (c : Char) : Bool := c.isAlphanum || c == '+' || c == '-' || c == '.'

/-- The scheme before the first colon, in small letters, and what follows. -/
def splitScheme (t : List Char) : List Char × List Char :=
  match t.takeWhile (· ≠ ':'), t.dropWhile (· ≠ ':') with
  | c :: cs, _ :: rest =>
    if c.isAlpha && cs.all isSchemeChar then ((c :: cs).map Char.toLower, rest) else ([], t)
  | _, _ => ([], t)

/-- A query or a fragment starts here. -/
def endsPath (c : Char) : Bool := c == '?' || c == '#'

/-- The authority after two slashes, and what follows. -/
def splitAuthority : List Char → List Char × List Char
  | '/' :: '/' :: t =>
    let ends (c : Char) : Bool := c == '/' || endsPath c
    (t.takeWhile (!ends ·), t.dropWhile (!ends ·))
  | t => ([], t)

/-- An address without controls and spaces at its front, and without tabs and line ends. -/
def clean (t : List Char) : List Char :=
  (t.dropWhile (·.toNat ≤ 0x20)).filter fun c => c != '\t' && c != '\r' && c != '\n'

/-- Takes an address apart. Its query and its fragment are dropped. -/
def parse (t : List Char) : Except AddressError Url := do
  let (scheme, t) := splitScheme (clean t)
  let (authority, t) := splitAuthority t
  Authority.check authority
  return { scheme, authority, path := t.takeWhile (!endsPath ·) }

/-- Replaces a percent sign and two hexadecimal digits by the byte that they stand for. -/
def percentDecode : List Char → List Char
  | '%' :: a :: b :: t =>
    match hexValue? a, hexValue? b with
    | some high, some low => Char.ofNat (16 * high + low) :: percentDecode t
    | _, _ => '%' :: percentDecode (a :: b :: t)
  | c :: t => c :: percentDecode t
  | [] => []

end Url

end TankArena.Host
