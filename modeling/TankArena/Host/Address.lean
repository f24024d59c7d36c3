import TankArena.Host.Url

/-! Where a request is sent: a host, and a path on it. -/

namespace TankArena.Host

open Text

structure Address where
  /-- A connection is asked for that stays open. -/
  isSocket : Bool
  /-- The authority in ASCII, without the port that the scheme implies. -/
  authority : List Char
  /-- The path: empty, or one slash and what follows. -/
  path : List Char
  deriving DecidableEq, Repr

namespace Address

/-- The authority of an address without one. -/
def localAuthority : List Char := "localhost".toList

def isSocketScheme (scheme : List Char) : Bool := scheme = ['w', 's'] || scheme = ['w', 's', 's']

/-- The port that a scheme implies, as it stands in an authority. -/
def impliedPort (scheme : List Char) : List Char :=
  if scheme = [] || scheme = "http".toList || scheme = "ws".toList then ":80".toList
  else if scheme = "https".toList || scheme = "wss".toList then ":443".toList
  else []

/-- An authority without the port that the scheme implies. -/
def dropPort (scheme authority : List Char) : List Char :=
  if (impliedPort scheme).isSuffixOf authority then
    authority.take (authority.length - (impliedPort scheme).length)
  else authority

/-- An address that stands as a path, with its authority in ASCII. -/
def pathText (url : Url) (authority : List Char) : List Char :=
  (if url.scheme = [] then [] else url.scheme ++ [':']) ++
    (if authority = [] then [] else '/' :: '/' :: authority) ++ url.path

/-- A path with exactly one slash at its front, unless it is empty. -/
def rooted (path : List Char) : List Char :=
  if path = [] then [] else '/' :: path.dropWhile (· = '/')

/-- Reads an address. An address may stand as the path of another; the outermost tells the host,
and the one inside the next tells the path. -/
def parse (text : List Char) : Except AddressError Address := do
  let outer ← Url.parse text
  let middle ← Url.parse outer.path
  let inner ← Url.parse middle.path
  let path := pathText inner (← Authority.encode inner.authority)
  let authority ← Authority.encode
    (if outer.authority = [] then localAuthority else outer.authority)
  Authority.check authority
  return {
    isSocket := isSocketScheme outer.scheme
    authority := dropPort outer.scheme authority
    path := rooted (Url.percentDecode path) }

/-- Checks that the authority can be shown. -/
def checkShown (a : Address) : Except AddressError Unit := do
  Authority.check (← Authority.decode a.authority)

/-- Whether the authority up to a colon is the name of a host. -/
def hasHostName (a : Address) : Bool :=
  (HostName.encode (a.authority.takeWhile (· ≠ ':'))).isOk

end Address

end TankArena.Host
