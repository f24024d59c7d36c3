import TankArena.Host.HostName
import TankArena.Text.LowerCase
import TankArena.Host.NetworkAddress
import TankArena.Text.Utf8

/-! The authority of an address: a user, a host and a port. -/

namespace TankArena.Host

open Text

/-- Why an address is refused. -/
inductive AddressError
  /-- Brackets stand around something else than the whole host. -/
  | brackets
  /-- The host in brackets is no numeric address. -/
  | notNumeric (host : List Char)
  /-- A dotted address stands in brackets. -/
  | dottedInBrackets
  /-- The host in brackets has a version and is not written as such. -/
  | badVersion
  /-- An authority with characters that may be taken for marks of an address. -/
  | disguised (authority : List Char)
  | port (text : List Char)
  | portRange
  /-- A port with this many digits. -/
  | portDigits (count : Nat)
  | unwritableHost (error : HostName.Error)
  | unreadableHost (error : HostName.Error)
  deriving DecidableEq, Repr

def AddressError.message : AddressError → String
  | .brackets => "Invalid IPv6 URL"
  | .notNumeric host =>
    quoted (String.ofList host) ++ " does not appear to be an IPv4 or IPv6 address"
  | .dottedInBrackets => "An IPv4 address cannot be in brackets"
  | .badVersion => "IPvFuture address is invalid"
  | .disguised authority => "netloc '" ++ String.ofList authority ++
      "' contains invalid characters under NFKC normalization"
  | .port text => "Port could not be cast to integer value as " ++ quoted (String.ofList text)
  | .portRange => "Port out of range 0-65535"
  | .portDigits count =>
    "Exceeds the limit (4300 digits) for integer string conversion: value has " ++
      decimal count ++ " digits; use sys.set_int_max_str_digits() to increase the limit"
  | .unwritableHost e => "encoding with 'idna' codec failed (UnicodeError: " ++ e.message ++ ")"
  | .unreadableHost (.otherWriting label other) => (HostName.Error.otherWriting label other).message
  | .unreadableHost e => "decoding with 'idna' codec failed (UnicodeError: " ++ e.message ++ ")"

/-- The parts of an authority; a part that is missing is empty. -/
structure Authority where
  user : List Char
  password : List Char
  host : List Char
  port : List Char
  deriving DecidableEq, Repr

namespace Authority

/-- What stands behind the last at sign. -/
def place (t : List Char) : List Char := (t.reverse.takeWhile (· ≠ '@')).reverse

/-- What stands before the last at sign. -/
def account (t : List Char) : List Char := t.take (t.length - (place t).length - 1)

/-- Takes an authority apart. A host in brackets may hold colons. -/
def parse (t : List Char) : Authority :=
  let (user, password) := cut ':' (account t)
  let (host, port) :=
    if (place t).contains '[' then
      let (host, behind) := cut ']' (cut '[' (place t)).2
      (host, (cut ':' behind).2)
    else cut ':' (place t)
  { user, password, host, port }

/-- A version in hexadecimal digits behind a v, a dot, and something behind it. -/
def isVersioned (host : List Char) : Bool :=
  let (version, behind) := cut '.' (host.drop 1)
  version ≠ [] && version.all (fun c => (hexValue? c).isSome) && behind ≠ []

/-- Checks a host that stands in brackets. -/
def checkNumeric (host : List Char) : Except AddressError Unit :=
  if host.head? = some 'v' then
    if isVersioned host then .ok () else .error .badVersion
  else if isDottedAddress host then .error .dottedInBrackets
  else if isColonAddress host then .ok ()
  else .error (.notNumeric host)

/-- Checks the brackets: they come in pairs, with nothing before them and at most a port behind. -/
def checkBrackets (t : List Char) : Except AddressError Unit :=
  if t.contains '[' != t.contains ']' then .error .brackets
  else if !t.contains '[' then .ok ()
  else if !(place t).contains '[' then checkNumeric (cut ':' (place t)).1
  else
    let (before, behind) := cut '[' (place t)
    let (host, port) := cut ']' behind
    if before ≠ [] || (port ≠ [] && port.head? ≠ some ':') then .error .brackets
    else checkNumeric host

/-- Characters that look like a slash, a question mark, a number sign, an at sign or a colon, or
hold one of these. -/
def disguises : List CodeRun := CodeRun.table
  ["2047-2049 2100-2101 2105-2106 2A74 FE13 FE16 FE55-FE56 FE5F FE6B FF03 FF0F FF1A FF1F-FF20"]

/-- Checks what can be seen without reading the parts. -/
def check (t : List Char) : Except AddressError Unit := do
  checkBrackets t
  if t.any fun c => disguises.any (·.contains c.toNat) then throw (.disguised t)

/-- The name of the host in small letters; what stands behind a percent sign is kept. -/
def hostName (a : Authority) : List Char :=
  lowerText (a.host.takeWhile (· ≠ '%')) ++ a.host.dropWhile (· ≠ '%')

/-- The number of the port; 0 if there is none. -/
def portNumber (a : Authority) : Except AddressError Nat :=
  if a.port = [] then .ok 0
  else if !a.port.all Char.isDigit then .error (.port a.port)
  else if maxDigits < a.port.length then .error (.portDigits a.port.length)
  else
    let n := ofDigits (a.port.map fun c => c.toNat - 48)
    if n ≤ 65535 then .ok n else .error .portRange

/-- Puts an authority together. A host with colons is put in brackets. -/
def join (user password host : List Char) (port : Nat) : List Char :=
  let host := if host.contains ':' then '[' :: host ++ [']'] else host
  let place := if port = 0 then host else host ++ ':' :: (decimal port).toList
  if user = [] then place
  else if password = [] then user ++ '@' :: place
  else user ++ ':' :: password ++ '@' :: place

/-- A byte written with a percent sign. -/
def percent (b : UInt8) : List Char := '%' :: (hex 2 b.toNat).map Char.toUpper

/-- Characters of a user that stand as they are. -/
def isPlain (c : Char) : Bool := c.isAlphanum || "_.-~%!$&'()*+,;=".toList.contains c

/-- Writes a user in ASCII. -/
def quoteUser (t : List Char) : List Char :=
  t.flatMap fun c => if isPlain c then [c] else (String.singleton c).toUTF8.toList.flatMap percent

/-- Bytes of a user that stay written with a percent sign. -/
def staysQuoted (n : Nat) : Bool :=
  n ≤ 0x20 || n = 0x7F || "%:@/?#".toList.contains (Char.ofNat n)

/-- The bytes that a user in ASCII stands for. -/
def userBytes : List Char → List UInt8
  | '%' :: a :: b :: t =>
    match hexValue? a, hexValue? b with
    | some high, some low =>
      if staysQuoted (16 * high + low) then
        0x25 :: a.toNat.toUInt8 :: b.toNat.toUInt8 :: userBytes t
      else (16 * high + low).toUInt8 :: userBytes t
    | _, _ => 0x25 :: userBytes (a :: b :: t)
  | c :: t => c.toNat.toUInt8 :: userBytes t
  | [] => []

/-- The characters of some bytes; bytes that are no text are written with percent signs. The first
`skip` bytes belong to what was read before. -/
def readable (skip : Nat) : List UInt8 → List Char
  | [] => []
  | b :: bs =>
    match skip with
    | skip + 1 => readable skip bs
    | 0 =>
      match Utf8.front b bs with
      | .ok (c, n) => c :: readable (n - 1) bs
      | .error (_, n) => ((b :: bs).take n).flatMap percent ++ readable (n - 1) bs

/-- Reads a user in ASCII. -/
def unquoteUser (t : List Char) : List Char := readable 0 (userBytes t)

/-- Writes an authority in ASCII. -/
def encode (t : List Char) : Except AddressError (List Char) := do
  let a := parse t
  let host ← (HostName.encode a.hostName).mapError .unwritableHost
  return join (quoteUser a.user) (quoteUser a.password) host (← a.portNumber)

/-- Reads an authority in ASCII. -/
def decode (t : List Char) : Except AddressError (List Char) := do
  let a := parse t
  let host ← (HostName.decode a.hostName).mapError .unreadableHost
  return join (unquoteUser a.user) (unquoteUser a.password) host (← a.portNumber)

end Authority

end TankArena.Host
