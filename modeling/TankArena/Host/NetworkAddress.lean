import TankArena.Text.Digit

/-! Numeric addresses of hosts. -/

namespace TankArena.Host

open Text

/-- A number from 0 to 255 without leading zeros. -/
def isOctet (t : List Char) : Bool :=
  t ≠ [] && t.length ≤ 3 && t.all Char.isDigit && (t = ['0'] || t.head? ≠ some '0') &&
    ofDigits (t.map fun c => c.toNat - 48) ≤ 255

/-- Four octets with dots between them. -/
def isDottedAddress (t : List Char) : Bool :=
  let octets := t.splitOn '.'
  octets.length = 4 && octets.all isOctet

/-- One to four hexadecimal digits. -/
def isHexGroup (t : List Char) : Bool :=
  t ≠ [] && t.length ≤ 4 && t.all fun c => (hexValue? c).isSome

/-- Groups that stand for a whole address: eight of them, or fewer around one gap that stands for
the missing ones. An empty group is a gap; at an end of the address it comes twice. -/
def areAddressGroups : List (List Char) → Bool
  | [] => false
  | first :: rest =>
    let before := first :: rest.takeWhile (· ≠ [])
    match rest.dropWhile (· ≠ []) with
    | [] => before.length = 8 && before.all isHexGroup
    | [_] => false
    | _ :: after =>
      let before := if before = [[]] then [] else before
      let after := if after = [[]] then [] else after
      before.length + after.length < 8 && before.all isHexGroup && after.all isHexGroup

/-- Groups with colons between them, of which the last two may be written as octets. Behind a
percent sign stands the part of the network. -/
def isColonAddress (t : List Char) : Bool :=
  let address := t.takeWhile (· ≠ '%')
  let groups := address.splitOn ':'
  let groups? := match groups.getLast? with
    | some last =>
      if !last.contains '.' then some groups
      else if isDottedAddress last then some (groups.dropLast ++ [['0'], ['0']])
      else none
    | none => none
  let zoned := match t.dropWhile (· ≠ '%') with
    | [] => true
    | _ :: zone => zone ≠ [] && !zone.contains '%'
  zoned && groups?.any areAddressGroups

end TankArena.Host
