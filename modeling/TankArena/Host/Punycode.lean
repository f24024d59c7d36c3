import TankArena.Text.Blank

/-! Code points written with ASCII letters and digits: the ASCII ones stand as they are, and behind
the last hyphen stands where the others go, each as the distance from the one before. -/

namespace TankArena.Host.Punycode

open Text

/-- Why a text stands for no code points. -/
inductive Error
  /-- A number is cut off. -/
  | incomplete
  /-- No digit. -/
  | digit (c : Char)
  /-- A number that is no code point. -/
  | codePoint (n : Nat)
  deriving DecidableEq, Repr

/-- The digits of a number have the values 0 to 35; the least of them that goes on depends on the
place and on the bias, which follows the numbers written before. -/
def threshold (place bias : Nat) : Nat :=
  let k := 36 * (place + 1)
  if k ≤ bias then 1 else min 26 (k - bias)

theorem threshold_pos (place bias : Nat) : 0 < threshold place bias := by
  simp only [threshold]
  split <;> omega

/-- Divides by 35 until little is left; counts 36 for each time. -/
def reduce (delta divisions : Nat) : Nat × Nat :=
  if 455 < delta then reduce (delta / 35) (divisions + 36) else (delta, divisions)
termination_by delta
decreasing_by omega

/-- The bias after a number, for a text that now has `count` code points. -/
def adapt (delta count : Nat) (first : Bool) : Nat :=
  let delta := if first then delta / 700 else delta / 2
  let (delta, divisions) := reduce (delta + delta / count) 0
  divisions + 36 * delta / (delta + 38)

def digitChar (d : Nat) : Char :=
  if d < 26 then Char.ofNat (97 + d) else Char.ofNat (22 + d)

/-- The value of a digit; letter case does not matter. -/
def digitValue? (c : Char) : Option Nat :=
  if c.isAlpha then some (c.toLower.toNat - 97)
  else if c.isDigit then some (c.toNat - 22)
  else none

/-- The digits of a number from a place on. -/
def digits (bias place n : Nat) : List Char :=
  let t := threshold place bias
  if n < t then [digitChar n]
  else digitChar (t + (n - t) % (36 - t)) :: digits bias (place + 1) ((n - t) / (36 - t))
termination_by n
decreasing_by
  have h := threshold_pos place bias
  calc (n - threshold place bias) / (36 - threshold place bias)
      ≤ n - threshold place bias := Nat.div_le_self ..
    _ < n := by omega

/-- What is written so far: digits, the distance since the last number, the bias, and how many code
points are placed. -/
structure Writer where
  written : List Char := []
  delta : Nat := 0
  bias : Nat := 72
  placed : Nat

/-- Passes a code point of the text while those equal to `m` are placed; all less are in place. -/
def Writer.pass (basic m : Nat) (w : Writer) (c : Nat) : Writer :=
  if c < m then { w with delta := w.delta + 1 }
  else if c = m then
    { written := w.written ++ digits w.bias 0 w.delta
      delta := 0
      bias := adapt w.delta (w.placed + 1) (w.placed = basic)
      placed := w.placed + 1 }
  else w

/-- Places the code points `ms`, in rising order, of a text; all below `n` are placed. -/
def Writer.place (t : List Nat) (basic : Nat) : (n : Nat) → List Nat → Writer → Writer
  | _, [], w => w
  | n, m :: ms, w =>
    let w := t.foldl (Writer.pass basic m) { w with delta := w.delta + (m - n) * (w.placed + 1) }
    Writer.place t basic (m + 1) ms { w with delta := w.delta + 1 }

/-- Writes code points. -/
def encode (t : List Nat) : List Char :=
  let basic := (t.filter (· < 128)).map Char.ofNat
  let others := ((t.filter (128 ≤ ·)).mergeSort (· ≤ ·)).eraseDups
  let w := Writer.place t basic.length 128 others { placed := basic.length }
  if basic = [] then w.written else basic ++ '-' :: w.written

/-- What is read so far: the code points, the last of those that were placed, the place behind it,
the bias, and the number that is being read. -/
structure Reader where
  text : List Nat
  code : Nat := 128
  index : Nat := 0
  bias : Nat := 72
  first : Bool := true
  number : Nat := 0
  weight : Nat := 1
  place : Nat := 0

/-- Places the code point to which a finished number leads. -/
def Reader.insert (r : Reader) (delta : Nat) : Except Error Reader :=
  let count := r.text.length + 1
  let code := r.code + (r.index + delta) / count
  let index := (r.index + delta) % count
  if 0x10FFFF < code then .error (.codePoint code)
  else
    .ok { text := r.text.take index ++ code :: r.text.drop index
          code
          index := index + 1
          bias := adapt delta count r.first
          first := false }

/-- Reads one digit. -/
def Reader.digit (r : Reader) (c : Char) : Except Error Reader :=
  match digitValue? c with
  | none => .error (.digit c)
  | some d =>
    let t := threshold r.place r.bias
    let number := r.number + d * r.weight
    if d < t then r.insert number
    else .ok { r with number, weight := r.weight * (36 - t), place := r.place + 1 }

/-- Reads code points. -/
def decode (t : List Char) : Except Error (List Nat) := do
  let behind := (t.reverse.takeWhile (· ≠ '-')).reverse
  let basic := t.take (t.length - behind.length - 1)
  let r ← behind.foldlM Reader.digit { text := basic.map Char.toNat }
  if r.place = 0 then return r.text else throw .incomplete

end TankArena.Host.Punycode
