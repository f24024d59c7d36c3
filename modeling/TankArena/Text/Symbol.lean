import TankArena.Text.Utf8

/-! Texts in which half of a surrogate pair may stand alone, and the bytes that they are read
from. -/

namespace TankArena.Text

/-- A character, or half of a surrogate pair that stands alone. -/
inductive Symbol
  | char (c : Char)
  | half (code : Nat)
  deriving DecidableEq, Repr, Inhabited

namespace Symbol

/-- The character that a symbol is, unless it is a half. -/
def char? : Symbol → Option Char
  | .char c => some c
  | .half _ => none

def isHigh (n : Nat) : Bool := 0xD800 ≤ n && n ≤ 0xDBFF

def isLow (n : Nat) : Bool := 0xDC00 ≤ n && n ≤ 0xDFFF

/-- The symbol of a code point. -/
def ofCode (n : Nat) : Symbol := if isHigh n || isLow n then .half n else .char (Char.ofNat n)

/-- The character that a high and a low half stand for. -/
def join (high low : Nat) : Char :=
  Char.ofNat (0x10000 + (high - 0xD800) * 1024 + (low - 0xDC00))

/-- The text of some symbols, with a mark in the place of each half. -/
def text (t : List Symbol) : String := String.ofList (t.map (·.char?.getD '\uFFFD'))

/-- What stands at the front of bytes in UTF-8 that may hold halves, of three bytes each. -/
def front (lead : UInt8) (rest : List UInt8) : Except (Utf8Fault × Nat) (Symbol × Nat) :=
  let strict := (Utf8.front lead rest).map fun (c, n) => (.char c, n)
  match rest with
  | b :: c :: _ =>
    if lead = 0xED && 0xA0 ≤ b && Utf8.isContinuation b && Utf8.isContinuation c then
      .ok (.half (0xD000 + Utf8.low6 b * 64 + Utf8.low6 c), 3)
    else strict
  | _ => strict

def ofUtf8? (bytes : List UInt8) : Option (List Symbol) :=
  (Utf8.decodeFrom front 0 0 bytes).toOption

/-- Symbols from units of 16 bits, in which two halves may make a pair. -/
def ofUnits : List Nat → List Symbol
  | [] => []
  | [n] => [ofCode n]
  | n :: m :: r =>
    if isHigh n && isLow m then .char (join n m) :: ofUnits r else ofCode n :: ofUnits (m :: r)

/-- Units of two bytes, the more significant first if `big` is set. -/
def units? (big : Bool) : List UInt8 → Option (List Nat)
  | [] => some []
  | [_] => none
  | a :: b :: r =>
    (units? big r).map ((if big then 256 * a.toNat + b.toNat else 256 * b.toNat + a.toNat) :: ·)

def ofUtf16? (big : Bool) (bytes : List UInt8) : Option (List Symbol) :=
  (units? big bytes).map ofUnits

/-- Symbols of four bytes each, the most significant first if `big` is set. -/
def ofUtf32? (big : Bool) : List UInt8 → Option (List Symbol)
  | [] => some []
  | a :: b :: c :: d :: r =>
    let bytes := if big then [a, b, c, d] else [d, c, b, a]
    let n := bytes.foldl (fun n b => 256 * n + b.toNat) 0
    if n ≤ 0x10FFFF then (ofUtf32? big r).map (ofCode n :: ·) else none
  | _ => none

/-- The symbols of some bytes, whose encoding shows in their first few: UTF-8 unless a mark or zero
bytes tell otherwise. -/
def ofBytes? (bytes : List UInt8) : Option (List Symbol) :=
  match bytes with
  | 0 :: 0 :: 0xFE :: 0xFF :: r => ofUtf32? true r
  | 0xFF :: 0xFE :: 0 :: 0 :: r => ofUtf32? false r
  | 0xFE :: 0xFF :: r => ofUtf16? true r
  | 0xFF :: 0xFE :: r => ofUtf16? false r
  | 0xEF :: 0xBB :: 0xBF :: r => ofUtf8? r
  | 0 :: b :: _ :: _ :: _ => if b = 0 then ofUtf32? true bytes else ofUtf16? true bytes
  | _ :: 0 :: c :: d :: _ => if c = 0 && d = 0 then ofUtf32? false bytes else ofUtf16? false bytes
  | [0, _] => ofUtf16? true bytes
  | [_, 0] => ofUtf16? false bytes
  | _ => ofUtf8? bytes

end Symbol

end TankArena.Text
