import TankArena.Text.Digit
import TankArena.Text.Quoted

/-! Bytes read as UTF-8, with the first fault told exactly. -/

namespace TankArena.Text

inductive Utf8Fault
  | start | continuation | unexpectedEnd
  deriving DecidableEq, Repr

/-- Where and why bytes are no text. -/
structure Utf8Error where
  position : Nat
  /-- The bytes at fault. -/
  bytes : List UInt8
  fault : Utf8Fault
  deriving DecidableEq, Repr

def Utf8Fault.message : Utf8Fault → String
  | .start => "invalid start byte"
  | .continuation => "invalid continuation byte"
  | .unexpectedEnd => "unexpected end of data"

def Utf8Error.message (e : Utf8Error) : String :=
  let place := match e.bytes with
    | [b] => "byte 0x" ++ String.ofList (hex 2 b.toNat) ++ " in position " ++ decimal e.position
    | _ => "bytes in position " ++ decimal e.position ++ "-" ++
      decimal (e.position + e.bytes.length - 1 : Nat)
  "'utf-8' codec can't decode " ++ place ++ ": " ++ e.fault.message

namespace Utf8

def isContinuation (b : UInt8) : Bool := 0x80 ≤ b && b ≤ 0xBF

/-- The second bytes that may follow a lead byte of three or four. -/
def isSecond (lead b : UInt8) : Bool :=
  isContinuation b &&
    (if lead = 0xE0 then 0xA0 ≤ b
     else if lead = 0xED then b ≤ 0x9F
     else if lead = 0xF0 then 0x90 ≤ b
     else if lead = 0xF4 then b ≤ 0x8F
     else true)

def low6 (b : UInt8) : Nat := b.toNat % 64

/-- What stands at the front of some bytes: a character and its length in bytes, or a fault and
the number of bytes at fault. -/
def front (lead : UInt8) (rest : List UInt8) : Except (Utf8Fault × Nat) (Char × Nat) :=
  if lead < 0x80 then .ok (Char.ofNat lead.toNat, 1)
  else if lead < 0xC2 || 0xF4 < lead then .error (.start, 1)
  else if lead < 0xE0 then
    match rest with
    | [] => .error (.unexpectedEnd, 1)
    | b :: _ =>
      if isContinuation b then .ok (Char.ofNat (lead.toNat % 32 * 64 + low6 b), 2)
      else .error (.continuation, 1)
  else if lead < 0xF0 then
    match rest with
    | [] => .error (.unexpectedEnd, 1)
    | b :: rest =>
      if !isSecond lead b then .error (.continuation, 1)
      else
        match rest with
        | [] => .error (.unexpectedEnd, 2)
        | c :: _ =>
          if isContinuation c then
            .ok (Char.ofNat (lead.toNat % 16 * 4096 + low6 b * 64 + low6 c), 3)
          else .error (.continuation, 2)
  else
    match rest with
    | [] => .error (.unexpectedEnd, 1)
    | b :: rest =>
      if !isSecond lead b then .error (.continuation, 1)
      else
        match rest with
        | [] => .error (.unexpectedEnd, 2)
        | c :: rest =>
          if !isContinuation c then .error (.continuation, 2)
          else
            match rest with
            | [] => .error (.unexpectedEnd, 3)
            | d :: _ =>
              if isContinuation d then
                .ok (Char.ofNat (lead.toNat % 8 * 262144 + low6 b * 4096 + low6 c * 64 + low6 d), 4)
              else .error (.continuation, 3)

/-- Reads bytes from a position on by a rule for what stands at their front; the first `skip` of
them belong to a character already read. -/
def decodeFrom {α : Type} (front : UInt8 → List UInt8 → Except (Utf8Fault × Nat) (α × Nat))
    (position skip : Nat) : List UInt8 → Except Utf8Error (List α)
  | [] => .ok []
  | b :: bs =>
    match skip with
    | skip + 1 => decodeFrom front (position + 1) skip bs
    | 0 =>
      match front b bs with
      | .ok (c, n) => (decodeFrom front (position + 1) (n - 1) bs).map (c :: ·)
      | .error (fault, n) => .error { position, bytes := (b :: bs).take n, fault }

def decode (bytes : List UInt8) : Except Utf8Error (List Char) := decodeFrom front 0 0 bytes

end Utf8

end TankArena.Text
