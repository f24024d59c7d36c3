import TankArena.Text.Digit

/-! Numbers written to a fixed width or a fixed number of places. -/

namespace TankArena.Text

/-- A text filled on the left to a width. -/
def padLeft (fill : Char) (width : Nat) (s : String) : String :=
  String.ofList (List.replicate (width - s.length) fill) ++ s

/-- A text filled on the right to a width. -/
def padRight (fill : Char) (width : Nat) (s : String) : String :=
  s ++ String.ofList (List.replicate (width - s.length) fill)

/-- An integer filled with zeros after its sign to a width. -/
def zeroPadded (width : Nat) (n : Int) : String :=
  if n < 0 then "-" ++ padLeft '0' (width - 1) (decimal (-n)) else padLeft '0' width (decimal n)

end TankArena.Text
