import TankArena.Text.Blank

/-! Searches for a way to read a text: each tries its choices in a fixed order and keeps the first
that the continuation accepts. -/

namespace TankArena.Text

variable {α : Type}

/-- Reads a nonempty run of blanks, the longest first. -/
def blanks (k : List Char → Option α) : List Char → Option α
  | [] => none
  | c :: t => if isBlank c then (blanks k t).or (k t) else none

/-- Reads a nonempty part of one line, the shortest first. -/
def shortest (k : (part rest : List Char) → Option α) : List Char → Option α
  | [] => none
  | c :: t => if c = '\n' then none else (k [c] t).or (shortest (fun p => k (c :: p)) t)

/-- Reads a nonempty part of one line, the longest first. -/
def longest (k : (part rest : List Char) → Option α) : List Char → Option α
  | [] => none
  | c :: t => if c = '\n' then none else (longest (fun p => k (c :: p)) t).or (k [c] t)

/-- Accepts `a` where nothing is left to read. -/
def atEnd (a : α) : List Char → Option α
  | [] => some a
  | _ :: _ => none

end TankArena.Text
