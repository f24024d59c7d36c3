import TankArena.Table
import TankArena.Script.Reader

/-! Programs: a main sequence of statements and a table of functions. -/

namespace TankArena.Script

open Text

structure Program where
  main : List Stmt := []
  functions : Table (List Stmt) := ∅
  deriving DecidableEq, Inhabited

/-- The declared function, if the statement declares one. -/
def Stmt.declared? : Stmt → Option (String × List Stmt)
  | .function name body => some (name, body)
  | _ => none

/-- Moves the declarations of a script into the table; of two with one name the later counts, in
the place of the first. -/
def Program.ofStmts (stmts : List Stmt) : Program where
  main := stmts.filter (·.declared?.isNone)
  functions := .ofList (stmts.filterMap Stmt.declared?)

/-- Reads a script in which no more than `room` readings of statement texts stand inside one another. -/
def Program.ofChars (room : Nat) (source : List Char) : Except ReadError Program :=
  ((tokensOf (lines source)).mapM (Stmt.read room)).map .ofStmts

def Program.parse (room : Nat) (source : String) : Except ReadError Program :=
  Program.ofChars room source.toList

/-- The program as a script, functions first. -/
def Program.text (p : Program) : String :=
  let blocks := p.functions.entries.map fun (name, body) => (Stmt.function name body).text
  let main := p.main.map Stmt.text
  "\n\n".intercalate
    ((if blocks = [] then [] else ["\n\n".intercalate blocks]) ++
      (if main = [] then [] else ["\n".intercalate main]))

/-- The same main sequence and the same functions, in whatever order they were declared. -/
def Program.agrees (p q : Program) : Bool :=
  p.main == q.main && p.functions.agrees q.functions

end TankArena.Script
