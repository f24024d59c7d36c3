import TankArena.Text.Blank
import TankArena.Text.Digit
import TankArena.Text.Letter

/-! Expressions: an integer or a variable. -/

namespace TankArena.Script

open Text

inductive Expr
  | literal (value : Int)
  | variable (name : String)
  deriving DecidableEq, Repr, Inhabited

/-- The variable written as a dollar sign and a name. -/
def variableName? : List Char → Option String
  | '$' :: name => if isName name then some (String.ofList name) else none
  | _ => none

/-- Reads a variable or an integer; any other text is the number 0. -/
def Expr.ofChars (t : List Char) : Expr :=
  match variableName? (trim t) with
  | some name => .variable name
  | none => .literal ((integer? (trim t)).getD 0)

def Expr.parse (text : String) : Expr := .ofChars text.toList

def Expr.text : Expr → String
  | .literal value => decimal value
  | .variable name => "$" ++ name

end TankArena.Script
