import TankArena.Script.Program

/-! The state of a running program: variables, and a stack of bodies being run. -/

namespace TankArena.Machine

open Script

/-- A body being run: that of a called function, or the chosen branch of a conditional. -/
structure Frame where
  label : String
  counter : Int := 0
  body : List Stmt := []
  deriving DecidableEq, Inhabited

/-- The label of the frame of a chosen branch. -/
def branchLabel : String := "<if>"

/-- The label under which the main sequence is shown. -/
def mainLabel : String := "<main>"

/-- The stack holds the active frame first; with an empty stack the main sequence is active. The
store holds the values of variables. -/
structure Runtime where
  counter : Int := 0
  stack : List Frame := []
  store : Table Int := ∅
  enemySeen : Int := 0
  deriving DecidableEq, Inhabited

namespace Runtime

def activeBody (r : Runtime) (p : Program) : List Stmt :=
  match r.stack with
  | [] => p.main
  | f :: _ => f.body

def activeCounter (r : Runtime) : Int :=
  match r.stack with
  | [] => r.counter
  | f :: _ => f.counter

def activeLabel (r : Runtime) : String :=
  match r.stack with
  | [] => mainLabel
  | f :: _ => f.label

/-- Goes on to the next statement of the active body. -/
def advance (r : Runtime) : Runtime :=
  match r.stack with
  | [] => { r with counter := r.counter + 1 }
  | f :: fs => { r with stack := { f with counter := f.counter + 1 } :: fs }

def push (r : Runtime) (label : String) (body : List Stmt) : Runtime :=
  { r with stack := { label, body } :: r.stack }

def assign (r : Runtime) (name : String) (value : Int) : Runtime :=
  { r with store := r.store.insert name value }

/-- The main sequence has run out and no frame is left. -/
def isFinished (r : Runtime) (p : Program) : Bool :=
  r.stack.isEmpty && p.main.length ≤ r.counter

/-- The value of an expression; a variable that was never set is 0. -/
def eval (r : Runtime) : Expr → Int
  | .literal value => value
  | .variable name => (r.store.get? name).getD 0

end Runtime

end TankArena.Machine
