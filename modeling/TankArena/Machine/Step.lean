import TankArena.Machine.Fault
import TankArena.Machine.Primitive
import TankArena.Machine.Runtime

/-! One step of the machine: one statement of the active body, or the end of it. -/

namespace TankArena.Machine

open Arena Script Text

structure State where
  world : World
  runtime : Runtime := {}
  deriving DecidableEq, Inhabited

/-- The name of the variable that a scan sets. -/
def enemyVariable : String := "ENEMY"

def State.say (s : State) (message : String) : State :=
  { s with world := { s.world with message } }

def State.advance (s : State) : State := { s with runtime := s.runtime.advance }

/-- Keeps whether the opponent was seen. -/
def State.notice (s : State) (seen : Bool) : State :=
  let value := if seen then 1 else 0
  { s with runtime := { s.runtime with enemySeen := value }.assign enemyVariable value }

/-- Keeps the value of an expression under a name. -/
def State.assign (s : State) (name : String) (value : Expr) : State :=
  { s with runtime := s.runtime.assign name (s.runtime.eval value) }

/-- How many cells a move asks for; a negative amount asks for none. -/
def State.cells (s : State) (amount : Expr) : Int := max 0 (s.runtime.eval amount)

def State.move (s : State) (amount : Expr) (course : Course) : State :=
  { s with world := moveActor s.world course (s.cells amount) }

/-- Looks for the opponent, keeps the answer and says it. -/
def State.scan (s : State) : State :=
  let found := sight s.world.actor s.world.opponent
  (s.notice found.seen).say (scanMessage found)

/-- The branch that a conditional takes, if there is one. -/
def chosenBranch (value : Int) (yes : Stmt) (no : Option Stmt) : Option Stmt :=
  if value ≠ 0 then some yes else no

/-- Runs a conditional. A branch runs in a frame of its own and the conditional is asked again
when that frame is done; the conditional is left only when no branch is taken. -/
def State.branch (s : State) (test : Expr) (yes : Stmt) (no : Option Stmt) : State :=
  let value := s.runtime.eval test
  match chosenBranch value yes no with
  | some chosen => { s with runtime := s.runtime.push branchLabel [chosen] }
  | none => s.advance.say ("IF (" ++ decimal value ++ ") no-op")

/-- Runs a call. The call is over before the function starts, known or not. -/
def State.call (s : State) (p : Program) (name : String) : State :=
  let s := s.advance.say ("CALL " ++ name)
  match p.functions.get? name with
  | some body => { s with runtime := s.runtime.push name body }
  | none => s

/-- Runs one statement of the active body. -/
def State.exec (s : State) (p : Program) : Stmt → State
  | .assign name value =>
    (s.assign name value).advance.say ("$" ++ name ++ " = " ++ decimal (s.runtime.eval value))
  | .move amount course =>
    (s.move amount course).advance.say
      ("MOVE " ++ decimal (s.cells amount) ++ " " ++ course.name)
  | .turn side => { s with world := turnActor s.world side }.advance.say ("TURN " ++ side.name)
  | .scan => s.scan.advance
  | .attack => { s with world := attackOpponent s.world }.advance
  | .ifThen test yes => s.branch test yes none
  | .ifElse test yes no => s.branch test yes (some no)
  | .call name => s.call p name
  | .noop => s.advance
  | .function .. => s.advance

/-- Why a number cannot be said. -/
def sayFault? (n : Int) : Option Fault := if isWritable n then none else some .tooManyDigits

/-- Why a statement cannot be run to its end: it would have to say too long a number. -/
def State.fault? (s : State) : Stmt → Option Fault
  | .assign _ value => sayFault? (s.runtime.eval value)
  | .move amount _ => sayFault? (s.cells amount)
  | .scan =>
    let found := sight s.world.actor s.world.opponent
    if found.seen then sayFault? found.distance else none
  | _ => none

/-- What a statement has done where its number cannot be said. -/
def State.unsaid (s : State) : Stmt → State
  | .assign name value => (s.assign name value).advance
  | .move amount course => (s.move amount course).advance
  | .scan => s.notice true
  | _ => s

/-- The least counter that fits a machine word. -/
def minCounter : Int := -0x8000000000000000

/-- The statement under a counter; a negative counter counts from the end. -/
def statementAt? (body : List Stmt) (counter : Int) : Option Stmt :=
  if 0 ≤ counter then body[counter.toNat]?
  else if 0 ≤ body.length + counter then body[(body.length + counter).toNat]?
  else none

/-- What a fault leaves of the state. -/
def State.afterFault (s : State) (p : Program) : Fault → State
  | .tooManyDigits =>
    match statementAt? (s.runtime.activeBody p) s.runtime.activeCounter with
    | some stmt => s.unsaid stmt
    | none => s
  | .counterOutOfRange | .counterTooLarge => s

/-- One step: nothing when the program is finished, else the state after it. -/
def step (p : Program) (s : State) : Except Fault (Option State) :=
  let body := s.runtime.activeBody p
  let counter := s.runtime.activeCounter
  if body.length ≤ counter then
    match s.runtime.stack with
    | [] => .ok none
    | _ :: stack => .ok (some { s with runtime := { s.runtime with stack } })
  else
    match statementAt? body counter with
    | some stmt =>
      match s.fault? stmt with
      | none => .ok (some (s.exec p stmt))
      | some fault => .error fault
    | none => .error (if counter < minCounter then .counterTooLarge else .counterOutOfRange)

end TankArena.Machine
