import TankArena.Script.Error
import TankArena.Script.Form
import TankArena.Script.Stmt

/-! Reading statements. A text of no known form is a statement that does nothing. -/

namespace TankArena.Script

open Text

def Course.read (word : List Char) : Except ReadError Course :=
  let name := String.ofList (word.map upper)
  match Course.ofName? name with
  | some course => .ok course
  | none => .error (.course name)

def Side.read (word : List Char) : Except ReadError Side :=
  let name := String.ofList (word.map upper)
  match Side.ofName? name with
  | some side => .ok side
  | none => .error (.side name)

/-- A statement text without blanks at its ends and without one closing semicolon. -/
def withoutTerminator (token : List Char) : List Char :=
  let t := trim token
  if t.getLast? = some ';' then trimEnd t.dropLast else t

/-- Reads a statement that holds no other. -/
def readPlain (t : List Char) : Except ReadError Stmt :=
  match assignment? t with
  | some (name, value) => .ok (.assign (String.ofList name) (.ofChars value))
  | none =>
    match move? t with
    | some (amount, word) => (Course.read word).map (.move (.ofChars amount))
    | none =>
      match turn? t with
      | some word => (Side.read word).map .turn
      | none =>
        if isScan t then .ok .scan
        else if isAttack t then .ok .attack
        else
          match call? t with
          | some name => .ok (.call (String.ofList name))
          | none => .ok .noop

/-- Reads a branch of a conditional, which is never a conditional itself. -/
def readBranch (t : List Char) : Except ReadError Stmt := readPlain (withoutTerminator t)

/-- Reads a statement other than a function block. -/
def readLine (t : List Char) : Except ReadError Stmt :=
  match conditional? t with
  | some (test, yes, some no) => do
    let yes ← readBranch yes
    let no ← readBranch no
    return .ifElse (.ofChars test) yes no
  | some (test, yes, none) => (readBranch yes).map (.ifThen (.ofChars test))
  | none => readPlain t

/-- A declaration inside a function declares nothing. -/
def Stmt.inFunction : Stmt → Stmt
  | .function .. => .noop
  | s => s

theorem withoutTerminator_sublist (token : List Char) :
    (withoutTerminator token).Sublist token := by
  rw [withoutTerminator]
  split
  · exact (trimEnd_sublist _).trans ((List.dropLast_sublist _).trans (trim_sublist token))
  · exact trim_sublist token

/-- Reads a statement text that is not blank. A block is read with the statement texts inside it, and
no more than `room` readings may stand inside one another; the outermost counts too. -/
def Stmt.read : (room : Nat) → (token : List Char) → Except ReadError Stmt
  | 0, _ => .error .tooDeep
  | room + 1, token =>
    match block? (withoutTerminator token) with
    | some (name, inner) => do
      let body ← (tokensOf inner).mapM (Stmt.read room)
      return .function (String.ofList name) (body.map Stmt.inFunction)
    | none => readLine (withoutTerminator token)

/-- Reads one statement; a blank text holds none. -/
def Stmt.parse (room : Nat) (token : String) : Except ReadError (Option Stmt) :=
  if trim token.toList = [] then .ok none else (Stmt.read room token.toList).map some

end TankArena.Script
