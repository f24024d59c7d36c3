import TankArena.Script.Expr

/-! Statements and their written form. -/

namespace TankArena.Script

open Text

/-- Where a tank drives, seen from its own facing. Left and right strafe, they do not turn. -/
inductive Course
  | forward | backward | left | right
  deriving DecidableEq, Repr, Inhabited

inductive Side
  | left | right
  deriving DecidableEq, Repr, Inhabited

def Course.name : Course → String
  | .forward => "FORWARD"
  | .backward => "BACKWARD"
  | .left => "LEFT"
  | .right => "RIGHT"

def Side.name : Side → String
  | .left => "LEFT"
  | .right => "RIGHT"

def Course.ofName? (name : String) : Option Course :=
  [Course.forward, .backward, .left, .right].find? (·.name == name)

def Side.ofName? (name : String) : Option Side :=
  [Side.left, .right].find? (·.name == name)

/-- A statement. A declaration only stands in a program text: a program keeps its functions in a
table, and a machine that meets a declaration passes over it. -/
inductive Stmt
  | assign (name : String) (value : Expr)
  | move (amount : Expr) (course : Course)
  | turn (side : Side)
  | scan
  | attack
  | ifThen (test : Expr) (yes : Stmt)
  | ifElse (test : Expr) (yes no : Stmt)
  | call (name : String)
  | noop
  | function (name : String) (body : List Stmt)
  deriving Repr, Inhabited

mutual
def Stmt.same : Stmt → Stmt → Bool
  | .assign n v, .assign m w => n == m && v == w
  | .move a c, .move b d => a == b && c == d
  | .turn s, .turn t => s == t
  | .scan, .scan => true
  | .attack, .attack => true
  | .ifThen e s, .ifThen f t => e == f && s.same t
  | .ifElse e s u, .ifElse f t v => e == f && s.same t && u.same v
  | .call n, .call m => n == m
  | .noop, .noop => true
  | .function n b, .function m c => n == m && Stmt.sameBody b c
  | _, _ => false

def Stmt.sameBody : List Stmt → List Stmt → Bool
  | [], [] => true
  | s :: b, t :: c => s.same t && Stmt.sameBody b c
  | _, _ => false
end

mutual
theorem Stmt.same_iff : (s t : Stmt) → (s.same t = true ↔ s = t)
  | .assign .., t => by cases t <;> simp [Stmt.same]
  | .move .., t => by cases t <;> simp [Stmt.same]
  | .turn .., t => by cases t <;> simp [Stmt.same]
  | .scan, t => by cases t <;> simp [Stmt.same]
  | .attack, t => by cases t <;> simp [Stmt.same]
  | .ifThen _ s, t => by cases t <;> simp [Stmt.same, Stmt.same_iff s]
  | .ifElse _ s u, t => by
      cases t <;> simp [Stmt.same, Stmt.same_iff s, Stmt.same_iff u, and_assoc]
  | .call .., t => by cases t <;> simp [Stmt.same]
  | .noop, t => by cases t <;> simp [Stmt.same]
  | .function _ b, t => by cases t <;> simp [Stmt.same, Stmt.sameBody_iff b]

theorem Stmt.sameBody_iff : (b c : List Stmt) → (Stmt.sameBody b c = true ↔ b = c)
  | [], c => by cases c <;> simp [Stmt.sameBody]
  | s :: b, c => by cases c <;> simp [Stmt.sameBody, Stmt.same_iff s, Stmt.sameBody_iff b]
end

instance : DecidableEq Stmt := fun s t => decidable_of_iff _ (Stmt.same_iff s t)

/-- What closes a written statement: a semicolon, which a declaration does without. -/
def Stmt.terminator : Stmt → String
  | .function .. => ""
  | _ => ";"

mutual
/-- The written statement without its terminator. -/
def Stmt.bare : Stmt → String
  | .assign name value => name ++ " = " ++ value.text
  | .move amount course => "MOVE " ++ amount.text ++ " " ++ course.name
  | .turn side => "TURN " ++ side.name
  | .scan => "SCAN_FOR_ENEMY"
  | .attack => "ATTACK"
  | .ifThen test yes => "IF " ++ test.text ++ " THEN " ++ yes.bare
  | .ifElse test yes no => "IF " ++ test.text ++ " THEN " ++ yes.bare ++ " ELSE " ++ no.bare
  | .call name => "CALL " ++ name
  | .noop => ""
  | .function name body => "FUNCTION " ++ name ++ ":\n" ++ Stmt.bodyText body ++ "END"

/-- The statements of a function, each on an indented line. -/
def Stmt.bodyText : List Stmt → String
  | [] => ""
  | s :: body => "  " ++ s.bare ++ s.terminator ++ "\n" ++ Stmt.bodyText body
end

def Stmt.text (s : Stmt) : String := s.bare ++ s.terminator

end TankArena.Script
