import TankArena.Text.Letter
import TankArena.Text.Lines
import TankArena.Text.Search
import TankArena.Script.Token

/-! The written forms of statements. Each form takes a text without blanks at its ends and gives its
variable parts, or nothing if the text has another form. -/

namespace TankArena.Script

open Text

/-- What follows a keyword and at least one blank. -/
def afterWord? (keyword : String) (t : List Char) : Option (List Char) :=
  match afterKeyword? keyword.toList t with
  | some (c :: r) => if isBlank c then some (trimStart r) else none
  | _ => none

def isLooseNameChar (c : Char) : Bool := isNameChar (capital c)

/-- The name in a function header: the word FUNCTION, a name and a colon. -/
def headerName? (line : List Char) : Option (List Char) :=
  (afterWord? "FUNCTION" line).bind fun r =>
    let name := r.takeWhile isLooseNameChar
    match trimStart (r.dropWhile isLooseNameChar) with
    | ':' :: r => if isLooseName name && r.all isBlank then some name else none
    | _ => none

/-- The name and the inner lines of a function block. Its last line has to close it. -/
def block? (t : List Char) : Option (List Char × List (List Char)) :=
  match lines t with
  | header :: second :: rest =>
    (headerName? (trim header)).bind fun name =>
      if closesBlock (trim ((second :: rest).getLast (by simp))) then
        some (name, (second :: rest).dropLast)
      else none
  | _ => none

/-- The test and the branches of a conditional. The test ends at the first THEN that can end it and
the first branch at the first ELSE that can end that. -/
def conditional? (t : List Char) : Option (List Char × List Char × Option (List Char)) :=
  (afterKeyword? "IF".toList t).bind <| blanks <| shortest fun test => blanks fun t =>
    (afterKeyword? "THEN".toList t).bind <| blanks <| shortest fun yes t =>
      (blanks (fun t => (afterKeyword? "ELSE".toList t).bind <| blanks <| longest fun no =>
        atEnd (test, yes, some no)) t).or (atEnd (test, yes, none) t)

/-- The name and the value of an assignment. -/
def assignment? (t : List Char) : Option (List Char × List Char) :=
  let name := t.takeWhile isNameChar
  match trimStart (t.dropWhile isNameChar) with
  | '=' :: r =>
    let value := trimStart r
    if isName name && value ≠ [] && !value.contains '\n' then some (name, value) else none
  | _ => none

def courseWords : List String := ["FORWARD", "BACKWARD", "LEFT", "RIGHT"]

def sideWords : List String := ["LEFT", "RIGHT"]

/-- A text that is one of some keywords. -/
def isOneOf (keywords : List String) (t : List Char) : Bool :=
  keywords.any fun k => isKeyword k.toList t

/-- The amount and the course word of a move. -/
def move? (t : List Char) : Option (List Char × List Char) :=
  (afterKeyword? "MOVE".toList t).bind <| blanks <| longest fun amount => blanks fun word =>
    if isOneOf courseWords word then some (amount, word) else none

/-- The side word of a turn. -/
def turn? (t : List Char) : Option (List Char) :=
  (afterWord? "TURN" t).filter (isOneOf sideWords)

def isScan (t : List Char) : Bool := isKeyword "SCAN_FOR_ENEMY".toList t

def isAttack (t : List Char) : Bool := isKeyword "ATTACK".toList t

/-- The name in a call. -/
def call? (t : List Char) : Option (List Char) :=
  (afterWord? "CALL" t).filter isLooseName

end TankArena.Script
