/-! Readers of formulas. A reader takes something from the front of a text and gives what is left,
or it tells why it cannot. -/

namespace TankArena.Host.Formula

/-- What is wrong with a formula. -/
inductive Flaw
  | unknownSymbol (name : List Char)
  | doubleSubscript
  | doubleSuperscript
  | missing (what : String)
  deriving DecidableEq, Repr

def Flaw.message : Flaw → String
  | .unknownSymbol name => "Unknown symbol: " ++ String.ofList name
  | .doubleSubscript => "Double subscript"
  | .doubleSuperscript => "Double superscript"
  | .missing what => "Expected " ++ what

/-- Why a text is not what a reader reads. Places are told by how many characters are left. -/
inductive Lack
  | other
  /-- A font stands before something that is not a group. -/
  | opening (left : Nat)
  /-- A group is not closed. -/
  | closing (left : Nat)
  deriving DecidableEq, Repr

/-- Why something that can be read cannot be set. -/
inductive Unset
  /-- It takes its size from what it holds, and it holds nothing. -/
  | unmeasured
  /-- Primes join what is raised beside them, and that is a single character. -/
  | primedCharacter
  /-- Primes join what is raised beside them, and that is a column. -/
  | primedColumn
  /-- A quotation is no line of a stack. -/
  | quotedLine
  /-- A stack that is not empty is no line of a stack. -/
  | nestedLine
  deriving DecidableEq, Repr

def Unset.message : Unset → String
  | .unmeasured => "max() arg is an empty sequence"
  | .primedCharacter => "'Char' object has no attribute 'children'"
  | .primedColumn => "'Vlist' object has no attribute 'kern'"
  | .quotedLine => "'str' object has no attribute 'get_kerning'"
  | .nestedLine => "'str' object is not callable"

/-- Why a reader fails. -/
inductive Failure
  /-- Another reading may be tried. -/
  | lack (why : Lack)
  /-- The formula is wrong whatever else is tried. A flaw in how a thing is built has no place of
  its own; a flaw is `committed` if it stands behind something that cannot be read otherwise. -/
  | flaw (what : Flaw) (left : Option Nat) (committed : Bool)
  | unset (why : Unset)
  deriving DecidableEq, Repr

/-- The failure of a whole whose own flaws are told as its lack. -/
def Failure.ofWhole (name : String) : Failure → Failure
  | .flaw _ left false => .flaw (.missing name) left false
  | failure => failure

abbrev Reader := List Char → Except Failure (List Char)

def isGap (c : Char) : Bool := c = ' ' || c = '\t' || c = '\n' || c = '\r'

/-- The text without the gap in front of it. -/
def skipGap (s : List Char) : List Char := s.dropWhile isGap

namespace Reader

/-- Reads nothing at all. -/
def nothing : Reader := fun _ => .error (.lack .other)

/-- Reads what is left of a text if it can be told. -/
def ofOption (rest? : List Char → Option (List Char)) : Reader := fun s =>
  match rest? s with
  | some rest => .ok rest
  | none => .error (.lack .other)

/-- Reads a mark, behind a gap if there is one. -/
def mark (m : String) : Reader := ofOption fun s =>
  if m.toList.isPrefixOf (skipGap s) then some ((skipGap s).drop m.length) else none

/-- Reads by the first reader that can. -/
def either (p q : Reader) : Reader := fun s =>
  match p s with
  | .error (.lack why) =>
    match q s with
    | .error (.lack why') => .error (.lack (if why = .other then why' else why))
    | result => result
  | result => result

def oneOf (ps : List Reader) : Reader := ps.foldr either nothing

/-- Reads one thing after the other. -/
def inOrder (ps : List Reader) : Reader := fun s => ps.foldlM (fun rest p => p rest) s

/-- Reads a thing or nothing. -/
def maybe (p : Reader) : Reader := either p .ok

/-- Reads things as long as there are any. -/
def many (p : Reader) (s : List Char) : Except Failure (List Char) :=
  match p s with
  | .ok rest => if rest.length < s.length then many p rest else .ok s
  | .error (.lack _) => .ok s
  | .error e => .error e
termination_by s.length

/-- Reads at least one thing. -/
def atLeastOne (p : Reader) : Reader := inOrder [p, many p]

/-- Reads a thing that cannot be missing. -/
def required (p : Reader) (missing : List Char → Lack → Failure) : Reader := fun s =>
  match p s with
  | .error (.lack why) => .error (missing s why)
  | .error (.flaw what left _) => .error (.flaw what left true)
  | result => result

/-- Reads a thing whose flaws are told as the lack of the whole. -/
def whole (name : String) (p : Reader) : Reader := fun s => (p s).mapError (.ofWhole name)

end Reader

/-- The place of a lack, and what is missing there if it is known. -/
def Lack.place (s : List Char) : Lack → Nat × Option String
  | .other => (s.length, none)
  | .opening left => (left, some "'\x7b'")
  | .closing left => (left, some "end_group")

end TankArena.Host.Formula
