import TankArena.Host.Formula.Grammar
import TankArena.Text.Digit
import TankArena.Text.Lines
import TankArena.Text.Ranges

/-! Formulas in texts. A line with an even number of dollar signs holds formulas between them, and
it is drawn only if each of them can be read. -/

namespace TankArena.Host.Formula

open Text

/-- What is told of a formula that cannot be read. -/
inductive Error
  /-- No formula is found at a dollar sign of a line. -/
  | unread (line : List Char) (place : Nat)
  /-- A formula has a flaw, which may have a place in it. -/
  | flawed (formula : List Char) (flaw : Flaw) (place : Option Nat) (committed : Bool)
  | unset (why : Unset)
  deriving DecidableEq, Repr

/-- The letters and digits that are told as words. -/
def wordRanges : List (Nat × Nat) :=
  [(0x30, 0x39), (0x41, 0x5A), (0x61, 0x7A), (0xAA, 0xAA), (0xB2, 0xB3), (0xB5, 0xB5),
   (0xB9, 0xBA), (0xC0, 0xD6), (0xD8, 0xF6), (0xF8, 0x24F), (0x370, 0x374), (0x376, 0x377),
   (0x37A, 0x37D), (0x37F, 0x37F), (0x386, 0x386), (0x388, 0x38A), (0x38C, 0x38C),
   (0x38E, 0x3A1), (0x3A3, 0x3E1), (0x3F0, 0x3F5), (0x3F7, 0x481), (0x48A, 0x52F),
   (0x1C80, 0x1C88), (0x1D26, 0x1D2B), (0x1D5E, 0x1D5E), (0x1D60, 0x1D60), (0x1D66, 0x1D6A),
   (0x1D78, 0x1D78), (0x1F00, 0x1F15), (0x1F18, 0x1F1D), (0x1F20, 0x1F45), (0x1F48, 0x1F4D),
   (0x1F50, 0x1F57), (0x1F59, 0x1F59), (0x1F5B, 0x1F5B), (0x1F5D, 0x1F5D), (0x1F5F, 0x1F7D),
   (0x1F80, 0x1FB4), (0x1FB6, 0x1FBC), (0x1FBE, 0x1FBE), (0x1FC2, 0x1FC4), (0x1FC6, 0x1FCC),
   (0x1FD0, 0x1FD3), (0x1FD6, 0x1FDB), (0x1FE0, 0x1FEC), (0x1FF2, 0x1FF4), (0x1FF6, 0x1FFC),
   (0xA640, 0xA66E), (0xA67F, 0xA69D), (0xAB65, 0xAB65)]

/-- What stands at a place: a word of at most 16 characters, or one character. -/
def found (s : List Char) : List Char :=
  match (s.take 16).takeWhile (inRanges wordRanges) with
  | [] => s.take 1
  | word => word

/-- Every pair of backslashes as one. -/
def singleBackslashes : List Char → List Char
  | '\x5c' :: '\x5c' :: s => backslash :: singleBackslashes s
  | c :: s => c :: singleBackslashes s
  | [] => []

/-- What is told to stand at a place. -/
def foundText (s : List Char) : String :=
  if s = [] then "end of text"
  else String.ofList (singleBackslashes (quoted (String.ofList (found s))).toList)

/-- A text, a pointer below the place in it, and what is wrong there. -/
def report (text : List Char) (place : Nat) (kind reason : String) : String :=
  "\n" ++ String.ofList text ++ "\n" ++ String.ofList (List.replicate place ' ') ++ "^\n" ++ kind ++
    ": " ++ reason ++ "  (at char " ++ decimal place ++ "), (line:1, col:" ++ decimal (place + 1) ++
    ")"

def Error.message : Error → String
  | .unread line place =>
    report line place "ParseException"
      ("Expected end of text, found " ++ foundText (line.drop place))
  | .flawed formula flaw place committed =>
    let kind := if committed then "ParseSyntaxException" else "ParseFatalException"
    match place with
    | some place =>
      report formula place kind (flaw.message ++ ", found " ++ foundText (formula.drop place))
    | none => report [] 0 kind flaw.message
  | .unset why => why.message

/-- The text with spaces for tabs, up to the next of the columns that stand eight apart. -/
def expandTabs (column : Nat) : List Char → List Char
  | [] => []
  | c :: s =>
    if c = '\t' then List.replicate (8 - column % 8) ' ' ++ expandTabs 0 s
    else if c = '\r' then c :: expandTabs 0 s
    else c :: expandTabs (column + 1) s

/-- Dollar signs, less those behind a backslash. -/
def dollars : List Char → Int
  | [] => 0
  | c :: s =>
    (if c = '$' then 1 else 0) - (if c = backslash ∧ s.head? = some '$' then 1 else 0) + dollars s

/-- Whether a line holds formulas. -/
def hasFormulas (line : List Char) : Bool := 0 < dollars line && dollars line % 2 = 0

/-- The text from its first dollar sign on; one behind a backslash is plain text. -/
def fromDollar : List Char → List Char
  | '\x5c' :: '$' :: s => fromDollar s
  | '$' :: s => '$' :: s
  | _ :: s => fromDollar s
  | [] => []

theorem length_fromDollar_le (s : List Char) : (fromDollar s).length ≤ s.length := by
  fun_induction fromDollar s <;> simp_all <;> omega

theorem length_lt_of_enclosed {closing : Char} {s t rest : List Char}
    (h : enclosed closing s = some (t, rest)) : rest.length < s.length := by
  fun_induction enclosed closing s generalizing t rest <;> simp_all <;> grind

/-- Reads the formulas in the last part of a line. -/
def checkFrom (line s : List Char) : Except Error Unit :=
  match hs : fromDollar s with
  | [] => .ok ()
  | _ :: behind =>
    let unread := .unread line (line.length - behind.length - 1)
    match h : enclosed '$' behind with
    | none => .error unread
    | some (formula, rest) =>
      match read formula with
      | .ok () =>
        have : rest.length < s.length := by
          have := length_fromDollar_le s
          have := length_lt_of_enclosed h
          simp_all
          omega
        checkFrom line rest
      | .error (.lack _) => .error unread
      | .error (.flaw flaw left committed) =>
        .error (.flawed formula flaw (left.map (formula.length - ·)) committed)
      | .error (.unset why) => .error (.unset why)
termination_by s.length

/-- Reads the formulas of a text, line by line. -/
def check (text : String) : Except Error Unit :=
  (lines text.toList).forM fun line =>
    if hasFormulas line then checkFrom (expandTabs 0 line) (expandTabs 0 line) else .ok ()

end TankArena.Host.Formula
