import TankArena.Host.Composition
import TankArena.Host.Direction
import TankArena.Host.FoldedForm
import TankArena.Host.Punycode
import TankArena.Text.Quoted

/-! Names of hosts: labels with dots between them. A label with letters beyond ASCII is folded and
written in ASCII behind a mark. -/

namespace TankArena.Host.HostName

open Text

/-- Why a name is refused. -/
inductive Error
  /-- A label has no characters or too many. -/
  | size
  /-- The last label has too many characters. -/
  | lastSize
  | character (c : Nat)
  /-- Characters of both directions stand in one label. -/
  | mixedDirections
  /-- A label of right-to-left characters has others at an end. -/
  | looseEnds
  /-- A label looks like a written one and is none. -/
  | falseMark
  | punycode (error : Punycode.Error)
  /-- A written label and what its letters are written as. -/
  | otherWriting (label other : List Char)
  deriving DecidableEq, Repr

/-- A code point in quotes; half a surrogate pair stands as a number. -/
def quotedCode (c : Nat) : String :=
  if 0xD800 ≤ c && c ≤ 0xDFFF then "'\\u" ++ String.ofList (hex 4 c) ++ "'"
  else quoted (String.singleton (Char.ofNat c))

def punycodeMessage : Punycode.Error → String
  | .incomplete => "incomplete punicode string"
  | .digit c => "Invalid extended code point '" ++ String.singleton c.toUpper ++ "'"
  | .codePoint n => "Invalid character U+" ++ String.ofList (Nat.toDigits 16 n)

def Error.message : Error → String
  | .size => "label empty or too long"
  | .lastSize => "label too long"
  | .character c => "Invalid character " ++ quotedCode c
  | .mixedDirections => "Violation of BIDI requirement 2"
  | .looseEnds => "Violation of BIDI requirement 3"
  | .falseMark => "Label starts with ACE prefix"
  | .punycode e =>
    "decoding with 'punycode' codec failed (UnicodeError: " ++ punycodeMessage e ++ ")"
  | .otherWriting label other =>
    "('IDNA does not round-trip', b" ++ quoted (String.ofList label) ++ ", b" ++
      quoted (String.ofList other) ++ ")"

/-- Characters that stand in no name: controls, separators, private and unassigned ones, and those
that cannot be told from others. -/
def prohibited : List CodeRun := CodeRun.table
  ["80-A0 340-341 6DD 70F 1680 180E 2000-200F 2028-202F 205F-2063 206A-206F 2FF0-2FFB 3000",
   "D800-F8FF FDD0-FDEF FEFF FFF9-FFFF 1D173-1D17A 1FFFE-1FFFF 2FFFE-2FFFF 3FFFE-3FFFF",
   "4FFFE-4FFFF 5FFFE-5FFFF 6FFFE-6FFFF 7FFFE-7FFFF 8FFFE-8FFFF 9FFFE-9FFFF AFFFE-AFFFF",
   "BFFFE-BFFFF CFFFE-CFFFF DFFFE-DFFFF E0001 E0020-E007F EFFFE-10FFFF"]

/-- The labels of a name that is sent start with this mark if they are not ASCII. -/
def mark : List Char := ['x', 'n', '-', '-']

def isAscii (t : List Nat) : Bool := t.all (· < 128)

/-- A label of at most 63 characters that is not empty. -/
def sized (label : List Char) : Except Error (List Char) :=
  if 0 < label.length && label.length < 64 then .ok label else .error .size

/-- A label whose directions go together. -/
def directed (label : List Nat) : Except Error (List Nat) :=
  if !label.any isRightToLeft then .ok label
  else if label.any isLeftToRight then .error .mixedDirections
  else if label.head?.any isRightToLeft && label.getLast?.any isRightToLeft then .ok label
  else .error .looseEnds

/-- Folds a label and joins its marks. -/
def fold (label : List Nat) : Except Error (List Nat) :=
  let folded := joinMarks (orderMarks (label.flatMap foldedForm))
  match folded.find? fun c => prohibited.any (·.contains c) with
  | some c => .error (.character c)
  | none => directed folded

/-- Writes a label in ASCII. -/
def encodeLabel (label : List Nat) : Except Error (List Char) :=
  if isAscii label then sized (label.map Char.ofNat)
  else do
    let label ← fold label
    if isAscii label then sized (label.map Char.ofNat)
    else if (mark.map Char.toNat).isPrefixOf label then throw .falseMark
    else sized (mark ++ Punycode.encode label)

/-- Reads a label in ASCII. It is the one way to write its letters. -/
def decodeLabel (label : List Char) : Except Error (List Char) :=
  if mark.isPrefixOf label then do
    let codes ← (Punycode.decode (label.drop mark.length)).mapError .punycode
    let other ← encodeLabel codes
    if label.map Char.toLower = other then return codes.map Char.ofNat
    else throw (.otherWriting label other)
  else .ok label

/-- Dots of different scripts divide labels. -/
def isDot (c : Char) : Bool := c == '.' || c == '\u3002' || c == '\uFF0E' || c == '\uFF61'

/-- An ASCII name stands as it is; only its last label may be empty. -/
def encodeAscii (name : List Char) : Except Error (List Char) :=
  let labels := name.splitOn '.'
  if labels.dropLast.any fun l => l = [] || 63 < l.length then .error .size
  else if labels.getLast?.any (63 < ·.length) then .error .lastSize
  else .ok name

/-- Labels without the empty one behind a last dot, and that dot. -/
def splitLastDot (labels : List (List Char)) : List (List Char) × List Char :=
  if labels.getLast? = some [] then (labels.dropLast, ['.']) else (labels, [])

/-- Writes a name in ASCII. -/
def encode (name : List Char) : Except Error (List Char) :=
  if name.all (·.toNat < 128) then encodeAscii name
  else do
    let (labels, lastDot) := splitLastDot (name.splitOnP isDot)
    let labels ← labels.mapM fun l => encodeLabel (l.map Char.toNat)
    return ['.'].intercalate labels ++ lastDot

/-- Reads a name in ASCII. -/
def decode (name : List Char) : Except Error (List Char) := do
  let labels ← (name.splitOn '.').mapM decodeLabel
  return ['.'].intercalate labels

end TankArena.Host.HostName
