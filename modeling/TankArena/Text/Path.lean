import TankArena.Text.Quoted

/-! File paths in normal form, and the parts of a file name. -/

namespace TankArena.Text

/-- A path: a root of no, one or two slashes, and the names along the way. -/
structure Path where
  root : List Char
  parts : List (List Char)
  deriving DecidableEq, Repr

namespace Path

/-- Exactly two leading slashes are kept; more count as one. -/
def rootOf : List Char → List Char
  | '/' :: '/' :: '/' :: _ => ['/']
  | '/' :: '/' :: _ => ['/', '/']
  | '/' :: _ => ['/']
  | _ => []

/-- Empty names and single dots are dropped. -/
def ofChars (t : List Char) : Path where
  root := rootOf t
  parts := (t.splitOn '/').filter fun p => p ≠ [] && p ≠ ['.']

def parse (s : String) : Path := ofChars s.toList

def toChars (p : Path) : List Char :=
  if p.root = [] && p.parts = [] then ['.'] else p.root ++ ['/'].intercalate p.parts

def text (p : Path) : String := String.ofList p.toChars

def name? (p : Path) : Option (List Char) := p.parts.getLast?

/-- The path of a file in a directory. -/
def child (p : Path) (name : List Char) : Path := { p with parts := p.parts ++ [name] }

/-- The path of a file in the same directory. -/
def sibling (p : Path) (name : List Char) : Path := { p with parts := p.parts.dropLast ++ [name] }

end Path

/-- A file name cut before its last dot, unless that is its first or last character. -/
def splitSuffix (name : List Char) : List Char × List Char :=
  let suffix := (name.reverse.takeWhile (· ≠ '.')).reverse
  match (name.reverse.dropWhile (· ≠ '.')).drop 1 with
  | [] => (name, [])
  | stem => if suffix = [] then (name, []) else (stem.reverse, '.' :: suffix)

def stem (name : List Char) : List Char := (splitSuffix name).1

def suffix (name : List Char) : List Char := (splitSuffix name).2

end TankArena.Text
