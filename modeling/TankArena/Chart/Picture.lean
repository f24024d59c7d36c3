import TankArena.Chart.Figure
import TankArena.Disk.Basic
import TankArena.Text.LowerCase

/-! Figures shown or saved, with what is printed along the way. -/

namespace TankArena.Chart

open Text

/-- The kinds of picture files that can be written. -/
def pictureFormats : List String :=
  ["avif", "eps", "gif", "jpeg", "jpg", "pdf", "pgf", "png", "ps", "raw", "rgba", "svg", "svgz",
   "tif", "tiff", "webp"]

/-- Why a picture is not drawn and saved. -/
inductive SaveError
  | chart (error : ChartError)
  | format (name : String)
  | disk (error : DiskError)
  deriving DecidableEq, Repr

def SaveError.message : SaveError → String
  | .chart error => error.message
  | .format name => "Format " ++ quoted name ++ " is not supported (supported formats: " ++
      ", ".intercalate pictureFormats ++ ")"
  | .disk error => error.message

/-- The ending of a file name after its last dot. Dots at the front of the name do not count. -/
def extension? (path : List Char) : Option (List Char) :=
  let name := (path.reverse.takeWhile (· ≠ '/')).reverse
  if (name.dropWhile (· = '.')).contains '.' then
    some (name.reverse.takeWhile (· ≠ '.')).reverse
  else none

/-- The file that a picture is written to. A path without an ending gets the default one. -/
def pictureFile (path : String) : Except SaveError String :=
  match extension? path.toList with
  | none | some [] =>
    .ok (String.ofList (path.toList.reverse.dropWhile (· = '.')).reverse ++ ".png")
  | some ending =>
    let format := String.ofList (lowerText ending)
    if pictureFormats.contains format then .ok path else .error (.format format)

/-- What drawing leaves behind: files, printed text and the finished figures. -/
structure Output where
  disk : Disk := {}
  printed : String := ""
  figures : List Figure := []

namespace Output

def print (o : Output) (text : String) : Output := { o with printed := o.printed ++ text }

def printLine (o : Output) (text : String) : Output := o.print (text ++ "\n")

/-- Finishes a figure: saves it to a path and says so, or only shows it if there is no path. -/
def finish (o : Output) (figure : Figure) (path : Option String) : Except SaveError Output :=
  let done := { o with figures := o.figures ++ [figure] }
  match path with
  | none | some "" => .ok done
  | some path => do
    let file ← pictureFile path
    match o.disk.write file [] with
    | .ok disk => return { done with disk }.printLine ("Saved to " ++ path)
    | .error e => .error (.disk e)

/-- Finishes a figure if it can be drawn. -/
def draw (o : Output) (figure : Except ChartError Figure) (path : Option String) :
    Except SaveError Output :=
  match figure with
  | .ok figure => o.finish figure path
  | .error e => .error (.chart e)

end Output

end TankArena.Chart
