import TankArena.Table
import TankArena.Text.Path

/-! The files under a working directory. -/

namespace TankArena

open Text

inductive DiskEntry
  | file (bytes : List UInt8)
  | directory
  deriving DecidableEq

/-- Files and directories by their path from the working directory, names joined by slashes. A path
that starts with a slash is one from the root. -/
structure Disk where
  entries : Table DiskEntry := ∅

/-- Why a file or directory cannot be opened or made; the path is the one that was asked for. -/
inductive DiskError
  | notFound (path : String)
  | exists (path : String)
  | notDirectory (path : String)
  | isDirectory (path : String)
  | nameTooLong (path : String)
  /-- A path holds a NUL. -/
  | nul
  deriving DecidableEq, Repr

def DiskError.message : DiskError → String
  | .notFound path => "[Errno 2] No such file or directory: " ++ quoted path
  | .exists path => "[Errno 17] File exists: " ++ quoted path
  | .notDirectory path => "[Errno 20] Not a directory: " ++ quoted path
  | .isDirectory path => "[Errno 21] Is a directory: " ++ quoted path
  | .nameTooLong path => "[Errno 36] File name too long: " ++ quoted path
  | .nul => "embedded null byte"

namespace Disk

/-- The names along a path. -/
def pathNames (path : String) : List String := (path.toList.splitOn '/').map String.ofList

def location (names : List String) : String := "/".intercalate names

/-- The place where a path starts: the root, or the working directory. -/
def start (path : String) : List String := if path.startsWith "/" then [""] else []

/-- The root, the working directory and the directories above it. They always exist. -/
def isOpen (place : List String) : Bool := place = [""] || place.all (· = "..")

/-- The place above a place. -/
def above (place : List String) : List String :=
  if place = [""] then place else if isOpen place then place ++ [".."] else place.dropLast

/-- The place that a name leads to. -/
def descend (place : List String) (name : String) : List String :=
  if name = "" || name = "." then place
  else if name = ".." then above place
  else place ++ [name]

def entry? (d : Disk) (place : List String) : Option DiskEntry :=
  if isOpen place then some .directory else d.entries.get? (location place)

/-- The most bytes that a path may have. -/
def maxPathBytes : Nat := 4095

/-- The most bytes that a name may have. -/
def maxNameBytes : Nat := 255

/-- Follows names from a place; each place that is left has to be a directory. -/
def follow (d : Disk) (path : String) (here : List String) :
    List String → Except DiskError (List String)
  | [] => .ok here
  | name :: names =>
    match d.entry? here with
    | none => .error (.notFound path)
    | some (.file _) => .error (.notDirectory path)
    | some .directory =>
      if maxNameBytes < name.utf8ByteSize then .error (.nameTooLong path)
      else d.follow path (descend here name) names

/-- The place that a path leads to. -/
def locate (d : Disk) (path : String) : Except DiskError (List String) :=
  if path.toList.contains '\x00' then .error .nul
  else if maxPathBytes < path.utf8ByteSize then .error (.nameTooLong path)
  else d.follow path (start path) (pathNames path)

/-- Whether a path leads to a directory. -/
def isDirectory (d : Disk) (path : String) : Except DiskError Bool :=
  match d.locate path with
  | .ok place => .ok (d.entry? place = some .directory)
  | .error (.nameTooLong path) => .error (.nameTooLong path)
  | .error _ => .ok false

def read (d : Disk) (path : String) : Except DiskError (List UInt8) := do
  match d.entry? (← d.locate path) with
  | some (.file bytes) => .ok bytes
  | some .directory => .error (.isDirectory path)
  | none => .error (.notFound path)

/-- Writes a file in a directory that exists. -/
def write (d : Disk) (path : String) (bytes : List UInt8) : Except DiskError Disk := do
  let place ← d.locate path
  match d.entry? place with
  | some .directory => .error (.isDirectory path)
  | _ => .ok { d with entries := d.entries.insert (location place) (.file bytes) }

/-- Makes one directory in a directory that exists. -/
def makeDirectory (d : Disk) (path : String) : Except DiskError Disk := do
  let place ← d.locate path
  match d.entry? place with
  | some _ => .error (.exists path)
  | none => .ok { d with entries := d.entries.insert (location place) .directory }

/-- Makes one directory, unless it is there already. -/
def ensureDirectory (d : Disk) (path : String) : Except DiskError Disk :=
  match d.makeDirectory path with
  | .ok made => .ok made
  | .error e =>
    match d.isDirectory path with
    | .ok true => .ok d
    | _ => .error e

/-- Makes a directory, and those on the way to it where they are missing. The names of its path are
given from the last to the first. -/
def ensureAlong (d : Disk) (root : List Char) (names : List (List Char)) : Except DiskError Disk :=
  let path := ({ root, parts := names.reverse } : Text.Path).text
  match d.ensureDirectory path, names with
  | .error (.notFound _), _ :: before => do (← d.ensureAlong root before).ensureDirectory path
  | made, _ => made

def ensureDirectories (d : Disk) (path : Text.Path) : Except DiskError Disk :=
  d.ensureAlong path.root path.parts.reverse

/-- Puts an entry in place, with the directories above it. -/
def put (d : Disk) (path : String) (entry : DiskEntry) : Disk :=
  let place := (pathNames path).foldl descend (start path)
  if isOpen place then d
  else
    let above := (List.range place.length).drop 1 |>.map place.take
    let d := above.foldl (fun d place =>
      if (d.entry? place).isSome then d
      else { d with entries := d.entries.insert (location place) .directory }) d
    { d with entries := d.entries.insert (location place) entry }

/-- The names of what stands directly in a directory, in the order of their characters; none if
the path leads to no directory. -/
def children (d : Disk) (path : String) : List String :=
  match d.locate path with
  | .error _ => []
  | .ok place =>
    match d.entry? place with
    | some .directory =>
      let names := d.entries.keys.filterMap fun k =>
        let names := pathNames k
        if names.dropLast = place then names.getLast? else none
      names.mergeSort fun a b => a ≤ b
    | _ => []

/-- The paths of all files, in the order of their characters. -/
def files (d : Disk) : List String :=
  (d.entries.entries.filterMap fun (k, e) => match e with
    | .file _ => some k
    | .directory => none).mergeSort fun a b => a ≤ b

/-- The files that were not there before. -/
def addedFiles (before after : Disk) : List String :=
  after.files.filter fun f => !before.files.contains f

/-- The files under the working directory that were not there before. -/
def newFiles (before after : Disk) : List String :=
  (addedFiles before after).filter fun f => !f.startsWith "/" && !f.startsWith "../"

end Disk

end TankArena
