import TankArena.Host.Platform

/-! The command-line program: it shows the working directory and the environment to a command line
and prints what that answers. -/

namespace TankArena.Console

/-- The variables that settings are taken from. -/
def settingNames : List String :=
  ["OMEGA_MAX_TICKS", "OMEGA_STOP_WHEN_FINISHED", "OMEGA_TICK_MS", "OMEGA_PORT"]

def readEnvironment : IO Environment :=
  settingNames.foldlM (fun env name => do
    match ← IO.getEnv name with
    | some value => return env.insert name value
    | none => return env) ∅

/-- The entry of the real disk that a path leads to. -/
def entryAt (path : String) : IO.FS.DirEntry := { root := ".", fileName := path }

/-- Shows a file or directory to a disk, if there is one. -/
def showEntry (d : Disk) (path : String) : IO Disk := do
  if ← (entryAt path).path.isDir then return d.put path .directory
  match ← (IO.FS.readBinFile (entryAt path).path).toBaseIO with
  | .ok bytes => return d.put path (.file bytes.toList)
  | .error _ => return d

/-- Shows all that stands along a path to a disk. -/
def showPath (d : Disk) (path : String) : IO Disk :=
  let names := Disk.pathNames path
  (List.range names.length).foldlM (fun d n =>
    showEntry d (Disk.location (names.take (n + 1)))) d

/-- Shows a directory to a disk with what stands directly in it. -/
def showDirectory (d : Disk) (path : String) : IO Disk := do
  let d ← showPath d path
  if ← (entryAt path).path.isDir then
    let children ← (entryAt path).path.readDir
    children.foldlM (fun d child => showEntry d (path ++ "/" ++ child.fileName)) d
  else return d

/-- The part of the disk that a command line can look at. -/
def readDisk (words : List String) : IO Disk := do
  let d ← showEntry {} settingsFile
  match Options.read words with
  | .error _ => return d
  | .ok options =>
    let d ← (given options.file).elim (pure d) (showPath d)
    let d ← (given options.gauntlet).elim (pure d) (showDirectory d)
    (given options.plot).elim (pure d) (showPath d)

/-- Makes the files that a command line saved. A saved picture is an empty file: figures are
described and not painted. -/
def saveNewFiles (before after : Disk) : IO Unit :=
  (before.addedFiles after).forM fun path => IO.FS.writeBinFile path .empty

end TankArena.Console

open TankArena Console in
def main (words : List String) : IO UInt32 := do
  let env ← readEnvironment
  let disk ← readDisk words
  let outcome := runCommand Host.platform words env disk
  IO.print outcome.output.printed
  IO.eprint outcome.complaints
  saveNewFiles disk outcome.output.disk
  match outcome.ending with
  | .exit code => return code.toUInt32
  | .crash cause =>
    IO.eprintln cause.message
    return 1
