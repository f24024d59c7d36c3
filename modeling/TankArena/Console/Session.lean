import TankArena.Chart.Health
import TankArena.Chart.Replay
import TankArena.Chart.Standings
import TankArena.Console.HealthPath
import TankArena.Console.Help
import TankArena.Console.Options
import TankArena.Settings.Environment
import TankArena.Text.Utf8

/-! What a command line does: the programs it plays, what it prints and what it saves. -/

namespace TankArena.Console

open Arena Chart Match Script Text

/-- What a command line works with: how much room there is for reading a script, what sets the texts
of figures, and which bindings the text of a settings file has in an environment. -/
structure Platform where
  room : (source : String) → Nat
  typesetter : Typesetter
  bindings : Environment → (text : String) → List (String × Option String)

def Platform.parse (platform : Platform) (source : String) : Except ReadError Program :=
  Program.parse (platform.room source) source

/-- A failure that ends everything. -/
inductive Crash
  | script (error : ReadError)
  | fault (fault : Machine.Fault)
  /-- A number of ticks is too large for a measure. -/
  | tooManyTicks
  | disk (error : DiskError)
  | encoding (error : Utf8Error)
  | environment (error : EnvironmentError)
  | noTickLimit
  deriving DecidableEq, Repr

def Crash.message : Crash → String
  | .script error => error.message
  | .fault e => e.message
  | .tooManyTicks => ChartError.tooLarge.message
  | .disk error => error.message
  | .encoding error => error.message
  | .environment error => error.message
  | .noTickLimit => "'<' not supported between instances of 'list' and 'int'"

inductive Ending
  | exit (code : Nat)
  | crash (cause : Crash)
  deriving DecidableEq, Repr

/-- All that a command line leaves behind. -/
structure Outcome where
  ending : Ending
  output : Output
  complaints : String := ""

/-- Why a text file cannot be read. -/
inductive FileError
  | disk (error : DiskError)
  | encoding (error : Utf8Error)
  deriving DecidableEq, Repr

def FileError.message : FileError → String
  | .disk error => error.message
  | .encoding error => error.message

/-- Reads a text file. -/
def readText (d : Disk) (path : String) : Except FileError String :=
  match d.read path with
  | .error e => .error (.disk e)
  | .ok bytes =>
    match Utf8.decode bytes with
    | .error e => .error (.encoding e)
    | .ok t => .ok (String.ofList (unifyLineEnds t))

def ruler : String := String.ofList (List.replicate 60 '=')

def resultText (name : String) (r : Result) : String :=
  textLines
    ["Program: " ++ name,
     "Winner: " ++ r.winnerName,
     "Ticks: " ++ decimal r.ticks,
     "  Player HP: " ++ decimal r.actorHealth,
     "  Enemy HP:  " ++ decimal r.opponentHealth,
     "  Statements executed: " ++ decimal r.statementsExecuted,
     "  Program finished: " ++ if r.programFinished then "yes" else "no"]

/-- The status line of a tick; a dot marks a tick in which the program did nothing. -/
def traceLine (r : Record) : String :=
  (if r.executed then " " else ".") ++ "[" ++ padLeft ' ' 4 (decimal r.tick) ++ "] " ++ r.message

def skipped (o : Output) (message : String) : Output :=
  o.printLine ("  (Skipped visualization: " ++ message ++ ")")

/-- Plays the sample program. -/
def demo (platform : Platform) (settings : Settings) (o : Output) : Output × Except Crash Unit :=
  let o := o.print (textLines
    ["", ruler, "OMEGA TANKS DEMO - Sample Program vs Enemy", ruler, ""])
  match platform.parse sampleSource with
  | .error e => (o, .error (.script e))
  | .ok program =>
    let o := o.print (textLines [program.text, ""])
    match runFrom settings true program .initial with
    | .error fault => (o, .error (.fault fault))
    | .ok result =>
      (o.print (resultText "sample" result ++ textLines
        ["", ruler, "Demo complete! To play your own program:",
         "  python run_match.py --file my_tank.omega --trace", ruler, ""]), .ok ())

/-- Saves the final board of a match and a health chart beside it. What fails is reported. -/
def plotMatch (typesetter : Typesetter) (name : String) (history : List Record) (path : String)
    (o : Output) : Output :=
  match history.getLast? with
  | none => o.printLine "  (Nothing to plot: no ticks were played)"
  | some last =>
    match o.draw (board typesetter last.world none) (some path) with
    | .error e => skipped o e.message
    | .ok o =>
      match healthPath path with
      | .error e => skipped o e.message
      | .ok health =>
        let curves := healthCurves typesetter (history.map .ofRecord) ("Health: " ++ name)
        match o.draw curves (some health) with
        | .error e => skipped o e.message
        | .ok o => o

/-- An option that was given and is not empty. -/
def given (o : Option String) : Option String := o.filter (· ≠ "")

/-- What is printed before a program plays. -/
def matchHeader (name : String) (settings : Settings) : String :=
  textLines ["", ruler, "Omega Match: " ++ name, "Max ticks: " ++ decimal settings.maxTicks, ruler,
    ""]

/-- Plays one program and reports the result. -/
def playOne (platform : Platform) (name source : String) (settings : Settings) (options : Options)
    (o : Output) : Output × Except Crash Unit :=
  let o := o.print (matchHeader name settings)
  match platform.parse source with
  | .error e => (o, .error (.script e))
  | .ok program =>
    match runFrom settings true program .initial with
    | .error fault => (o, .error (.fault fault))
    | .ok result =>
      let o := if options.trace then
          o.print (textLines (result.history.map traceLine ++ [""]))
        else o
      let o := o.print (resultText name result)
      match given options.plot with
      | some path => (plotMatch platform.typesetter name result.history path o, .ok ())
      | none => (o, .ok ())

def isProgramFile (name : String) : Bool := ".omega".toList.isSuffixOf name.toList

/-- Loads one program of a directory into a table. An unreadable file is reported and left out; a
script that cannot be read ends everything. -/
def loadProgram (platform : Platform) (directory : Path) (programs : Table Program) (o : Output)
    (name : String) : Output × Except ReadError (Table Program) :=
  let path := (directory.child name.toList).text
  match readText o.disk path with
  | .error e => (o.printLine ("Failed to load " ++ path ++ ": " ++ e.message), .ok programs)
  | .ok source =>
    match platform.parse source with
    | .error e => (o, .error e)
    | .ok program =>
      let stem := String.ofList (stem name.toList)
      (o.printLine ("Loaded: " ++ stem), .ok (programs.insert stem program))

/-- Loads programs one after the other. -/
def loadPrograms (platform : Platform) (directory : Path) (programs : Table Program) (o : Output) :
    List String → Output × Except ReadError (Table Program)
  | [] => (o, .ok programs)
  | name :: names =>
    match loadProgram platform directory programs o name with
    | (o, .ok programs) => loadPrograms platform directory programs o names
    | (o, .error e) => (o, .error e)

/-- A standing in its place. The number of ticks is printed as a measure. -/
def standingText (place : Nat) (name : String) (s : Standing) : String :=
  decimal place ++ ". " ++ name ++ ": " ++ decimal s.points ++ " pts (dealt " ++
    decimal s.damageDealt ++ ", taken " ++ decimal s.damageTaken ++ ", " ++
    (units s.ticks).wholeText ++ " ticks)"

/-- Prints standings from a place on. It ends where there were too many ticks for a measure. -/
def printStandings (o : Output) :
    (place : Nat) → List (String × Standing) → Output × Except Crash Unit
  | _, [] => (o, .ok ())
  | place, (name, s) :: rest =>
    if (units s.ticks).isFinite then
      printStandings (o.printLine (standingText place name s)) (place + 1) rest
    else (o, .error .tooManyTicks)

def plotStandings (typesetter : Typesetter) (ranking : List (String × Standing)) (path : String)
    (o : Output) : Output :=
  let chart := standings typesetter (ranking.map fun (n, s) => .ofStanding n s) standingsTitle
  match o.draw chart (some path) with
  | .error e => skipped o e.message
  | .ok o => o

/-- The names of the program files in a directory; none if the path leads to no directory. -/
def programFiles (d : Disk) (directory : Path) : Except DiskError (List String) := do
  if ← d.isDirectory directory.text then
    return (d.children directory.text).filter isProgramFile
  else return []

/-- What is printed before programs are ranked, and before their standings. -/
def rankingHeader (size : Nat) : String :=
  textLines ["", "Running gauntlet with " ++ decimal size ++ " programs..."]

def standingsHeader : String := textLines ["", ruler, "GAUNTLET RESULTS", ruler]

/-- Reports a ranking, with a chart if there is a path for it. -/
def reportRanking (typesetter : Typesetter) (ranking : List (String × Standing)) (options : Options)
    (o : Output) : Output × Except Crash Unit :=
  match printStandings (o.print standingsHeader) 1 ranking with
  | (o, .error cause) => (o, .error cause)
  | (o, .ok ()) =>
    let o := o.print (textLines [ruler, ""])
    match given options.plot with
    | some path => (plotStandings typesetter ranking path o, .ok ())
    | none => (o, .ok ())

/-- Ranks programs and reports their standings. -/
def rankPrograms (typesetter : Typesetter) (programs : Table Program) (settings : Settings)
    (options : Options) (o : Output) : Output × Except Crash Unit :=
  match rank settings programs with
  | .error .noPrograms => (o.printLine "No .omega programs found", .ok ())
  | .error (.fault fault) => (o.print (rankingHeader programs.size), .error (.fault fault))
  | .ok ranking =>
    reportRanking typesetter ranking options (o.print (rankingHeader programs.size))

/-- Ranks every program file in a directory. -/
def rankDirectory (platform : Platform) (directory : String) (settings : Settings)
    (options : Options) (o : Output) : Output × Except Crash Unit :=
  let path := Path.parse directory
  match programFiles o.disk path with
  | .error e => (o, .error (.disk e))
  | .ok names =>
    match loadPrograms platform path ∅ o names with
    | (o, .error e) => (o, .error (.script e))
    | (o, .ok programs) => rankPrograms platform.typesetter programs settings options o

/-- The bundled programs, each with its first line. -/
def listing : String :=
  textLines ("Bundled programs:" :: bundled.entries.map fun (name, source) =>
    "  " ++ padRight ' ' 10 name ++ " " ++
      String.ofList ((trim source.toList).takeWhile (· ≠ '\n')))

/-- Why there are no settings: they are refused, or the tick limit has no value. -/
inductive SettingsFailure
  | refused (error : SettingsError)
  | noTickLimit
  deriving DecidableEq, Repr

/-- Settings with the tick limit that was asked for. -/
def limited (settings : Settings) : TickLimit → Except SettingsFailure Settings
  | .default => .ok settings
  | .ticks maxTicks => (Settings.checked { settings with maxTicks }).mapError .refused
  | .blank => .error .noTickLimit

/-- The settings for a command line: those of the environment, with the tick limit and the stop
rule of the options. -/
def settingsFor (env : Environment) (options : Options) : Except SettingsFailure Settings := do
  let settings ← env.settings.mapError .refused
  let settings ← limited settings options.maxTicks
  return if options.untilFinished then { settings with stopWhenFinished := true } else settings

/-- Ends with success, or with what went wrong. -/
def ended : Output × Except Crash Unit → Outcome
  | (output, .ok ()) => { ending := .exit 0, output }
  | (output, .error cause) => { ending := .crash cause, output }

/-- Does what the options ask for. The first of these counts: list, demo, gauntlet, program,
file. -/
def perform (platform : Platform) (options : Options) (settings : Settings) (o : Output) : Outcome :=
  if options.list then { ending := .exit 0, output := o.print listing }
  else if options.demo then ended (demo platform settings o)
  else
    match given options.gauntlet, options.program, given options.file with
    | some directory, _, _ => ended (rankDirectory platform directory settings options o)
    | none, some name, _ =>
      ended (playOne platform name ((bundled.get? name).getD "") settings options o)
    | none, none, some file =>
      match readText o.disk file with
      | .error (.disk .nul) => { ending := .crash (.disk .nul), output := o }
      | .error e =>
        { ending := .exit 1
          output := o.printLine ("✗ Failed to read " ++ file ++ ": " ++ e.message) }
      | .ok source =>
        let name := String.ofList (stem (((Path.parse file).name?).getD []))
        ended (playOne platform name source settings options o)
    | none, none, none => { ending := .exit 0, output := o.print (helpText ++ quickStart) }

/-- The file with settings, looked for in the working directory. -/
def settingsFile : String := "config.env"

/-- The environment with the bindings of the settings file, if there is one. -/
def loadSettingsFile (platform : Platform) (env : Environment) (d : Disk) :
    Except Crash Environment :=
  match readText d settingsFile with
  | .error (.encoding e) => .error (.encoding e)
  | .error (.disk _) => .ok env
  | .ok text => (env.load (platform.bindings env text)).mapError .environment

/-- Runs a command line. -/
def runCommand (platform : Platform) (words : List String) (env : Environment) (d : Disk) :
    Outcome :=
  let o : Output := { disk := d }
  match loadSettingsFile platform env d with
  | .error cause => { ending := .crash cause, output := o }
  | .ok env =>
    match Options.read words with
    | .error .help => { ending := .exit 0, output := o.print helpText }
    | .error (.usage e) => { ending := .exit 2, output := o, complaints := refusal e.message }
    | .ok options =>
      match settingsFor env options with
      | .error (.refused e) =>
        { ending := .exit 2, output := o, complaints := refusal e.message }
      | .error .noTickLimit => { ending := .crash .noTickLimit, output := o }
      | .ok settings => perform platform options settings o

end TankArena.Console
