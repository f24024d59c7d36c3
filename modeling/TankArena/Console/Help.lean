/-! The texts that explain the command line. -/

namespace TankArena.Console

def programName : String := "run_match.py"

/-- Lines, each with its end. -/
def textLines (ls : List String) : String := String.join (ls.map (· ++ "\n"))

def usageText : String :=
  textLines
    ["usage: run_match.py [-h] [--demo] [--program \x7bhunter,patrol,sample,sentry\x7d]",
     "                    [--file FILE] [--gauntlet GAUNTLET]",
     "                    [--max-ticks MAX_TICKS] [--until-finished] [--trace]",
     "                    [--plot PLOT] [--list]"]

def helpText : String :=
  usageText ++ textLines
    ["",
     "Omega Tanks - program a tank, beat the enemy",
     "",
     "options:",
     "  -h, --help            show this help message and exit",
     "  --demo                Play the bundled sample program",
     "  --program \x7bhunter,patrol,sample,sentry\x7d",
     "                        Play a bundled program",
     "  --file FILE           Play an Omega source file",
     "  --gauntlet GAUNTLET   Rank every .omega file in a directory",
     "  --max-ticks MAX_TICKS",
     "                        Ticks before the match is a draw (default:",
     "                        OMEGA_MAX_TICKS or 300)",
     "  --until-finished      Stop as soon as the program runs out of statements",
     "  --trace               Print the status line of every tick",
     "  --plot PLOT           Save the final board (and a health chart beside it) or",
     "                        the gauntlet chart to this path",
     "  --list                List bundled programs",
     "",
     "Examples:",
     "  python run_match.py --demo",
     "  python run_match.py --program hunter --trace",
     "  python run_match.py --file my_tank.omega --plot board.png",
     "  python run_match.py --gauntlet ./programs",
     "        "]

def quickStart : String := "\nQuick start: python run_match.py --demo\n"

/-- What is written when a command line is refused. -/
def refusal (message : String) : String :=
  usageText ++ programName ++ ": error: " ++ message ++ "\n"

end TankArena.Console
