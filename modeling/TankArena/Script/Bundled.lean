import TankArena.Table

/-! The programs that come with the arena. -/

namespace TankArena.Script

/-- A source text of whole lines. -/
def script (ls : List String) : String := String.join (ls.map (· ++ "\n"))

def sampleSource : String :=
  script
    ["// Omega sample",
     "MOVEMENT = 2;",
     "SCAN_FOR_ENEMY;",
     "IF $ENEMY THEN ATTACK ELSE MOVE $MOVEMENT FORWARD;",
     "",
     "FUNCTION Patrol:",
     "  MOVE 1 LEFT;",
     "  MOVE 1 RIGHT;",
     "END;",
     "",
     "CALL Patrol;"]

def hunterSource : String :=
  script
    ["// Hunter: sweep the turret until the opponent lines up, then fire",
     "FUNCTION Strike:",
     "  ATTACK;",
     "  SCAN_FOR_ENEMY;",
     "END",
     "",
     "FUNCTION Seek:",
     "  TURN RIGHT;",
     "  SCAN_FOR_ENEMY;",
     "END",
     "",
     "SCAN_FOR_ENEMY;",
     "IF $ENEMY THEN CALL Strike ELSE CALL Seek;"]

def patrolSource : String :=
  script
    ["// Patrol: strafe back and forth along the bottom edge",
     "STEP = 3;",
     "FUNCTION Patrol:",
     "  MOVE $STEP RIGHT;",
     "  SCAN_FOR_ENEMY;",
     "  MOVE $STEP LEFT;",
     "  SCAN_FOR_ENEMY;",
     "END",
     "CALL Patrol; CALL Patrol; CALL Patrol;"]

def sentrySource : String :=
  script
    ["// Sentry: hold position and shoot whatever walks into the column",
     "SCAN_FOR_ENEMY;",
     "IF $ENEMY THEN CALL Fire;",
     "FUNCTION Fire:",
     "  ATTACK;",
     "  SCAN_FOR_ENEMY;",
     "END"]

/-- The bundled programs by name, in the order in which they are listed. -/
def bundled : Table String :=
  .ofList [("sample", sampleSource), ("hunter", hunterSource), ("patrol", patrolSource),
    ("sentry", sentrySource)]

end TankArena.Script
