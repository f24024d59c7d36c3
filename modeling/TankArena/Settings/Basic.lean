import TankArena.Text.Quoted

/-! Settings of matches and of the playground. -/

namespace TankArena

open Text

structure Settings where
  /-- Ticks before a match is a draw. -/
  maxTicks : Int := 300
  /-- A match ends when the program runs out of statements. -/
  stopWhenFinished : Bool := false
  /-- Milliseconds between two ticks of the playground. -/
  tickMs : Int := 380
  port : Int := 8080
  deriving DecidableEq, Repr, Inhabited

/-- Why settings are refused. -/
inductive SettingsError
  | maxTicks
  | tickMs
  | notInteger (name text : String)
  deriving DecidableEq, Repr

def SettingsError.message : SettingsError → String
  | .maxTicks => "max_ticks must be at least 1"
  | .tickMs => "tick_ms must be positive"
  | .notInteger name text => name ++ " must be an integer, got " ++ quoted text

/-- Settings with a positive tick limit and a positive period. -/
def Settings.checked (s : Settings) : Except SettingsError Settings :=
  if s.maxTicks < 1 then .error .maxTicks
  else if s.tickMs < 1 then .error .tickMs
  else .ok s

end TankArena
