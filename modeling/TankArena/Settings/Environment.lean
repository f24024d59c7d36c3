import TankArena.Settings.Basic
import TankArena.Table
import TankArena.Text.Blank
import TankArena.Text.Digit

/-! Settings taken from environment variables. -/

namespace TankArena

open Text

/-- Environment variables and their texts. -/
abbrev Environment := Table String

/-- Why a variable cannot be set. -/
inductive EnvironmentError
  | nul
  | illegalName
  deriving DecidableEq, Repr

def EnvironmentError.message : EnvironmentError → String
  | .nul => "embedded null byte"
  | .illegalName => "illegal environment variable name"

namespace Environment

/-- The text of a variable without blanks at its ends; none if nothing is left. -/
def text? (env : Environment) (name : String) : Option (List Char) :=
  match trim ((env.get? name).getD "").toList with
  | [] => none
  | t => some t

/-- An integer setting; a blank or missing variable leaves the default. -/
def integer (env : Environment) (name : String) (default : Int) : Except SettingsError Int :=
  match env.text? name with
  | none => .ok default
  | some t =>
    match integer? t with
    | some n => .ok n
    | none => .error (.notInteger name (String.ofList t))

/-- The texts that switch a setting on, in any letter case. -/
def yesWords : List String := ["1", "true", "yes", "on"]

/-- A yes-or-no setting; a blank or missing variable leaves the default. -/
def flag (env : Environment) (name : String) (default : Bool) : Bool :=
  match env.text? name with
  | none => default
  | some t => yesWords.contains (String.ofList (t.map Char.toLower))

/-- The settings that the environment asks for. -/
def settings (env : Environment) : Except SettingsError Settings := do
  let defaults : Settings := {}
  let maxTicks ← env.integer "OMEGA_MAX_TICKS" defaults.maxTicks
  let stopWhenFinished := env.flag "OMEGA_STOP_WHEN_FINISHED" defaults.stopWhenFinished
  let tickMs ← env.integer "OMEGA_TICK_MS" defaults.tickMs
  let port ← env.integer "OMEGA_PORT" defaults.port
  Settings.checked { maxTicks, stopWhenFinished, tickMs, port }

/-- Sets a variable. Neither its name nor its text may hold a NUL, and the name no equals sign. -/
def set (env : Environment) (name text : String) : Except EnvironmentError Environment :=
  if name.toList.contains '\x00' || text.toList.contains '\x00' then .error .nul
  else if name.toList.contains '=' then .error .illegalName
  else .ok (env.insert name text)

/-- The environment that holds the given variables. -/
def ofVariables (pairs : List (String × String)) : Except EnvironmentError Environment :=
  pairs.foldlM (fun env b => env.set b.1 b.2) ∅

/-- Sets the variables that the environment does not have yet. The last binding of a name counts,
and one without a value sets nothing. -/
def load (env : Environment) (bindings : List (String × Option String)) :
    Except EnvironmentError Environment :=
  (Table.ofList bindings).entries.foldlM
    (fun e b => match b.2 with
      | some value => if env.contains b.1 then .ok e else e.set b.1 value
      | none => .ok e)
    env

end Environment

end TankArena
