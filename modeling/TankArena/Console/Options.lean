import TankArena.Script.Bundled
import TankArena.Text.Blank
import TankArena.Text.Digit
import TankArena.Text.Quoted

/-! Reading the words of a command line. Options may be shortened to an unambiguous beginning, a
value may follow an equals sign, and of two equal options the last counts. -/

namespace TankArena.Console

open Script Text

inductive OptionKey
  | help | demo | program | file | gauntlet | maxTicks | untilFinished | trace | plot | list
  deriving DecidableEq, Repr

/-- All spellings of options, in the order in which they are declared. -/
def spellings : List (String × OptionKey) :=
  [("-h", .help), ("--help", .help), ("--demo", .demo), ("--program", .program), ("--file", .file),
   ("--gauntlet", .gauntlet), ("--max-ticks", .maxTicks), ("--until-finished", .untilFinished),
   ("--trace", .trace), ("--plot", .plot), ("--list", .list)]

namespace OptionKey

/-- The name of an option in messages. -/
def name (k : OptionKey) : String :=
  "/".intercalate ((spellings.filter (·.2 = k)).map Prod.fst)

def takesValue : OptionKey → Bool
  | .program | .file | .gauntlet | .maxTicks | .plot => true
  | _ => false

def ofSpelling? (s : String) : Option OptionKey := spellings.lookup s

end OptionKey

/-- The tick limit that was asked for. -/
inductive TickLimit
  | default
  | ticks (n : Int)
  /-- The option was given with two dashes, which stand for no value. -/
  | blank
  deriving DecidableEq, Repr

/-- What was asked for. -/
structure Options where
  demo : Bool := false
  program : Option String := none
  file : Option String := none
  gauntlet : Option String := none
  maxTicks : TickLimit := .default
  untilFinished : Bool := false
  trace : Bool := false
  plot : Option String := none
  list : Bool := false
  deriving DecidableEq, Repr

inductive UsageError
  | ambiguous (word : String) (candidates : List String)
  | ignoredValue (option : OptionKey) (value : String)
  | missingValue (option : OptionKey)
  | notInteger (option : OptionKey) (value : String)
  | notAChoice (option : OptionKey) (value : String)
  | unrecognized (words : List String)
  deriving DecidableEq, Repr

/-- The names of the bundled programs in the order of their characters. -/
def choices : List String := bundled.keys.mergeSort fun a b => a ≤ b

def UsageError.message : UsageError → String
  | .ambiguous word candidates =>
    "ambiguous option: " ++ word ++ " could match " ++ ", ".intercalate candidates
  | .ignoredValue option value =>
    "argument " ++ option.name ++ ": ignored explicit argument " ++ quoted value
  | .missingValue option => "argument " ++ option.name ++ ": expected one argument"
  | .notInteger option value =>
    "argument " ++ option.name ++ ": invalid int value: " ++ quoted value
  | .notAChoice option value =>
    "argument " ++ option.name ++ ": invalid choice: " ++ quoted value ++ " (choose from " ++
      ", ".intercalate (choices.map quoted) ++ ")"
  | .unrecognized words => "unrecognized arguments: " ++ " ".intercalate words

/-- What a word of the command line is. -/
inductive Word
  | value
  | terminator
  | unknown
  /-- An option, and the value that stands in one word with it. -/
  | option (key : OptionKey) (spelling : String) (value : Option String)
  deriving DecidableEq, Repr

/-- The part of a word before its first equals sign, and the part after it if there is one. -/
def splitEquals (t : List Char) : List Char × Option (List Char) :=
  match t.dropWhile (· ≠ '=') with
  | [] => (t, none)
  | _ :: value => (t.takeWhile (· ≠ '='), some value)

def allDigits (t : List Char) : Bool := t.all fun c => (digit? c).isSome

/-- A text without the end of line that it may end in. -/
def dropLineEnd (t : List Char) : List Char :=
  if t.getLast? = some '\n' then t.dropLast else t

/-- A negative number, with or without decimals. It is a value and not an option. One end of line
may stand after it. -/
def isNegativeNumber : List Char → Bool
  | '-' :: t =>
    let t := dropLineEnd t
    match t.dropWhile (· ≠ '.') with
    | [] => t ≠ [] && allDigits t
    | _ :: decimals =>
      allDigits (t.takeWhile (· ≠ '.')) && decimals ≠ [] && allDigits decimals
  | _ => false

/-- The options that a word may stand for: a beginning of a long option, or a short option with
more characters after it. -/
def candidates (word : List Char) : List (String × OptionKey × Option String) :=
  match word with
  | '-' :: '-' :: _ =>
    let (start, value) := splitEquals word
    (spellings.filter fun (s, _) => start.isPrefixOf s.toList).map fun (s, k) =>
      (s, k, value.map String.ofList)
  | c :: d :: value =>
    (spellings.filter fun (s, _) => s.toList = [c, d]).map fun (s, k) =>
      (s, k, some (String.ofList value))
  | _ => []

/-- A word with the value after its equals sign, if an option stands before that. -/
def withValue? (word : List Char) : Option Word :=
  match splitEquals word with
  | (start, some value) =>
    (OptionKey.ofSpelling? (String.ofList start)).map fun k =>
      .option k (String.ofList start) (some (String.ofList value))
  | _ => none

/-- Tells what a word is. -/
def classify (s : String) : Except UsageError Word :=
  match s.toList with
  | '-' :: rest =>
    match OptionKey.ofSpelling? s with
    | some k => .ok (.option k s none)
    | none =>
      if rest = [] then .ok .value
      else
        match withValue? s.toList with
        | some w => .ok w
        | none =>
          match candidates s.toList with
          | [(spelling, k, value)] => .ok (.option k spelling value)
          | [] =>
            if isNegativeNumber s.toList || s.toList.contains ' ' then .ok .value else .ok .unknown
          | cs => .error (.ambiguous s (cs.map Prod.fst))
  | _ => .ok .value

/-- Tells what each word is. After two dashes all words are values. -/
def classifyAll : List String → Except UsageError (List (String × Word))
  | [] => .ok []
  | "--" :: words => .ok (("--", .terminator) :: words.map (·, .value))
  | w :: words => do
    let kind ← classify w
    return (w, kind) :: (← classifyAll words)

/-- Why reading stops early: help is asked for, or the words make no sense. -/
inductive Stop
  | help
  | usage (error : UsageError)
  deriving DecidableEq, Repr

/-- Takes back what an option was given before. -/
def Options.clear (o : Options) : OptionKey → Options
  | .program => { o with program := none }
  | .file => { o with file := none }
  | .gauntlet => { o with gauntlet := none }
  | .maxTicks => { o with maxTicks := .blank }
  | .plot => { o with plot := none }
  | _ => o

/-- Sets an option with its value. -/
def Options.set (o : Options) (key : OptionKey) (value : String) : Except UsageError Options :=
  match key with
  | .program =>
    if choices.contains value then .ok { o with program := some value }
    else .error (.notAChoice key value)
  | .file => .ok { o with file := some value }
  | .gauntlet => .ok { o with gauntlet := some value }
  | .maxTicks =>
    match paddedInteger? value.toList with
    | some n => .ok { o with maxTicks := .ticks n }
    | none => .error (.notInteger key value)
  | .plot => .ok { o with plot := some value }
  | _ => .error (.ignoredValue key value)

/-- Switches an option on. -/
def Options.switch (o : Options) (key : OptionKey) : Except Stop Options :=
  match key with
  | .help => .error .help
  | .demo => .ok { o with demo := true }
  | .untilFinished => .ok { o with untilFinished := true }
  | .trace => .ok { o with trace := true }
  | .list => .ok { o with list := true }
  | _ => .error (.usage (.missingValue key))

/-- What a value in one word with a switch means. The letter of a short switch may be repeated; all
else is refused. -/
def Options.switchWith (o : Options) (key : OptionKey) (spelling value : String) :
    Except Stop Options :=
  match value.toList.dropWhile fun c => ['-', c] = spelling.toList with
  | [] => if value = "" then .error (.usage (.ignoredValue key value)) else o.switch key
  | rest => .error (.usage (.ignoredValue key (String.ofList rest)))

def usage {α : Type} : Except UsageError α → Except Stop α
  | .ok a => .ok a
  | .error e => .error (.usage e)

/-- Works through classified words and keeps those that nothing asked for. -/
def Options.collect (o : Options) : List (String × Word) → Except Stop (Options × List String)
  | [] => .ok (o, [])
  | (_, .option key _ none) :: words =>
    if key.takesValue then
      match words with
      | (value, .value) :: words => do (← usage (o.set key value)).collect words
      | _ => .error (.usage (.missingValue key))
    else do (← o.switch key).collect words
  | (_, .option key spelling (some value)) :: words => do
    if key.takesValue && value = "--" then (o.clear key).collect words
    else if key.takesValue then (← usage (o.set key value)).collect words
    else (← o.switchWith key spelling value).collect words
  | (w, _) :: words => (o.collect words).map fun (o, extra) => (o, w :: extra)

/-- Reads a command line. -/
def Options.read (words : List String) : Except Stop Options := do
  let words ← usage (classifyAll words)
  match ← ({} : Options).collect words with
  | (o, []) => .ok o
  | (_, extra) => .error (.usage (.unrecognized extra))

end TankArena.Console
