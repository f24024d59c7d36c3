import TankArena.Settings.Environment
import TankArena.Text.Lines
import TankArena.Text.Quoted

/-! Files of variable bindings: one binding a line, comments after a number sign, quoted values that
may span lines, and references to other variables in values. -/

namespace TankArena.Host.EnvFile

open Text

/-- A blank inside a line. -/
def isInlineBlank (c : Char) : Bool := isBlank c && c != '\n' && c != '\r'

def isLineEnd (c : Char) : Bool := c == '\n' || c == '\r'

def skipInline (t : List Char) : List Char := t.dropWhile isInlineBlank

/-- Skips the word export in front of a name. -/
def skipExport (t : List Char) : List Char :=
  match t with
  | 'e' :: 'x' :: 'p' :: 'o' :: 'r' :: 't' :: c :: r =>
    if isInlineBlank c then skipInline r else t
  | _ => t

def isKeyChar (c : Char) : Bool := c != '=' && c != '#' && !isBlank c

/-- The name of a binding. A line that starts with a comment has none. A reader that fails tells
the place at which it did. -/
def key (t : List Char) : Except (List Char) (Option (List Char) × List Char) :=
  match t with
  | '#' :: _ => .ok (none, t)
  | c :: r =>
    if c = apostrophe then
      match r.takeWhile (· ≠ apostrophe), r.dropWhile (· ≠ apostrophe) with
      | [], _ => .error t
      | _, [] => .error t
      | k, _ :: rest => .ok (some k, rest)
    else
      match t.takeWhile isKeyChar with
      | [] => .error t
      | k => .ok (some k, t.dropWhile isKeyChar)
  | [] => .error t

/-- The text up to the closing quote. A backslash and the character after it belong together, so an
escaped quote does not close. -/
def untilQuote (quote : Char) : List Char → Option (List Char × List Char)
  | [] => none
  | c :: r =>
    if c = quote then some ([], r)
    else if c = backslash then
      match r with
      | [] => none
      | d :: r => (untilQuote quote r).map fun (v, rest) => (c :: d :: v, rest)
    else (untilQuote quote r).map fun (v, rest) => (c :: v, rest)

/-- The character that an escape stands for, in double quotes. -/
def doubleEscape? (c : Char) : Option Char :=
  if c = backslash || c = apostrophe || c = doubleQuote then some c
  else if c = 'a' then some '\x07'
  else if c = 'b' then some '\x08'
  else if c = 'f' then some '\x0c'
  else if c = 'n' then some '\n'
  else if c = 'r' then some '\r'
  else if c = 't' then some '\t'
  else if c = 'v' then some '\x0b'
  else none

/-- The character that an escape stands for, in single quotes. -/
def singleEscape? (c : Char) : Option Char :=
  if c = backslash || c = apostrophe then some c else none

/-- Replaces the known escapes of a quoted value. -/
def unescape (escape? : Char → Option Char) : List Char → List Char
  | [] => []
  | [c] => [c]
  | c :: d :: r =>
    if c = backslash then
      match escape? d with
      | some e => e :: unescape escape? r
      | none => c :: unescape escape? (d :: r)
    else c :: unescape escape? (d :: r)

/-- A value up to a comment: a number sign after a blank. -/
def cutHash : List Char → List Char
  | c :: '#' :: r => if isBlank c then [] else c :: cutHash ('#' :: r)
  | c :: r => c :: cutHash r
  | [] => []

/-- The value of a binding, from what follows the equals sign. -/
def value (t : List Char) : Except (List Char) (List Char × List Char) :=
  let start := skipInline t
  let quotedValue (quote : Char) (escape? : Char → Option Char) (r : List Char) :=
    match untilQuote quote r with
    | some (v, rest) => .ok (unescape escape? v, rest)
    | none => .error start
  let plain := (trim (cutHash (t.takeWhile (!isLineEnd ·))), t.dropWhile (!isLineEnd ·))
  match start with
  | [] => .ok plain
  | c :: r =>
    if c = apostrophe then quotedValue apostrophe singleEscape? r
    else if c = doubleQuote then quotedValue doubleQuote doubleEscape? r
    else .ok plain

/-- Skips a comment. -/
def skipComment (t : List Char) : List Char :=
  match skipInline t with
  | '#' :: r => r.dropWhile (!isLineEnd ·)
  | _ => t

/-- Skips the end of a line. -/
def endOfLine (t : List Char) : Except (List Char) (List Char) :=
  match skipInline t with
  | [] => .ok []
  | '\r' :: '\n' :: r => .ok r
  | c :: r => if isLineEnd c then .ok r else .error t

/-- What a line holds: a name with or without a value, or no name. -/
structure Binding where
  name : Option String
  value : Option String := none

/-- Reads one binding; the text starts with something that is not blank. -/
def binding (t : List Char) : Except (List Char) (Binding × List Char) := do
  let (name, t) ← key (skipExport t)
  let (value, t) ← match skipInline t with
    | '=' :: r => (value r).map fun (v, t) => (some v, t)
    | t => .ok (none, t)
  let t ← endOfLine (skipComment t)
  return ({ name := name.map String.ofList, value := value.map String.ofList }, t)

/-- Drops what is left of a line that could not be read. -/
def skipLine (t : List Char) : List Char := (t.dropWhile (!isLineEnd ·)).drop 1

/-- The bindings of a text. A line that cannot be read is left out. -/
def bindingsIn (t : List Char) : List (String × Option String) :=
  match trimStart t with
  | [] => []
  | c :: r =>
    let (here, rest) : List (String × Option String) × List Char :=
      match binding (c :: r) with
      | .ok (b, rest) => ((b.name.map (·, b.value)).toList, rest)
      | .error rest => ([], skipLine rest)
    if rest.length < t.length then here ++ bindingsIn rest else here
termination_by t.length

/-- A text without the byte order mark that it may start with. -/
def dropMark : List Char → List Char
  | '\uFEFF' :: t => t
  | t => t

/-- The bindings of a file; a line may end in CR, LF or both. -/
def bindings (text : String) : List (String × Option String) :=
  bindingsIn (unifyLineEnds (dropMark text.toList))

/-- A reference to a variable, after its opening brace: its name, its default and the rest. -/
def referenceBody? (t : List Char) : Option (List Char × List Char × List Char) :=
  let name := t.takeWhile fun c => c != '\x7d' && c != ':'
  match t.dropWhile fun c => c != '\x7d' && c != ':' with
  | ':' :: '-' :: r =>
    match r.dropWhile (· ≠ '\x7d') with
    | _ :: rest => some (name, r.takeWhile (· ≠ '\x7d'), rest)
    | [] => none
  | c :: rest => if c = '\x7d' then some (name, [], rest) else none
  | [] => none

/-- A reference to a variable at the front of a text. -/
def reference? : List Char → Option (List Char × List Char × List Char)
  | '$' :: '\x7b' :: r => referenceBody? r
  | _ => none

theorem length_lt_of_referenceBody? {t name default rest : List Char}
    (h : referenceBody? t = some (name, default, rest)) : rest.length < t.length := by
  have hs := (List.dropWhile_suffix (l := t) fun c => c != '\x7d' && c != ':').length_le
  rw [referenceBody?.eq_def] at h
  split at h
  · next r ht =>
    have hr := (List.dropWhile_suffix (l := r) (· ≠ '\x7d')).length_le
    split at h
    · next hd =>
      obtain ⟨-, -, rfl⟩ : _ ∧ _ ∧ _ = rest := by simpa using h
      rw [ht] at hs
      rw [hd] at hr
      simp only [List.length_cons] at hs hr
      omega
    · cases h
  · next ht =>
    split at h
    · obtain ⟨-, -, rfl⟩ : _ ∧ _ ∧ _ = rest := by simpa using h
      rw [ht] at hs
      exact hs
    · cases h
  · cases h

theorem length_lt_of_reference? {t name default rest : List Char}
    (h : reference? t = some (name, default, rest)) : rest.length < t.length := by
  rw [reference?.eq_def] at h
  split at h
  · have := length_lt_of_referenceBody? h
    simp only [List.length_cons]
    omega
  · cases h

/-- Puts the values of variables in the place of references to them. -/
def expand (get? : String → Option String) (t : List Char) : List Char :=
  match t with
  | [] => []
  | c :: r =>
    match _h : reference? (c :: r) with
    | some (name, default, rest) =>
      ((get? (String.ofList name)).map String.toList).getD default ++ expand get? rest
    | none => c :: expand get? r
termination_by t.length
decreasing_by
  · exact length_lt_of_reference? _h
  · exact Nat.lt_succ_self r.length

/-- The bindings with their references replaced. A reference takes the value from the environment
first, else from an earlier binding. -/
def resolve (env : Environment) (bs : List (String × Option String)) :
    List (String × Option String) :=
  let step (done : Table (Option String)) (b : String × Option String) :=
    let get? (name : String) : Option String :=
      match env.get? name with
      | some v => some v
      | none => (done.get? name).map (·.getD "")
    done.insert b.1 (b.2.map fun v => String.ofList (expand get? v.toList))
  (bs.foldl step ∅).entries

end TankArena.Host.EnvFile
