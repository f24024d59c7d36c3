import TankArena.Text.Digit
import TankArena.Text.Quoted
import TankArena.Text.Symbol

/-! JSON texts and bytes. Numbers keep their text. -/

namespace TankArena.Text

inductive Json
  | null
  | bool (value : Bool)
  | number (text : List Char)
  | string (value : List Symbol)
  | array (items : List Json)
  | object (fields : List (String × Json))
  deriving Inhabited

/-- Why a text is not read. -/
inductive JsonError
  | malformed
  | tooDeep
  deriving DecidableEq, Repr

namespace Json

/-- The value of a field; the last of several counts. -/
def field? (fields : List (String × Json)) (name : String) : Option Json :=
  fields.reverse.lookup name

def isSpace (s : Symbol) : Bool :=
  s.char?.any fun c => c == ' ' || c == '\t' || c == '\n' || c == '\r'

def skipSpaces (t : List Symbol) : List Symbol := t.dropWhile isSpace

/-! ### Numbers and literals -/

/-- A text without the sign in front of it. -/
def dropSign : List Char → List Char
  | '+' :: t => t
  | '-' :: t => t
  | t => t

def isDigits (t : List Char) : Bool := t ≠ [] && t.all Char.isDigit

/-- An exponent with its mark, or nothing. -/
def isExponent : List Char → Bool
  | [] => true
  | c :: t => (c == 'e' || c == 'E') && isDigits (dropSign t)

/-- A number. Its whole part has no leading zeros; without decimals and exponent it has a limited
length. -/
def isNumber (t : List Char) : Bool :=
  let t := if t.head? = some '-' then t.drop 1 else t
  let whole := t.takeWhile Char.isDigit
  whole ≠ [] && (whole = ['0'] || whole.head? ≠ some '0') &&
    match t.dropWhile Char.isDigit with
    | [] => whole.length ≤ maxDigits
    | '.' :: r => isDigits (r.takeWhile Char.isDigit) && isExponent (r.dropWhile Char.isDigit)
    | r => isExponent r

/-- Characters of numbers and literals. -/
def isScalarSymbol (s : Symbol) : Bool :=
  s.char?.any fun c => c.isAlphanum || c == '-' || c == '+' || c == '.'

/-- Words that count as numbers without being written in digits. -/
def numberWords : List String := ["NaN", "Infinity", "-Infinity"]

/-- The value of a word. -/
def ofWord? (word : List Char) : Option Json :=
  match String.ofList word with
  | "null" => some .null
  | "true" => some (.bool true)
  | "false" => some (.bool false)
  | w => if numberWords.contains w || isNumber word then some (.number word) else none

/-- A literal or a number, and what follows. -/
def scalar (t : List Symbol) : Except JsonError (Json × List Symbol) :=
  match ofWord? ((t.takeWhile isScalarSymbol).filterMap Symbol.char?) with
  | some v => .ok (v, t.dropWhile isScalarSymbol)
  | none => .error .malformed

/-! ### Strings -/

/-- Four hexadecimal digits, and what follows them. -/
def hex4? : List Symbol → Option (Nat × List Symbol)
  | .char a :: .char b :: .char c :: .char d :: t => do
    let a ← hexValue? a
    let b ← hexValue? b
    let c ← hexValue? c
    let d ← hexValue? d
    return (4096 * a + 256 * b + 16 * c + d, t)
  | _ => none

/-- The character that a short escape stands for. -/
def shortEscape? (c : Char) : Option Char :=
  if c = doubleQuote || c = backslash || c = '/' then some c
  else if c = 'b' then some '\x08'
  else if c = 'f' then some '\x0c'
  else if c = 'n' then some '\n'
  else if c = 'r' then some '\r'
  else if c = 't' then some '\t'
  else none

theorem length_lt_of_hex4? {t rest : List Symbol} {n : Nat} (h : hex4? t = some (n, rest)) :
    rest.length < t.length := by
  rw [hex4?.eq_def] at h
  split at h
  · simp only [Option.bind_eq_bind, Option.bind_eq_some_iff] at h
    obtain ⟨_, _, _, _, _, _, _, _, h⟩ := h
    obtain ⟨-, rfl⟩ : _ ∧ _ = rest := by simpa using h
    simp only [List.length_cons]
    omega
  · cases h

/-- The symbol of a high half and what follows it, which may be an escaped low half. -/
def afterHigh? (high : Nat) (t : List Symbol) : Option (Symbol × List Symbol) :=
  match t with
  | .char c :: .char 'u' :: r =>
    if c = backslash then
      (hex4? r).map fun (low, rest) =>
        if Symbol.isLow low then (.char (Symbol.join high low), rest) else (.half high, t)
    else some (.half high, t)
  | _ => some (.half high, t)

theorem length_le_of_afterHigh? {high : Nat} {t rest : List Symbol} {e : Symbol}
    (h : afterHigh? high t = some (e, rest)) : rest.length ≤ t.length := by
  rw [afterHigh?.eq_def] at h
  split at h
  · next r =>
    split at h
    · obtain ⟨⟨low, rest'⟩, hl, h⟩ := Option.map_eq_some_iff.1 h
      have := length_lt_of_hex4? hl
      grind
    · grind
  · grind

/-- The symbol of an escape, after its backslash, and what follows. -/
def escaped? : List Symbol → Option (Symbol × List Symbol)
  | .char 'u' :: t =>
    (hex4? t).bind fun (n, t) =>
      if Symbol.isHigh n then afterHigh? n t else some (Symbol.ofCode n, t)
  | .char c :: t => (shortEscape? c).map fun e => (.char e, t)
  | _ => none

theorem length_lt_of_escaped? {t rest : List Symbol} {e : Symbol}
    (h : escaped? t = some (e, rest)) : rest.length < t.length := by
  rw [escaped?.eq_def] at h
  split at h
  · obtain ⟨⟨n, t'⟩, hn, h⟩ := Option.bind_eq_some_iff.1 h
    have hlt := length_lt_of_hex4? hn
    have hle : rest.length ≤ t'.length := by
      simp only at h
      split at h
      · exact length_le_of_afterHigh? h
      · grind
    simp only [List.length_cons]
    omega
  · obtain ⟨_, _, h⟩ := Option.map_eq_some_iff.1 h
    grind
  · cases h

/-- The text up to the closing quote, and what follows. -/
def stringTail? (t : List Symbol) : Option (List Symbol × List Symbol) :=
  match t with
  | [] => none
  | .half n :: r => (stringTail? r).map fun (s, rest) => (.half n :: s, rest)
  | .char c :: r =>
    if c = doubleQuote then some ([], r)
    else if c = backslash then
      match _h : escaped? r with
      | some (e, rest) => (stringTail? rest).map fun (s, rest) => (e :: s, rest)
      | none => none
    else if c.toNat < 32 then none
    else (stringTail? r).map fun (s, rest) => (.char c :: s, rest)
termination_by t.length
decreasing_by
  · exact Nat.lt_succ_self r.length
  · exact Nat.lt_succ_of_lt (length_lt_of_escaped? _h)
  · exact Nat.lt_succ_self r.length

/-- The text of a string, after its opening quote, and what follows. -/
def closedString (t : List Symbol) : Except JsonError (List Symbol × List Symbol) :=
  match stringTail? t with
  | some r => .ok r
  | none => .error .malformed

/-! ### Values -/

/-- Arrays and objects may stand in each other up to this depth. -/
def maxDepth : Nat := 975

mutual
/-- Reads a value inside of which `depth` more levels may open; `fuel` bounds the steps, of which no
two go without a symbol. -/
def value (depth : Nat) : (fuel : Nat) → List Symbol → Except JsonError (Json × List Symbol)
  | 0, _ => .error .malformed
  | fuel + 1, t =>
    match t with
    | .char '\x22' :: t => (closedString t).map fun (s, t) => (.string s, t)
    | .char '\x7b' :: t =>
      match depth, skipSpaces t with
      | 0, _ => .error .tooDeep
      | _, .char '\x7d' :: t => .ok (.object [], t)
      | depth + 1, t => (fields depth fuel t).map fun (fs, t) => (.object fs, t)
    | .char '[' :: t =>
      match depth, skipSpaces t with
      | 0, _ => .error .tooDeep
      | _, .char ']' :: t => .ok (.array [], t)
      | depth + 1, t => (items depth fuel t).map fun (vs, t) => (.array vs, t)
    | t => scalar t

/-- Reads the items of an array up to its end. -/
def items (depth : Nat) : (fuel : Nat) → List Symbol → Except JsonError (List Json × List Symbol)
  | 0, _ => .error .malformed
  | fuel + 1, t => do
    let (v, t) ← value depth fuel t
    match skipSpaces t with
    | .char ']' :: t => return ([v], t)
    | .char ',' :: t =>
      let (vs, t) ← items depth fuel (skipSpaces t)
      return (v :: vs, t)
    | _ => .error .malformed

/-- Reads the fields of an object up to its end. -/
def fields (depth : Nat) :
    (fuel : Nat) → List Symbol → Except JsonError (List (String × Json) × List Symbol)
  | 0, _ => .error .malformed
  | fuel + 1, t => do
    match t with
    | .char '\x22' :: t =>
      let (name, t) ← closedString t
      match skipSpaces t with
      | .char ':' :: t =>
        let (v, t) ← value depth fuel (skipSpaces t)
        match skipSpaces t with
        | .char '\x7d' :: t => return ([(Symbol.text name, v)], t)
        | .char ',' :: t =>
          let (fs, t) ← fields depth fuel (skipSpaces t)
          return ((Symbol.text name, v) :: fs, t)
        | _ => .error .malformed
      | _ => .error .malformed
    | _ => .error .malformed
end

/-- Reads a text that holds one value and spaces around it. -/
def ofSymbols (t : List Symbol) : Except JsonError Json := do
  let (v, rest) ← value maxDepth (2 * t.length + 2) (skipSpaces t)
  if skipSpaces rest = [] then .ok v else .error .malformed

def ofBytes (bytes : List UInt8) : Except JsonError Json :=
  match Symbol.ofBytes? bytes with
  | some t => ofSymbols t
  | none => .error .malformed

end Json

end TankArena.Text
