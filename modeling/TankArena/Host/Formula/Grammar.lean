import TankArena.Host.Formula.Reader
import TankArena.Host.Formula.SymbolNames
import TankArena.Text.Digit
import TankArena.Text.Quoted

/-! The grammar of formulas: symbols, accents, scripts, groups, fractions, roots and delimiters.

Every reader of something nested is built over the readers of the level below, and a formula is
read at a level as deep as it is long, so nesting never runs out of levels. -/

namespace TankArena.Host.Formula

open Text Reader

def fontNames : List (List Char) :=
  namesIn ["rm cal it tt sf bfit bf default bb frak scr regular normal"]

def functionNames : List (List Char) := namesIn
  ["arccos csc ker min arcsin deg lg Pr arctan det lim sec arg dim liminf sin cos exp limsup sinh",
   "cosh gcd ln sup cot hom log tan coth inf max tanh"]

def accentNames : List (List Char) := namesIn
  ["hat breve bar grave acute tilde dot ddot dddot ddddot vec overrightarrow overleftarrow",
   "mathring widehat widetilde widebar"]

/-- The signs that are accents behind a backslash. -/
def accentSigns : List Char := ['"', '\x60', apostrophe, '~', '.', '^']

/-- The marks for spaces. -/
def spaceMarks : List String :=
  ["\\,", "\\thinspace", "\\/", "\\>", "\\:", "\\;", "\\ ", "~", "\\enspace", "\\quad", "\\qquad",
   "\\!"]

/-- The marks that may stand at the ends of a row or divide it. -/
def delimiterMarks : List String :=
  ["|", "\\|", "/", "\\backslash", "\\uparrow", "\\downarrow", "\\updownarrow", "\\Uparrow",
   "\\Downarrow", "\\Updownarrow", ".", "\\vert", "\\Vert", "(", "[", "\\\x7b", "<", "\\lfloor",
   "\\langle", "\\lceil", "\\lbrace", "\\leftbrace", "\\lbrack", "\\leftparen", "\\lgroup", ")",
   "]", "\\\x7d", ">", "\\rfloor", "\\rangle", "\\rceil", "\\rbrace", "\\rightbrace", "\\rbrack",
   "\\rightparen", "\\rgroup"]

/-- The signs that are symbols by themselves. -/
def symbolSigns : List Char := apostrophe :: " +-*/<>=:,.;!?&@()[]|".toList

/-- The signs that are symbols behind a backslash. -/
def escapedSigns : List Char := "%$\x7b\x7d[]_|".toList

/-- A name behind a backslash, and what follows it. -/
def name? : List Char → Option (List Char × List Char)
  | [] => none
  | c :: s =>
    if c = backslash ∧ (s.takeWhile Char.isAlpha) ≠ [] then
      some (s.takeWhile Char.isAlpha, s.dropWhile Char.isAlpha)
    else none

/-- Reads a name of a list, behind a gap if there is one. -/
def nameIn (names : List (List Char)) : Reader := ofOption fun s =>
  match name? (skipGap s) with
  | some (name, rest) => if names.contains name then some rest else none
  | none => none

def isSymbolChar (c : Char) : Bool :=
  c.isAlphanum || symbolSigns.contains c || (0x80 ≤ c.toNat && c.toNat ≤ 0x1ffff)

/-- Reads a symbol. No gap is skipped: a space is a symbol itself. -/
def symbol : Reader := ofOption fun s =>
  match s with
  | [] => none
  | c :: rest =>
    if isSymbolChar c then some rest
    else if c = backslash then
      match rest with
      | [] => none
      | d :: behind =>
        if escapedSigns.contains d then some behind
        else if d = '#' then if behind.head?.any Char.isAlpha then none else some behind
        else
          match name? s with
          | some (name, behind) => if symbolNames.contains name then some behind else none
          | none => none
    else none

/-- Reads a sign of an accent behind a backslash. -/
def accentSign : Reader := ofOption fun s =>
  match skipGap s with
  | c :: d :: rest => if c = backslash ∧ accentSigns.contains d then some rest else none
  | _ => none

def space : Reader := oneOf (spaceMarks.map mark)

def delimiter : Reader := oneOf (delimiterMarks.map mark)

/-- Reads digits, with a point between or before them and a sign in front. -/
def float : Reader := ofOption fun s =>
  let s := skipGap s
  let s := if s.head?.any fun c => c = '-' || c = '+' then s.drop 1 else s
  let whole := s.takeWhile Char.isDigit
  match s.dropWhile Char.isDigit with
  | '.' :: rest =>
    if whole = [] && rest.takeWhile Char.isDigit = [] then none
    else some (rest.dropWhile Char.isDigit)
  | rest => if whole = [] then none else some rest

/-- What stands before the first closing mark on the same line, and what follows the mark. A
backslash takes the character after it along. -/
def enclosed (closing : Char) : List Char → Option (List Char × List Char)
  | [] => none
  | c :: s =>
    if c = closing then some ([], s)
    else if c = '\n' || c = '\r' then none
    else if c = backslash then
      match s with
      | [] => none
      | d :: s => if d = '\n' then none else (enclosed closing s).map fun (t, r) => (c :: d :: t, r)
    else (enclosed closing s).map fun (t, r) => (c :: t, r)

/-- Reads braces around plain text. -/
def plainGroup : Reader := ofOption fun s =>
  match skipGap s with
  | '\x7b' :: s => (enclosed '\x7d' s).map Prod.snd
  | _ => none

/-- Reads the arguments of a command. Whatever is missing, the shape of the whole command is
told. -/
def command (name shape : String) (arguments : Reader) : Reader :=
  inOrder [mark name, required arguments fun s _ =>
    .flaw (.missing (name ++ shape)) (some (skipGap s).length) true]

/-- The kinds of things that may be set at a place. -/
def placeableKinds : String :=
  "\x7baccent | symbol | function | operatorname | group | frac | dfrac | binom | genfrac | " ++
    "overset | underset | sqrt | overline | text | boldsymbol | substack | phantom | llap | " ++
    "rlap\x7d"

/-- Reads a thing raised or lowered. -/
def script (placeable : Reader) : Reader := required placeable fun s why =>
  let (left, what) := why.place s
  .flaw (.missing (what.getD placeableKinds)) (some left) true

/-- How a thing is set. -/
inductive Shape
  | character
  /-- Things side by side. -/
  | row
  /-- Things on top of each other. -/
  | column
  deriving DecidableEq, Repr

/-- A symbol that is set with spaces beside it. -/
def isSpaced (t : List Char) : Bool :=
  match t with
  | [c] => "+*-\u2212=<>:,;.!".toList.contains c
  | _ => spacedNames.contains (t.drop 1)

/-- How the thing at the front of a text is set. -/
def shapeOf (s : List Char) : Shape :=
  match either (nameIn accentNames) accentSign s, symbol s,
      oneOf (["\\overset", "\\underset", "\\substack"].map mark) s with
  | .ok _, _, _ => .column
  | _, .ok rest, _ => if isSpaced (s.take (s.length - rest.length)) then .row else .character
  | _, _, .ok _ => .column
  | _, _, _ => .row

/-- A thing raised or lowered by a sign. -/
structure Script where
  sign : Char
  shape : Shape

/-- Reads scripts. -/
def scripts (placeable : Reader) (s : List Char) : Except Failure (List Script × List Char) :=
  match skipGap s with
  | [] => .ok ([], s)
  | c :: behind =>
    if c = '_' || c = '^' then do
      let rest ← script placeable behind
      if rest.length < s.length then
        let (others, rest) ← scripts placeable rest
        return (⟨c, shapeOf behind⟩ :: others, rest)
      else return ([⟨c, shapeOf behind⟩], rest)
    else .ok ([], s)
termination_by s.length

/-- The first sign that is there for the second time. -/
def repeated? : (before signs : List Char) → Option Char
  | _, [] => none
  | before, c :: signs => if before.contains c then some c else repeated? (c :: before) signs

/-- Why primes cannot join what is raised. -/
def primesFailure? (scripts : List Script) : Option Unset :=
  match (scripts.find? (·.sign = '^')).map Script.shape with
  | some .character => some .primedCharacter
  | some .column => some .primedColumn
  | _ => none

/-- What scripts and primes are attached to. -/
inductive Nucleus
  | missing (why : Lack)
  /-- A group that holds a single space, which can carry nothing. -/
  | loneSpace
  | thing
  deriving DecidableEq, Repr

/-- Whether a nucleus goes with what is attached to it. Only a thing may go without scripts. -/
def Nucleus.check (nucleus : Nucleus) (bare : Bool) : Except Failure Unit :=
  match nucleus with
  | .missing why => if bare then .error (.lack why) else .ok ()
  | .loneSpace => if bare then .ok () else .error (.lack .other)
  | .thing => .ok ()

/-- Reads the scripts and the primes of a nucleus. -/
def attachments (placeable : Reader) (nucleus : Nucleus) : Reader := fun s => do
  let (scripts, rest) ← scripts placeable s
  let primed := (skipGap rest).head? = some apostrophe
  match repeated? [] (scripts.map Script.sign), if primed then primesFailure? scripts else none with
  | some '_', _ => .error (.flaw .doubleSubscript none false)
  | some _, _ => .error (.flaw .doubleSuperscript none false)
  | none, some why => .error (.unset why)
  | none, none =>
    nucleus.check (scripts.isEmpty && !primed)
    return (skipGap rest).dropWhile (· = apostrophe)

/-- Reads what opens a group: a brace, with a font before it or not. -/
def opening : Reader := fun s =>
  match inOrder [mark "\\math", oneOf (fontNames.map fun n => mark (String.ofList n))] s with
  | .ok rest => either (mark "\x7b") (fun r => .error (.lack (.opening (skipGap r).length))) rest
  | .error _ => mark "\x7b" s

def hspace : Reader :=
  command "\\hspace" "\x7bspace\x7d" (inOrder [mark "\x7b", float, mark "\x7d"])

/-- Reads a group that holds a single space. Fonts do not count. -/
def loneSpace : Reader :=
  let fonts := many (nameIn fontNames)
  inOrder [oneOf [opening, inOrder [mark "\\phantom", mark "\x7b"],
    inOrder [mark "\\boldsymbol", mark "\x7b"]], fonts, either space hspace, fonts, mark "\x7d"]

/-- Reads a thing, scripts, or a thing with scripts. -/
def scripted (placeable : Reader) : Reader := fun s =>
  match placeable (skipGap s) with
  | .ok rest =>
    attachments placeable (if loneSpace s matches .ok _ then .loneSpace else .thing) rest
  | .error (.lack why) => attachments placeable (.missing why) s
  | failure => failure

def group (token : Reader) : Reader := inOrder [opening, many token,
  either (mark "\x7d") fun r => .error (.lack (.closing (skipGap r).length))]

/-- Reads a group with something in it. -/
def requiredGroup (token : Reader) : Reader :=
  whole "required_group" (inOrder [mark "\x7b", atLeastOne token, mark "\x7d"])

/-- Reads a group that may be empty. -/
def optionalGroup (token : Reader) : Reader :=
  whole "optional_group" (inOrder [mark "\x7b", many token, mark "\x7d"])

/-- Reads a delimiter in braces, or empty braces. -/
def delimiterGroup : Reader := inOrder [mark "\x7b", maybe delimiter, mark "\x7d"]

def style : Reader := oneOf (["0", "1", "2", "3"].map mark)

/-- Reads the order of a root in brackets. -/
def rootOrder (placeable : Reader) : Reader :=
  let part : Reader := fun s => if s.head? = some ']' then nothing s else placeable s
  inOrder [mark "[", atLeastOne part, mark "]"]

def accent (placeable : Reader) : Reader :=
  inOrder [either (nameIn accentNames) accentSign,
    fun s => required (whole "named_placeable" placeable) (fun s why =>
      .flaw (.missing "named_placeable") (some (why.place s).1) true) (skipGap s)]

/-- What may be found for a line of a stack. -/
inductive Line
  | plain | quotation | nested
  deriving DecidableEq, Repr

/-- A stack where a line is looked for. -/
def Line.ofStack : List Line → Line
  | [] => .plain
  | .quotation :: _ => .quotation
  | _ => .nested

/-- The readers of one level of nesting. -/
structure Level where
  /-- What may carry scripts. -/
  placeable : Reader
  /-- What may stand in a row. -/
  simple : Reader
  /-- A row between delimiters that grow with it. -/
  row : Reader
  /-- A piece of a formula. -/
  token : Reader
  /-- Lines on top of each other. -/
  stack : List Char → Except Failure (List Line × List Char)

/-- What has been read of a row. -/
inductive Filling
  | empty | dividers | elements
  deriving DecidableEq, Repr

/-- Reads a delimiter that cannot be missing. -/
def delimiterNeeded : Reader := required delimiter fun s _ =>
  .flaw (.missing "a delimiter") (some (skipGap s).length) true

/-- Reads the next part of a row. Fonts fill nothing. -/
def Filling.next (level : Level) (before : Filling) (s : List Char) :
    Except Failure (Filling × List Char) :=
  match nameIn fontNames s with
  | .ok rest => .ok (before, rest)
  | .error _ =>
    match either level.simple level.row s with
    | .ok rest => .ok (.elements, rest)
    | .error (.lack _) => do
      let rest ← inOrder [mark "\\middle", delimiterNeeded] s
      return (if before = .empty then .dividers else before, rest)
    | .error e => .error e

/-- Reads the parts of a row. -/
def Filling.read (level : Level) (before : Filling) (s : List Char) :
    Except Failure (Filling × List Char) :=
  match before.next level s with
  | .ok (now, rest) =>
    if rest.length < s.length then Filling.read level now rest else .ok (now, rest)
  | .error (.lack _) => .ok (before, s)
  | .error e => .error e
termination_by s.length

/-- Reads what ends a row. -/
def rowEnd : Reader := inOrder
  [required (mark "\\right") fun s _ =>
    .flaw (.missing "'\\\\right'") (some (skipGap s).length) true, delimiterNeeded]

/-- Reads a row to its end. Dividers need something to measure them by. -/
def rowBody (level : Level) : Reader := fun s => do
  let (filling, rest) ← Filling.read level .empty s
  let rest ← rowEnd rest
  if filling = .dividers then .error (.unset .unmeasured) else return rest

/-- What was read last in a quotation. -/
inductive QuotationState
  | plain
  /-- A quote, which ends the quotation unless it is doubled. -/
  | quote
  | backslash
  /-- A backslash and an x, which a digit of a code has to follow. -/
  | code
  deriving DecidableEq, Repr

/-- What follows a quotation that began with a quote. It stands on one line, but a backslash takes
the character after it along. -/
def afterQuotation (mark : Char) : QuotationState → List Char → Option (List Char)
  | .quote, [] => some []
  | _, [] => none
  | .plain, c :: s =>
    if c = mark then afterQuotation mark .quote s
    else if c = '\n' || c = '\r' then none
    else afterQuotation mark (if c = Text.backslash then .backslash else .plain) s
  | .quote, c :: s => if c = mark then afterQuotation mark .plain s else some (c :: s)
  | .backslash, c :: s => afterQuotation mark (if c = 'x' then .code else .plain) s
  | .code, c :: s => if (hexValue? c).isSome then afterQuotation mark .plain s else none

/-- Reads a quotation. -/
def quotedText : Reader := ofOption fun s =>
  match skipGap s with
  | c :: s => if c = doubleQuote || c = apostrophe then afterQuotation c .plain s else none
  | [] => none

/-- Reads the next line of a stack, with double backslashes behind it or not. -/
def Line.next (level : Level) (s : List Char) : Except Failure (Line × List Char) :=
  match quotedText s, level.stack s with
  | .ok rest, _ => .ok (.quotation, rest)
  | _, .ok (lines, rest) => .ok (.ofStack lines, rest)
  | _, .error (.lack _) => do
    return (.plain, ← inOrder [atLeastOne level.token, many (mark "\\\\")] s)
  | _, .error e => .error e

/-- Reads lines as long as there are any. -/
def Line.readAll (level : Level) (s : List Char) : Except Failure (List Line × List Char) :=
  match Line.next level s with
  | .ok (line, rest) =>
    if rest.length < s.length then do
      let (lines, rest) ← Line.readAll level rest
      return (line :: lines, rest)
    else .ok ([line], rest)
  | .error (.lack _) => .ok ([], s)
  | .error e => .error e
termination_by s.length

/-- Reads a stack with lines that can be set. -/
def stackLines (level : Level) : Reader := fun s => do
  let (lines, rest) ← level.stack s
  match lines, lines.find? (· ≠ .plain) with
  | [], _ => .error (.unset .unmeasured)
  | _, some .quotation => .error (.unset .quotedLine)
  | _, some _ => .error (.unset .nestedLine)
  | _, none => return rest

namespace Level

/-- Reads what may carry scripts, over the readers of what is nested in it. -/
def placeableOver (l : Level) : Reader :=
  let braced p := inOrder [mark "\x7b", p, mark "\x7d"]
  let fraction := inOrder [requiredGroup l.token, requiredGroup l.token]
  let pair := inOrder [optionalGroup l.token, optionalGroup l.token]
  oneOf
    [accent l.placeable,
     symbol,
     nameIn functionNames,
     command "\\operatorname" "\x7bname\x7d" (braced (many l.simple)),
     group l.token,
     command "\\frac" "\x7bnum\x7d\x7bden\x7d" fraction,
     command "\\dfrac" "\x7bnum\x7d\x7bden\x7d" fraction,
     command "\\binom" "\x7bnum\x7d\x7bden\x7d" fraction,
     command "\\genfrac" ("\x7bldelim\x7d\x7brdelim\x7d\x7brulesize\x7d\x7bstyle\x7d" ++
         "\x7bnum\x7d\x7bden\x7d")
       (inOrder [delimiterGroup, delimiterGroup, braced float, braced (maybe style), fraction]),
     command "\\overset" "\x7bannotation\x7d\x7bbody\x7d" pair,
     command "\\underset" "\x7bannotation\x7d\x7bbody\x7d" pair,
     command "\\sqrt" "\x7bvalue\x7d"
       (inOrder [maybe (rootOrder l.placeable), requiredGroup l.token]),
     command "\\overline" "\x7bbody\x7d" (requiredGroup l.token),
     command "\\text" "" plainGroup,
     command "\\boldsymbol" "\x7bvalue\x7d" (braced (many l.simple)),
     command "\\substack" "\x7bparts\x7d" (stackLines l),
     command "\\phantom" "\x7bvalue\x7d" (optionalGroup l.token),
     command "\\llap" "\x7bvalue\x7d" (optionalGroup l.token),
     command "\\rlap" "\x7bvalue\x7d" (optionalGroup l.token)]

/-- Reads what may stand in a row. -/
def simpleOver (placeable : Reader) : Reader :=
  oneOf
    [space,
     hspace,
     nameIn fontNames,
     scripted placeable]

/-- Reads a row between delimiters. -/
def rowOver (l : Level) : Reader :=
  inOrder [mark "\\left", required (inOrder [delimiterNeeded, rowBody l]) fun _ why => .lack why]

/-- Reads a piece of a formula. A group that is never closed and a name that stands for nothing
are flaws here. -/
def tokenOver (simple row : Reader) : Reader := fun s =>
  match either simple row s with
  | .error (.lack (.closing 0)) => .error (.flaw (.missing "'\x7d'") (some 0) false)
  | .error (.lack why) =>
    match name? (skipGap s) with
    | some (name, _) =>
      .error (.flaw (.unknownSymbol (backslash :: name)) (some (skipGap s).length) false)
    | none => .error (.lack why)
  | result => result

/-- Reads braces around lines. -/
def stackOver (l : Level) (s : List Char) : Except Failure (List Line × List Char) :=
  Except.mapError (.ofWhole "nested \x7b\x7d expression") do
    let (lines, rest) ← Line.readAll l (← mark "\x7b" s)
    return (lines, ← mark "\x7d" rest)

/-- The level in which the things of a given level are nested. -/
def above (l : Level) : Level where
  placeable := placeableOver l
  simple := simpleOver (placeableOver l)
  row := rowOver l
  token := tokenOver (simpleOver (placeableOver l)) (rowOver l)
  stack := stackOver l

/-- The level that allows for things nested `depth` deep. -/
def ofDepth : (depth : Nat) → Level
  | 0 => ⟨nothing, nothing, nothing, nothing, fun _ => .error (.lack .other)⟩
  | depth + 1 => (ofDepth depth).above

end Level

/-- Reads a formula to its end. -/
def read (s : List Char) : Except Failure Unit := do
  let rest ← atLeastOne (Level.ofDepth (s.length + 1)).token s
  if skipGap rest = [] then return () else .error (.lack .other)

end TankArena.Host.Formula
