/-! Letters of keywords and names: a keyword is read in any letter case. -/

namespace TankArena.Text

/-- The capital under which a letter is compared with a keyword. Besides the ASCII letters, the
dotless and the dotted i count as I, the long s as S and the Kelvin sign as K. -/
def capital (c : Char) : Char :=
  if c = '\u0131' || c = '\u0130' then 'I'
  else if c = '\u017F' then 'S'
  else if c = '\u212A' then 'K'
  else c.toUpper

/-- The upper-case form of a letter. The dotted I and the Kelvin sign are capitals already. -/
def upper (c : Char) : Char :=
  if c = '\u0131' then 'I' else if c = '\u017F' then 'S' else c.toUpper

/-- The upper-case form of a letter, which for a ligature and for the sharp s is several letters. -/
def upperForm (c : Char) : List Char :=
  match c with
  | 'ß' => ['S', 'S']
  | 'ﬀ' => ['F', 'F']
  | 'ﬁ' => ['F', 'I']
  | 'ﬂ' => ['F', 'L']
  | 'ﬃ' => ['F', 'F', 'I']
  | 'ﬄ' => ['F', 'F', 'L']
  | 'ﬅ' | 'ﬆ' => ['S', 'T']
  | _ => [upper c]

/-- A letter, digit or underscore that may stand in a name. -/
def isNameChar (c : Char) : Bool := c.isAlphanum || c == '_'

/-- A name starts with a letter or an underscore. -/
def isNameStart (c : Char) : Bool := c.isAlpha || c == '_'

/-- A name: a letter or underscore, then letters, digits and underscores, all of them ASCII. -/
def isName : List Char → Bool
  | [] => false
  | c :: r => isNameStart c && r.all isNameChar

/-- A name read without regard to letter case, which lets in the letters that count as I, S or K. -/
def isLooseName (t : List Char) : Bool := isName (t.map capital)

/-- What follows a keyword at the front of a text; the keyword is given in capitals. -/
def afterKeyword? : (keyword text : List Char) → Option (List Char)
  | [], t => some t
  | _ :: _, [] => none
  | k :: ks, c :: t => if capital c = k then afterKeyword? ks t else none

/-- A text that is a keyword and nothing else. -/
def isKeyword (keyword text : List Char) : Bool := text.map capital = keyword

end TankArena.Text
