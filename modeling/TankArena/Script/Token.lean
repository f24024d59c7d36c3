import TankArena.Text.Blank
import TankArena.Text.Letter
import TankArena.Text.Lines
import TankArena.Text.Word

/-! A script cut into statement texts. Comments and blank lines are dropped, an ordinary line is cut
at its semicolons, and the lines of a function block stay together. -/

namespace TankArena.Script

open Text

/-- A line up to its comment. -/
def cutComment : List Char → List Char
  | '/' :: '/' :: _ => []
  | c :: t => c :: cutComment t
  | [] => []

/-- A script without its comments. -/
def stripComments (source : String) : String :=
  String.ofList (unlines ((lines source.toList).map cutComment))

/-- The lines that carry something, trimmed and without comments. -/
def codeLines (ls : List (List Char)) : List (List Char) :=
  (ls.map fun l => trim (cutComment l)).filter (· ≠ [])

/-- A block opens with the word FUNCTION and a blank. -/
def opensBlock (line : List Char) : Bool :=
  match afterKeyword? "FUNCTION".toList line with
  | some (c :: _) => isBlank c
  | _ => false

/-- A block closes with a line whose first word is END. -/
def closesBlock (line : List Char) : Bool :=
  match afterKeyword? "END".toList line with
  | some (c :: _) => !isWordChar c
  | some [] => true
  | none => false

/-- The texts between the semicolons of a line, trimmed, each with one semicolon. -/
def parts (line : List Char) : List (List Char) :=
  (((line.splitOn ';').map trim).filter (· ≠ [])).map (· ++ [';'])

/-- A block as one text, closed by END whether or not the script closed it. -/
def blockText (header : List Char) (body : List (List Char)) : List Char :=
  unlines (header :: body ++ ["END".toList])

mutual
/-- Cuts code lines outside of any block. -/
def cutOutside : List (List Char) → List (List Char)
  | [] => []
  | l :: ls => if opensBlock l then cutInside l [] ls else parts l ++ cutOutside ls

/-- Cuts code lines inside a block, of which the header and the lines so far, the last first, are
known. -/
def cutInside (header : List Char) (body : List (List Char)) :
    List (List Char) → List (List Char)
  | [] => [blockText header body.reverse]
  | l :: ls =>
    if closesBlock l then blockText header body.reverse :: cutOutside ls
    else cutInside header (l :: body) ls
end

/-- The statement texts in a list of source lines. -/
def tokensOf (ls : List (List Char)) : List (List Char) := cutOutside (codeLines ls)

def tokenize (source : String) : List String :=
  (tokensOf (lines source.toList)).map String.ofList

theorem cutComment_sublist (t : List Char) : (cutComment t).Sublist t := by
  fun_induction cutComment t with
  | case1 => exact List.nil_sublist _
  | case2 c t _ ih => exact ih.cons_cons c
  | case3 => exact List.Sublist.refl _

theorem newline_notMem_of_mem_codeLines {ls : List (List Char)} (h : ∀ l ∈ ls, '\n' ∉ l) :
    ∀ l ∈ codeLines ls, '\n' ∉ l := by
  intro l hl
  obtain ⟨l', hl', rfl⟩ := List.mem_map.1 (List.mem_filter.1 hl).1
  exact fun hm => h l' hl' ((cutComment_sublist l').subset ((trim_sublist _).subset hm))

theorem newline_notMem_of_mem_parts {l t : List Char} (hl : '\n' ∉ l) (ht : t ∈ parts l) :
    '\n' ∉ t := by
  obtain ⟨p, hp, rfl⟩ := List.mem_map.1 ht
  obtain ⟨q, hq, rfl⟩ := List.mem_map.1 (List.mem_filter.1 hp).1
  intro hm
  rcases List.mem_append.1 hm with hm | hm
  · exact hl (mem_splitOn hq _ ((trim_sublist q).subset hm)).2
  · simp at hm

end TankArena.Script
