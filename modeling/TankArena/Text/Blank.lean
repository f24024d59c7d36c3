/-! Blank characters, and texts without them at either end. -/

namespace TankArena.Text

/-- Blank characters: the line and space separators of Unicode, the tab and line controls, and the
four information separators. A zero-width space is no blank. -/
def isBlank (c : Char) : Bool :=
  let n := c.toNat
  (9 ≤ n && n ≤ 13) || (28 ≤ n && n ≤ 32) || n == 0x85 || n == 0xA0 || n == 0x1680 ||
    (0x2000 ≤ n && n ≤ 0x200A) || n == 0x2028 || n == 0x2029 || n == 0x202F || n == 0x205F ||
    n == 0x3000

def trimStart (t : List Char) : List Char := t.dropWhile isBlank

def trimEnd (t : List Char) : List Char := (t.reverse.dropWhile isBlank).reverse

/-- The text without the blanks at both ends. -/
def trim (t : List Char) : List Char := trimEnd (trimStart t)

@[simp] theorem trimStart_nil : trimStart [] = [] := rfl

@[simp] theorem trimEnd_nil : trimEnd [] = [] := rfl

@[simp] theorem trim_nil : trim [] = [] := rfl

theorem trimStart_sublist (t : List Char) : (trimStart t).Sublist t :=
  List.dropWhile_sublist _

theorem trimEnd_sublist (t : List Char) : (trimEnd t).Sublist t := by
  have h := (List.dropWhile_sublist (l := t.reverse) isBlank).reverse
  rwa [List.reverse_reverse] at h

theorem trim_sublist (t : List Char) : (trim t).Sublist t :=
  (trimEnd_sublist _).trans (trimStart_sublist t)

end TankArena.Text
