import TankArena.Machine.Runtime
import TankArena.Proofs.Script.Plain
import TankArena.Proofs.Text.Numeral

/-!
# The grammar of expressions

Between blanks an expression is a dollar sign with a name, or an integer; every other text stands
for 0. What is written for an expression is read as the same one exactly if its name is a name and
its number can be written, and reading leaves nothing that has no value.
-/

namespace TankArena.Script

open Machine Text

variable {t : List Char} {text name : String} {v : Int} {e : Expr}

/-! ## Names -/

/-- An ASCII letter or an underscore. -/
def IsLetter (c : Char) : Prop := 'A' ≤ c ∧ c ≤ 'Z' ∨ 'a' ≤ c ∧ c ≤ 'z' ∨ c = '_'

/-- A letter, then letters and ASCII digits. -/
inductive IsIdentifier : List Char → Prop
  | mk {c : Char} {t : List Char} :
      IsLetter c → (∀ d ∈ t, IsLetter d ∨ '0' ≤ d ∧ d ≤ '9') → IsIdentifier (c :: t)

theorem isNameStart_iff {c : Char} : isNameStart c = true ↔ IsLetter c := by
  have hletter : c.isAlpha = true ↔ ('A' ≤ c ∧ c ≤ 'Z') ∨ 'a' ≤ c ∧ c ≤ 'z' := by
    change (decide ('A' ≤ c ∧ c ≤ 'Z') || decide ('a' ≤ c) && decide (c ≤ 'z')) = true ↔ _
    simp only [Bool.or_eq_true, Bool.and_eq_true, decide_eq_true_eq]
  simp only [isNameStart, Bool.or_eq_true, beq_iff_eq, hletter, IsLetter, or_assoc]

theorem isNameChar_iff {c : Char} : isNameChar c = true ↔ IsLetter c ∨ '0' ≤ c ∧ c ≤ '9' := by
  have hdigit : c.isDigit = true ↔ '0' ≤ c ∧ c ≤ '9' := by
    simp only [Char.isDigit, Bool.and_eq_true, decide_eq_true_eq]
    rfl
  rw [← isNameStart_iff, ← hdigit]
  simp only [isNameChar, isNameStart, Char.isAlphanum, Bool.or_eq_true]
  exact or_right_comm

theorem isName_iff : isName t = true ↔ IsIdentifier t := by
  cases t with
  | nil => exact iff_of_false (by decide) nofun
  | cons c t =>
      simp only [isName, Bool.and_eq_true, List.all_eq_true, isNameStart_iff, isNameChar_iff]
      constructor
      · rintro ⟨hc, ht⟩
        exact .mk hc ht
      · rintro (⟨hc, ht⟩)
        exact ⟨hc, ht⟩

/-! ## Reading -/

/-- A dollar sign and a name. -/
def IsVariable (t : List Char) (name : String) : Prop :=
  t = '$' :: name.toList ∧ IsIdentifier name.toList

theorem variableName?_eq_some_iff : variableName? t = some name ↔ IsVariable t name := by
  unfold variableName?
  split
  · rename_i r
    rw [Option.ite_none_right_eq_some, Option.some.injEq, isName_iff]
    constructor
    · rintro ⟨hr, rfl⟩
      exact ⟨by rw [String.toList_ofList], by rwa [String.toList_ofList]⟩
    · rintro ⟨heq, hname⟩
      cases heq
      exact ⟨hname, String.ofList_toList⟩
  · rename_i hdollar
    exact iff_of_false nofun fun h => hdollar _ h.1

theorem IsVariable.not_isInteger (h : IsVariable t name) : ¬ IsInteger t v := by
  obtain ⟨rfl, -⟩ := h
  intro hv
  cases hv with
  | plain hnum _ =>
      obtain ⟨c, r, d, hc, hd⟩ := hnum.exists_cons
      cases hc
      have hdollar : digit? '$' = none := by decide
      rw [← digit?_eq_some_iff, hdollar] at hd
      cases hd

theorem Expr.ofChars_eq_variable_iff :
    Expr.ofChars t = .variable name ↔ IsVariable (trim t) name := by
  rw [← variableName?_eq_some_iff, Expr.ofChars]
  cases variableName? (trim t) with
  | none => exact iff_of_false nofun nofun
  | some name' => rw [Expr.variable.injEq, Option.some.injEq]

theorem Expr.ofChars_eq_literal_iff : Expr.ofChars t = .literal v ↔
    IsInteger (trim t) v ∨
      v = 0 ∧ (∀ name, ¬ IsVariable (trim t) name) ∧ ∀ n, ¬ IsInteger (trim t) n := by
  simp only [← variableName?_eq_some_iff, ← integer?_eq_some_iff, Expr.ofChars]
  cases hname : variableName? (trim t) with
  | some name =>
      have hinteger : integer? (trim t) ≠ some v := fun hv =>
        (variableName?_eq_some_iff.mp hname).not_isInteger (integer?_eq_some_iff.mp hv)
      exact iff_of_false nofun fun h => h.elim hinteger fun h => h.2.1 name rfl
  | none =>
      rw [Expr.literal.injEq]
      cases integer? (trim t) with
      | none => simp [eq_comm]
      | some n => simp

/-! ## Writing -/

/-- A name that can be written as one, or a number of few enough digits. -/
def Expr.IsProper : Expr → Prop
  | .variable name => IsIdentifier name.toList
  | .literal value => value.natAbs < 10 ^ maxDigits

theorem Expr.legible_iff : e.Legible ↔ e.IsProper := by
  rcases e with value | name
  · exact isWritable_iff
  · exact isName_iff

theorem Expr.ofChars_text_iff : Expr.ofChars e.text.toList = e ↔ e.IsProper := by
  rw [← Expr.legible_iff]
  refine ⟨fun h => ?_, Expr.Legible.ofChars_text⟩
  rw [← h]
  exact Expr.legible_ofChars _

/-- Reading takes the texts of the grammar and gives what they stand for, and 0 for all others. What
is written for an expression is read as the same expression exactly if it is proper. Whatever was
read has a value: that of the variable, 0 if it was never set, or the number itself. -/
theorem parse_expression_grammar :
    (∀ text name, Expr.parse text = .variable name ↔ IsVariable (trim text.toList) name) ∧
    (∀ text v, Expr.parse text = .literal v ↔ IsInteger (trim text.toList) v ∨
      v = 0 ∧ (∀ name, ¬ IsVariable (trim text.toList) name) ∧
        ∀ n, ¬ IsInteger (trim text.toList) n) ∧
    (∀ e, Expr.parse e.text = e ↔ e.IsProper) ∧
    ∀ (r : Runtime) text v, r.eval (.parse text) = v ↔
      (∃ name, IsVariable (trim text.toList) name ∧ (r.store.get? name).getD 0 = v) ∨
      IsInteger (trim text.toList) v ∨
      v = 0 ∧ (∀ name, ¬ IsVariable (trim text.toList) name) ∧
        ∀ n, ¬ IsInteger (trim text.toList) n := by
  refine ⟨fun _ _ => Expr.ofChars_eq_variable_iff, fun _ _ => Expr.ofChars_eq_literal_iff,
    fun _ => Expr.ofChars_text_iff, fun r text v => ?_⟩
  rw [← Expr.ofChars_eq_literal_iff, Expr.parse]
  simp only [← Expr.ofChars_eq_variable_iff]
  rcases Expr.ofChars text.toList with value | name
  · simp [Runtime.eval]
  · simp [Runtime.eval]

/-- Digits of two scripts, a sign and an underscore, between blanks that are no ASCII. -/
example : Expr.parse "\u3000-1_\u0662\u0663\u00A0" = .literal (-123) := by decide +kernel

end TankArena.Script
