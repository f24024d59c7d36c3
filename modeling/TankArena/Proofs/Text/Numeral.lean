import Mathlib.Data.List.Forall2
import Mathlib.Data.List.Induction
import Mathlib.Data.Nat.Digits.Defs
import TankArena.Proofs.Text.Decimal

/-!
# The grammar of integers

An integer is written with decimal digits of any scripts, in groups with one underscore between two
of them, after at most one sign. The reader of integers takes these texts and no others, and gives
the decimal value of the digits.
-/

namespace TankArena.Text

variable {c : Char} {d : Nat} {t : List Char} {ds : List Nat} {v : Int}

/-! ## Digits -/

/-- A decimal digit of some script, with its value. -/
def IsDigit (c : Char) (d : Nat) : Prop := ∃ z ∈ digitZeros, d ≤ 9 ∧ c.toNat = z + d

/-- The digits of one script do not run into those of another. -/
theorem digitZeros_apart : ∀ z ∈ digitZeros, ∀ z' ∈ digitZeros, z ≤ z' + 9 → z' ≤ z + 9 →
    z = z' := by
  decide +kernel

theorem digit?_eq_some_iff : digit? c = some d ↔ IsDigit c d := by
  constructor
  · intro h
    obtain ⟨z, hz, rfl⟩ := Option.map_eq_some_iff.mp h
    have hrange := List.find?_some hz
    simp only [Bool.and_eq_true, decide_eq_true_eq] at hrange
    exact ⟨z, List.mem_of_find?_eq_some hz, by omega, by omega⟩
  · rintro ⟨z, hz, hd, hc⟩
    cases hfind : digitZeros.find? fun z => z ≤ c.toNat && c.toNat ≤ z + 9 with
    | none =>
        have hnone := List.find?_eq_none.mp hfind z hz
        simp only [Bool.and_eq_true, decide_eq_true_eq] at hnone
        omega
    | some z' =>
        have hrange := List.find?_some hfind
        simp only [Bool.and_eq_true, decide_eq_true_eq] at hrange
        have hsame := digitZeros_apart z hz z' (List.mem_of_find?_eq_some hfind) (by omega)
          (by omega)
        rw [digit?, hfind, Option.map_some, Option.some.injEq]
        omega

theorem IsDigit.notMem (h : IsDigit c d) : c ∉ ['_', '-', '+'] := by
  intro hc
  have hnone : digit? c = none := by
    simp only [List.mem_cons, List.not_mem_nil, or_false] at hc
    rcases hc with rfl | rfl | rfl <;> rfl
  rw [← digit?_eq_some_iff, hnone] at h
  cases h

/-! ## Numerals -/

/-- Digits with their values, in groups with one underscore between two of them. -/
inductive IsNumeral : List Char → List Nat → Prop
  | group {g : List Char} {ds : List Nat} :
      g ≠ [] → List.Forall₂ IsDigit g ds → IsNumeral g ds
  | next {g t : List Char} {ds es : List Nat} :
      g ≠ [] → List.Forall₂ IsDigit g ds → IsNumeral t es → IsNumeral (g ++ '_' :: t) (ds ++ es)

theorem IsNumeral.cons (hc : IsDigit c d) (h : IsNumeral t ds) : IsNumeral (c :: t) (d :: ds) := by
  cases h with
  | group _ hg => exact .group (List.cons_ne_nil c t) (.cons hc hg)
  | next _ hg ht => exact .next (List.cons_ne_nil c _) (.cons hc hg) ht

theorem IsNumeral.exists_cons (h : IsNumeral t ds) : ∃ c r d, t = c :: r ∧ IsDigit c d := by
  cases h with
  | group hne hg =>
      cases hg with
      | nil => exact absurd rfl hne
      | cons hc _ => exact ⟨_, _, _, rfl, hc⟩
  | next hne hg _ =>
      cases hg with
      | nil => exact absurd rfl hne
      | cons hc _ => exact ⟨_, _, _, rfl, hc⟩

theorem isNumeral_of_digits? (h : digits? t = some ds) : IsNumeral t ds := by
  induction t using digits?.induct generalizing ds with
  | case1 => cases h
  | case2 c =>
      obtain ⟨d, hd, rfl⟩ := Option.map_eq_some_iff.mp h
      exact .group (List.cons_ne_nil c []) (.cons (digit?_eq_some_iff.mp hd) .nil)
  | case3 c r ih =>
      obtain ⟨d, hd, h⟩ := Option.bind_eq_some_iff.mp h
      obtain ⟨es, hes, h⟩ := Option.bind_eq_some_iff.mp h
      cases h
      exact .next (List.cons_ne_nil c []) (.cons (digit?_eq_some_iff.mp hd) .nil) (ih hes)
  | case4 c r hne hus ih =>
      rw [digits?.eq_4 _ _ hne hus] at h
      obtain ⟨d, hd, h⟩ := Option.bind_eq_some_iff.mp h
      obtain ⟨es, hes, h⟩ := Option.bind_eq_some_iff.mp h
      cases h
      exact (ih hes).cons (digit?_eq_some_iff.mp hd)

theorem digits?_cons (hc : IsDigit c d) (h : digits? t = some ds) :
    digits? (c :: t) = some (d :: ds) := by
  obtain ⟨b, r, e, rfl, hb⟩ := (isNumeral_of_digits? h).exists_cons
  have hunderscore : ∀ r', b :: r = '_' :: r' → False := by
    rintro r' ⟨⟩
    exact hb.notMem (by simp)
  rw [digits?.eq_4 c _ (List.cons_ne_nil b r) hunderscore, digit?_eq_some_iff.mpr hc, h]
  rfl

theorem digits?_next (hc : IsDigit c d) (h : digits? t = some ds) :
    digits? (c :: '_' :: t) = some (d :: ds) := by
  rw [digits?, digit?_eq_some_iff.mpr hc, h]
  rfl

theorem digits?_eq_some_iff : digits? t = some ds ↔ IsNumeral t ds := by
  refine ⟨isNumeral_of_digits?, fun h => ?_⟩
  induction h with
  | group hne hg =>
      induction hg with
      | nil => exact absurd rfl hne
      | @cons c d g ds hc hg ih =>
          cases hg with
          | nil => rw [digits?, digit?_eq_some_iff.mpr hc]; rfl
          | cons => exact digits?_cons hc (ih (List.cons_ne_nil _ _))
  | next hne hg ht ih =>
      induction hg with
      | nil => exact absurd rfl hne
      | @cons c d g ds hc hg ihg =>
          cases hg with
          | nil => exact digits?_next hc ih
          | cons => exact digits?_cons hc (ihg (List.cons_ne_nil _ _))

/-! ## Integers -/

/-- The decimal value of digits, the most significant first. -/
def decimalValue (ds : List Nat) : Nat := Nat.ofDigits 10 ds.reverse

theorem ofDigits_eq_decimalValue (ds : List Nat) : ofDigits ds = decimalValue ds := by
  induction ds using List.reverseRecOn with
  | nil => rfl
  | append_singleton ds d ih =>
      rw [decimalValue, List.reverse_append, List.reverse_singleton, List.singleton_append,
        Nat.ofDigits_cons, ← decimalValue, ← ih, ofDigits, List.foldl_append]
      exact Nat.add_comm _ _

/-- A numeral of few enough digits after at most one sign, with its value. -/
inductive IsInteger : List Char → Int → Prop
  | plain {t : List Char} {ds : List Nat} :
      IsNumeral t ds → ds.length ≤ maxDigits → IsInteger t (decimalValue ds)
  | plus {t : List Char} {ds : List Nat} :
      IsNumeral t ds → ds.length ≤ maxDigits → IsInteger ('+' :: t) (decimalValue ds)
  | minus {t : List Char} {ds : List Nat} :
      IsNumeral t ds → ds.length ≤ maxDigits → IsInteger ('-' :: t) (-(decimalValue ds : Int))

theorem natural?_eq_some_iff {n : Nat} : natural? t = some n ↔
    ∃ ds, IsNumeral t ds ∧ ds.length ≤ maxDigits ∧ decimalValue ds = n := by
  simp only [natural?, Option.bind_eq_some_iff, Option.ite_none_right_eq_some, Option.some.injEq,
    digits?_eq_some_iff, ofDigits_eq_decimalValue]

theorem integer?_eq_some_iff : integer? t = some v ↔ IsInteger t v := by
  constructor
  · intro h
    unfold integer? at h
    split at h
    · obtain ⟨n, hn, rfl⟩ := Option.map_eq_some_iff.mp h
      obtain ⟨ds, hds, hlen, rfl⟩ := natural?_eq_some_iff.mp hn
      exact .minus hds hlen
    · obtain ⟨n, hn, rfl⟩ := Option.map_eq_some_iff.mp h
      obtain ⟨ds, hds, hlen, rfl⟩ := natural?_eq_some_iff.mp hn
      exact .plus hds hlen
    · obtain ⟨n, hn, rfl⟩ := Option.map_eq_some_iff.mp h
      obtain ⟨ds, hds, hlen, rfl⟩ := natural?_eq_some_iff.mp hn
      exact .plain hds hlen
  · intro h
    cases h with
    | @plain t ds ht hlen =>
        have hn := natural?_eq_some_iff.mpr ⟨ds, ht, hlen, rfl⟩
        obtain ⟨c, r, d, rfl, hc⟩ := ht.exists_cons
        unfold integer?
        split
        · rename_i heq
          cases heq
          exact absurd (by simp) hc.notMem
        · rename_i heq
          cases heq
          exact absurd (by simp) hc.notMem
        · rw [hn]; rfl
    | @plus t ds ht hlen =>
        rw [integer?, natural?_eq_some_iff.mpr ⟨ds, ht, hlen, rfl⟩]
        rfl
    | @minus t ds ht hlen =>
        rw [integer?, natural?_eq_some_iff.mpr ⟨ds, ht, hlen, rfl⟩]
        rfl

end TankArena.Text
