import Mathlib.Algebra.Group.Int.Defs
import Mathlib.Algebra.Group.Nat.Defs
import TankArena.Text.Digit

/-!
# Integers read and written

What is read as an integer can be written, and what is written is read as the same integer.
-/

namespace TankArena.Text

/-! ## Reading what is written -/

theorem digit?_of_isDigit {c : Char} (h : c.isDigit = true) : digit? c = some (c.toNat - 48) := by
  obtain ⟨hlo, hhi⟩ := Char.isDigit_iff_toNat.mp h
  simp only [Char.reduceToNat] at hlo hhi
  simp only [digit?, digitZeros, List.find?_cons, hlo, hhi, decide_true, Bool.and_self,
    Option.map_some]

theorem digits?_of_isDigit : (t : List Char) → t ≠ [] → (∀ c ∈ t, c.isDigit = true) →
    digits? t = some (t.map fun c => c.toNat - 48)
  | [], hne, _ => absurd rfl hne
  | [c], _, h => by simp [digits?, digit?_of_isDigit (h c List.mem_cons_self)]
  | c :: d :: t, _, h => by
      have hc := digit?_of_isDigit (h c List.mem_cons_self)
      have hd : d ≠ '_' := by
        rintro rfl
        exact absurd (h '_' (by simp)) (by decide)
      have ih := digits?_of_isDigit (d :: t) (by simp) fun e he => h e (List.mem_cons_of_mem _ he)
      rw [digits?.eq_4 _ _ (by simp) (by rintro r ⟨⟩; exact hd rfl), hc, ih]
      rfl

theorem ofDigits_map (t : List Char) (n : Nat) :
    (t.map fun c => c.toNat - 48).foldl (fun n d => 10 * n + d) n = Nat.ofDigitChars 10 t n := by
  rw [List.foldl_map]
  rfl

theorem natural?_toDigits {n : Nat} (h : (Nat.toDigits 10 n).length ≤ maxDigits) :
    natural? (Nat.toDigits 10 n) = some n := by
  have hd := digits?_of_isDigit (Nat.toDigits 10 n) Nat.toDigits_ne_nil fun c hc =>
    Nat.isDigit_of_mem_toDigits (by decide) (by decide) hc
  simp only [natural?, hd, Option.bind_some, List.length_map, h, ↓reduceIte, Option.some.injEq]
  exact (ofDigits_map _ 0).trans (Nat.ofDigitChars_toDigits (by decide) (by decide))

/-- The first character of a written natural number is no sign. -/
theorem integer?_eq_natural? {t : List Char} (h : ∀ c ∈ t, c.isDigit = true) :
    integer? t = (natural? t).map fun (n : Nat) => (n : Int) := by
  unfold integer?
  split
  · exact absurd (h '-' List.mem_cons_self) (by decide)
  · exact absurd (h '+' List.mem_cons_self) (by decide)
  · rfl

theorem integer?_decimal {n : Int} (h : isWritable n = true) :
    integer? (decimal n).toList = some n := by
  have h' : (Nat.toDigits 10 n.natAbs).length ≤ maxDigits := by simpa [isWritable] using h
  cases n with
  | ofNat n =>
      have hn : natural? (Nat.toDigits 10 n) = some n := natural?_toDigits h'
      rw [decimal, String.toList_ofList, integer?_eq_natural? fun c hc =>
        Nat.isDigit_of_mem_toDigits (by decide) (by decide) hc, hn]
      rfl
  | negSucc n =>
      have hn : natural? (Nat.toDigits 10 (n + 1)) = some (n + 1) := natural?_toDigits h'
      rw [decimal, String.toList_ofList, integer?, hn]
      rfl

theorem mem_decimal {n : Int} {c : Char} (h : c ∈ (decimal n).toList) :
    c = '-' ∨ c.isDigit = true := by
  cases n with
  | ofNat n =>
      rw [decimal, String.toList_ofList] at h
      exact .inr (Nat.isDigit_of_mem_toDigits (by decide) (by decide) h)
  | negSucc n =>
      rw [decimal, String.toList_ofList] at h
      rcases List.mem_cons.mp h with rfl | h
      · exact .inl rfl
      · exact .inr (Nat.isDigit_of_mem_toDigits (by decide) (by decide) h)

theorem notMem_decimal {c : Char} (hc : c ≠ '-') (hd : c.isDigit = false) (n : Int) :
    c ∉ (decimal n).toList := by
  intro h
  rcases mem_decimal h with rfl | h
  · exact hc rfl
  · rw [hd] at h
    cases h

theorem toDigits_inj {m n : Nat} : Nat.toDigits 10 m = Nat.toDigits 10 n ↔ m = n := by
  refine ⟨fun h => ?_, congrArg _⟩
  calc m = Nat.ofDigitChars 10 (Nat.toDigits 10 m) 0 :=
        (Nat.ofDigitChars_toDigits (by decide) (by decide)).symm
    _ = Nat.ofDigitChars 10 (Nat.toDigits 10 n) 0 := by rw [h]
    _ = n := Nat.ofDigitChars_toDigits (by decide) (by decide)

theorem decimal_inj {m n : Int} : decimal m = decimal n ↔ m = n := by
  have hsign (m n : Nat) : Nat.toDigits 10 m ≠ '-' :: Nat.toDigits 10 n := by
    intro h
    have hmem : '-' ∈ Nat.toDigits 10 m := h ▸ List.mem_cons_self
    exact absurd (Nat.isDigit_of_mem_toDigits (by decide) (by decide) hmem) (by decide)
  cases m with
  | ofNat m =>
      cases n with
      | ofNat n => rw [decimal, decimal, String.ofList_inj, toDigits_inj, Int.ofNat.injEq]
      | negSucc n =>
          rw [decimal, decimal, String.ofList_inj]
          exact iff_of_false (hsign m (n + 1)) nofun
  | negSucc m =>
      cases n with
      | ofNat n =>
          rw [decimal, decimal, String.ofList_inj]
          exact iff_of_false (hsign n (m + 1)).symm nofun
      | negSucc n =>
          rw [decimal, decimal, String.ofList_inj, List.cons.injEq, toDigits_inj, Int.negSucc.injEq]
          simp

theorem decimal_ne_nil (n : Int) : (decimal n).toList ≠ [] := by
  cases n with
  | ofNat n => rw [decimal, String.toList_ofList]; exact Nat.toDigits_ne_nil
  | negSucc n => rw [decimal, String.toList_ofList]; exact List.cons_ne_nil _ _

/-! ## Writing what is read -/

theorem digit?_le {c : Char} {d : Nat} (h : digit? c = some d) : d ≤ 9 := by
  obtain ⟨z, hz, rfl⟩ := Option.map_eq_some_iff.mp h
  have := List.find?_some hz
  simp only [Bool.and_eq_true, decide_eq_true_eq] at this
  omega

theorem digits?_eq_some {t : List Char} {ds : List Nat} (h : digits? t = some ds) :
    ds ≠ [] ∧ ∀ d ∈ ds, d ≤ 9 := by
  induction t using digits?.induct generalizing ds with
  | case1 => cases h
  | case2 c =>
      obtain ⟨d, hd, rfl⟩ := Option.map_eq_some_iff.mp h
      exact ⟨by simp, by simpa using digit?_le hd⟩
  | case3 c r ih =>
      obtain ⟨d, hd, h⟩ := Option.bind_eq_some_iff.mp h
      obtain ⟨es, hes, h⟩ := Option.bind_eq_some_iff.mp h
      cases h
      refine ⟨by simp, fun e he => ?_⟩
      rcases List.mem_cons.mp he with rfl | he
      · exact digit?_le hd
      · exact (ih hes).2 e he
  | case4 c r hne hus ih =>
      rw [digits?.eq_4 _ _ hne hus] at h
      obtain ⟨d, hd, h⟩ := Option.bind_eq_some_iff.mp h
      obtain ⟨es, hes, h⟩ := Option.bind_eq_some_iff.mp h
      cases h
      refine ⟨by simp, fun e he => ?_⟩
      rcases List.mem_cons.mp he with rfl | he
      · exact digit?_le hd
      · exact (ih hes).2 e he

theorem foldl_digits_lt {ds : List Nat} (h : ∀ d ∈ ds, d ≤ 9) (n : Nat) :
    ds.foldl (fun n d => 10 * n + d) n < (n + 1) * 10 ^ ds.length := by
  induction ds generalizing n with
  | nil => simp
  | cons d ds ih =>
      have hd := h d List.mem_cons_self
      calc (d :: ds).foldl (fun n d => 10 * n + d) n
          < (10 * n + d + 1) * 10 ^ ds.length :=
            ih (fun e he => h e (List.mem_cons_of_mem _ he)) (10 * n + d)
        _ ≤ ((n + 1) * 10) * 10 ^ ds.length := Nat.mul_le_mul_right _ (by omega)
        _ = (n + 1) * 10 ^ (d :: ds).length := by
            rw [List.length_cons, Nat.pow_succ, Nat.mul_assoc, Nat.mul_comm 10]

theorem natural?_writable {t : List Char} {n : Nat} (h : natural? t = some n) :
    (Nat.toDigits 10 n).length ≤ maxDigits := by
  obtain ⟨ds, hds, h⟩ := Option.bind_eq_some_iff.mp h
  split at h
  · rename_i hlen
    obtain ⟨hne, hle⟩ := digits?_eq_some hds
    have hlt := foldl_digits_lt hle 0
    rw [Nat.zero_add, Nat.one_mul] at hlt
    cases h
    exact Nat.le_trans ((Nat.length_toDigits_le_iff (by decide)
      (List.length_pos_iff.mpr hne)).mpr hlt) hlen
  · cases h

/-- What is read as an integer has few enough digits to be written. -/
theorem isWritable_of_integer? {t : List Char} {n : Int} (h : integer? t = some n) :
    isWritable n = true := by
  unfold integer? at h
  split at h
  all_goals
    obtain ⟨m, hm, rfl⟩ := Option.map_eq_some_iff.mp h
    simpa [isWritable] using natural?_writable hm

theorem isWritable_iff {n : Int} : isWritable n = true ↔ n.natAbs < 10 ^ maxDigits := by
  rw [isWritable, decide_eq_true_iff]
  exact Nat.length_toDigits_le_iff (by decide) (by decide)

/-! ## Blanks in numbers -/

/-- No digit of any script is a blank. -/
theorem isBlank_of_digit? {c : Char} {d : Nat} (h : digit? c = some d) : isBlank c = false := by
  obtain ⟨z, hz, -⟩ := Option.map_eq_some_iff.mp h
  have hrange := List.find?_some hz
  have hapart : ∀ z ∈ digitZeros, 32 < z ∧ (z + 9 < 0x85 ∨ 0xA0 < z) ∧
      (z + 9 < 0x1680 ∨ 0x1680 < z) ∧ (z + 9 < 0x2000 ∨ 0x205F < z) ∧
      (z + 9 < 0x3000 ∨ 0x3000 < z) := by decide
  have := hapart z (List.mem_of_find?_eq_some hz)
  simp only [Bool.and_eq_true, decide_eq_true_eq] at hrange
  simp only [isBlank, Bool.or_eq_false_iff, Bool.and_eq_false_iff, decide_eq_false_iff_not,
    beq_eq_false_iff_ne]
  omega

theorem isBlank_of_mem_digits? {t : List Char} {ds : List Nat} (h : digits? t = some ds) :
    ∀ c ∈ t, isBlank c = false := by
  induction t using digits?.induct generalizing ds with
  | case1 => cases h
  | case2 c =>
      obtain ⟨d, hd, -⟩ := Option.map_eq_some_iff.mp h
      simpa using isBlank_of_digit? hd
  | case3 c r ih =>
      obtain ⟨d, hd, h⟩ := Option.bind_eq_some_iff.mp h
      obtain ⟨es, hes, -⟩ := Option.bind_eq_some_iff.mp h
      simp only [List.forall_mem_cons]
      exact ⟨isBlank_of_digit? hd, by decide, ih hes⟩
  | case4 c r hne hus ih =>
      rw [digits?.eq_4 _ _ hne hus] at h
      obtain ⟨d, hd, h⟩ := Option.bind_eq_some_iff.mp h
      obtain ⟨es, hes, -⟩ := Option.bind_eq_some_iff.mp h
      exact List.forall_mem_cons.mpr ⟨isBlank_of_digit? hd, ih hes⟩

theorem isBlank_of_mem_integer? {t : List Char} {n : Int} (h : integer? t = some n) :
    ∀ c ∈ t, isBlank c = false := by
  have hnat {u : List Char} {m : Nat} (hm : natural? u = some m) : ∀ c ∈ u, isBlank c = false := by
    obtain ⟨ds, hds, -⟩ := Option.bind_eq_some_iff.mp hm
    exact isBlank_of_mem_digits? hds
  unfold integer? at h
  split at h
  · obtain ⟨m, hm, -⟩ := Option.map_eq_some_iff.mp h
    exact List.forall_mem_cons.mpr ⟨by decide, hnat hm⟩
  · obtain ⟨m, hm, -⟩ := Option.map_eq_some_iff.mp h
    exact List.forall_mem_cons.mpr ⟨by decide, hnat hm⟩
  · obtain ⟨m, hm, -⟩ := Option.map_eq_some_iff.mp h
    exact hnat hm

end TankArena.Text
