import TankArena.Proofs.Script.Shape

/-!
# Reading written statements that hold no other

Such a statement is written as a row of words with single blanks between them, and is read back from
it. The words hold no blank, no terminator and no part of a comment sign.
-/

namespace TankArena.Script

open Text

/-! ## Characters of words -/

/-- A character of a written word: no blank, no terminator and no part of a comment sign. -/
def isPlain (c : Char) : Bool := !isBlank c && c != ';' && c != '/'

structure IsPlainWord (w : List Char) : Prop where
  ne_nil : w ≠ []
  plain : ∀ c ∈ w, isPlain c = true

theorem IsPlainWord.isWord {w : List Char} (h : IsPlainWord w) : IsWord w := by
  refine ⟨h.ne_nil, fun c hc => ?_⟩
  have := h.plain c hc
  simp only [isPlain, Bool.and_eq_true, Bool.not_eq_true'] at this
  exact this.1.1

theorem toNat_of_isAlpha {c : Char} (h : c.isAlpha = true) :
    65 ≤ c.toNat ∧ c.toNat ≤ 90 ∨ 97 ≤ c.toNat ∧ c.toNat ≤ 122 := by
  have h : (decide (65 ≤ c.val ∧ c.val ≤ 90) ||
      decide (97 ≤ c.val) && decide (c.val ≤ 122)) = true := h
  simp only [Bool.or_eq_true, Bool.and_eq_true, decide_eq_true_eq, UInt32.le_iff_toNat_le] at h
  exact h

theorem toNat_of_isDigit {c : Char} (h : c.isDigit = true) : 48 ≤ c.toNat ∧ c.toNat ≤ 57 := by
  simp only [Char.isDigit, Bool.and_eq_true, decide_eq_true_eq, UInt32.le_iff_toNat_le,
    ge_iff_le] at h
  exact h

theorem toNat_of_isNameChar {c : Char} (h : isNameChar c = true) :
    48 ≤ c.toNat ∧ c.toNat ≤ 57 ∨ 65 ≤ c.toNat ∧ c.toNat ≤ 90 ∨ c.toNat = 95 ∨
      97 ≤ c.toNat ∧ c.toNat ≤ 122 := by
  simp only [isNameChar, Char.isAlphanum, Bool.or_eq_true, beq_iff_eq] at h
  rcases h with (h | h) | rfl
  · rcases toNat_of_isAlpha h with h | h
    · exact .inr (.inl h)
    · exact .inr (.inr (.inr h))
  · exact .inl (toNat_of_isDigit h)
  · exact .inr (.inr (.inl rfl))

theorem isBlank_of_isNameChar {c : Char} (h : isNameChar c = true) : isBlank c = false := by
  have := toNat_of_isNameChar h
  simp only [isBlank, Bool.or_eq_false_iff, Bool.and_eq_false_iff, decide_eq_false_iff_not,
    beq_eq_false_iff_ne]
  omega

theorem isNameChar_of_isBlank {c : Char} (h : isBlank c = true) : isNameChar c = false := by
  rw [Bool.eq_false_iff]
  intro hc
  rw [isBlank_of_isNameChar hc] at h
  cases h

theorem isPlain_of_isLooseNameChar {c : Char} (h : isLooseNameChar c = true) : isPlain c = true := by
  unfold isLooseNameChar at h
  simp only [isPlain, Bool.and_eq_true, Bool.not_eq_true', bne_iff_ne]
  refine ⟨⟨?_, ?_⟩, ?_⟩
  · exact isBlank_of_capital rfl (isBlank_of_isNameChar h)
  · rintro rfl; exact absurd h (by decide)
  · rintro rfl; exact absurd h (by decide)

/-- In a name the letters are ASCII, and their capitals are the usual ones. -/
theorem capital_of_isNameChar {c : Char} (h : isNameChar c = true) : capital c = c.toUpper := by
  have hne (d : Char) (hd : 127 < d.toNat) : c ≠ d := by
    rintro rfl
    have := toNat_of_isNameChar h
    omega
  simp [capital, hne '\u0131' (by decide), hne '\u0130' (by decide), hne '\u017F' (by decide),
    hne '\u212A' (by decide)]

theorem isNameChar_of_isName {t : List Char} (h : isName t = true) : ∀ c ∈ t, isNameChar c = true := by
  cases t with
  | nil => cases h
  | cons c t =>
      simp only [isName, Bool.and_eq_true, List.all_eq_true] at h
      intro d hd
      rcases List.mem_cons.mp hd with rfl | hd
      · have := h.1
        simp only [isNameStart, isNameChar, Char.isAlphanum, Bool.or_eq_true] at this ⊢
        exact this.elim (fun h => .inl (.inl h)) .inr
      · exact h.2 d hd

theorem isPlain_of_isNameChar {c : Char} (h : isNameChar c = true) : isPlain c = true := by
  simp only [isPlain, isBlank_of_isNameChar h, Bool.not_false, Bool.true_and, Bool.and_eq_true,
    bne_iff_ne]
  constructor
  · rintro rfl; exact absurd h (by decide)
  · rintro rfl; exact absurd h (by decide)

theorem isPlainWord_of_isName {t : List Char} (h : isName t = true) : IsPlainWord t :=
  ⟨fun hnil => absurd h (by rw [hnil]; decide),
    fun c hc => isPlain_of_isNameChar (isNameChar_of_isName h c hc)⟩

theorem isLooseNameChar_of_isLooseName {t : List Char} (h : isLooseName t = true) :
    ∀ c ∈ t, isLooseNameChar c = true := fun _ hc =>
  isNameChar_of_isName h _ (List.mem_map_of_mem hc)

theorem isPlainWord_of_isLooseName {t : List Char} (h : isLooseName t = true) : IsPlainWord t := by
  refine ⟨fun hnil => ?_, fun c hc => ?_⟩
  · rw [hnil] at h; cases h
  · exact isPlain_of_isLooseNameChar (isLooseNameChar_of_isLooseName h c hc)

/-! ## Expressions -/

/-- A written expression starts with a dollar sign, a minus sign or a digit. -/
theorem Expr.exists_text_eq_cons (e : Expr) :
    ∃ c t, e.text.toList = c :: t ∧ (c = '$' ∨ c = '-' ∨ c.isDigit = true) := by
  rcases e with n | name
  · obtain ⟨c, t, hc⟩ := List.exists_cons_of_ne_nil (decimal_ne_nil n)
    exact ⟨c, t, hc, .inr (mem_decimal (hc ▸ List.mem_cons_self))⟩
  · exact ⟨'$', name.toList, by simp [Expr.text], .inl rfl⟩

theorem Expr.text_append_ne (e : Expr) (u r : List Char) : e.text.toList ++ u ≠ '=' :: r := by
  intro h
  obtain ⟨c, t, hc, hsign⟩ := e.exists_text_eq_cons
  rw [hc] at h
  obtain ⟨rfl, -⟩ := List.cons.inj h
  rcases hsign with h | h | h <;> cases h

theorem Expr.Legible.isPlainWord {e : Expr} (h : e.Legible) : IsPlainWord e.text.toList := by
  rcases e with n | name
  · refine ⟨decimal_ne_nil n, fun c hc => ?_⟩
    rcases mem_decimal hc with rfl | hc
    · decide
    · exact isPlain_of_isNameChar (by simp [isNameChar, Char.isAlphanum, hc])
  · have hw := isPlainWord_of_isName h
    simp only [Expr.text, String.toList_append]
    refine ⟨by simp, fun c hc => ?_⟩
    rcases List.mem_append.mp hc with hc | hc
    · rw [List.mem_singleton.mp hc]; decide
    · exact hw.plain c hc

theorem variableName?_decimal (n : Int) : variableName? (decimal n).toList = none := by
  unfold variableName?
  split
  · rename_i name hc
    have hmem : '$' ∈ (decimal n).toList := hc ▸ List.mem_cons_self
    rcases mem_decimal hmem with h | h <;> cases h
  · rfl

theorem Expr.Legible.ofChars_text {e : Expr} (h : e.Legible) : Expr.ofChars e.text.toList = e := by
  unfold Expr.ofChars
  rw [h.isPlainWord.isWord.isTidy.trim_eq]
  rcases e with n | name
  · simp only [Expr.text, variableName?_decimal, integer?_decimal h, Option.getD_some]
  · have hname : isName name.toList = true := h
    have htext : (Expr.variable name).text.toList = '$' :: name.toList := by simp [Expr.text]
    simp only [htext, variableName?, hname, ↓reduceIte, String.ofList_toList]

theorem capital_of_isDigit {c : Char} (h : c.isDigit = true) : capital c = c := by
  rw [capital_of_isNameChar (by simp [isNameChar, Char.isAlphanum, h])]
  refine dif_neg ?_
  rintro ⟨hlow, -⟩
  have hlow : 97 ≤ c.toNat := UInt32.le_iff_toNat_le.mp hlow
  have := (Char.isDigit_iff_toNat.mp h).2
  simp only [Char.reduceToNat] at this
  omega

/-- No written expression is a keyword. -/
theorem Expr.isKeyword_text (e : Expr) {k : List Char} (hk : k.head?.any Char.isAlpha = true) :
    isKeyword k e.text.toList = false := by
  obtain ⟨c, t, hc, hsign⟩ := e.exists_text_eq_cons
  rw [hc, Bool.eq_false_iff]
  intro h
  obtain rfl := isKeyword_iff.mp h
  have hk : (capital c).isAlpha = true := hk
  rcases hsign with rfl | rfl | hdigit
  · exact absurd hk (by decide)
  · exact absurd hk (by decide)
  · rw [capital_of_isDigit hdigit] at hk
    have hletter := toNat_of_isAlpha hk
    have hnumber := toNat_of_isDigit hdigit
    omega

/-! ## Statements that hold no other -/

/-- The words of a written statement that holds no other. -/
def Stmt.words : Stmt → List (List Char)
  | .assign name value => [name.toList, ['='], value.text.toList]
  | .move amount course => ["MOVE".toList, amount.text.toList, course.name.toList]
  | .turn side => ["TURN".toList, side.name.toList]
  | .scan => ["SCAN_FOR_ENEMY".toList]
  | .attack => ["ATTACK".toList]
  | .call name => ["CALL".toList, name.toList]
  | .ifThen .. | .ifElse .. | .noop | .function .. => []

theorem Stmt.IsSimple.bare_eq {s : Stmt} (h : s.IsSimple) : s.bare.toList = sentence s.words := by
  cases s with
  | ifThen => exact h.elim
  | ifElse => exact h.elim
  | function => exact h.elim
  | _ => simp [Stmt.bare, Stmt.words, sentence, List.intercalate]

theorem isPlainWord_courseName (course : Course) : IsPlainWord course.name.toList := by
  cases course <;> exact ⟨by decide, by decide⟩

theorem isPlainWord_sideName (side : Side) : IsPlainWord side.name.toList := by
  cases side <;> exact ⟨by decide, by decide⟩

theorem Stmt.IsSimple.isPlainWord {s : Stmt} (h : s.IsSimple) : ∀ w ∈ s.words, IsPlainWord w := by
  cases s with
  | assign name value =>
      simp only [Stmt.words, List.forall_mem_cons]
      exact ⟨isPlainWord_of_isName h.1, ⟨by decide, by decide⟩, h.2.isPlainWord, by simp⟩
  | move amount course =>
      have hamount : amount.Legible := h
      simp only [Stmt.words, List.forall_mem_cons]
      exact ⟨⟨by decide, by decide⟩, hamount.isPlainWord, isPlainWord_courseName course, by simp⟩
  | turn side =>
      simp only [Stmt.words, List.forall_mem_cons]
      exact ⟨⟨by decide, by decide⟩, isPlainWord_sideName side, by simp⟩
  | scan => simp only [Stmt.words, List.forall_mem_cons]; exact ⟨⟨by decide, by decide⟩, by simp⟩
  | attack => simp only [Stmt.words, List.forall_mem_cons]; exact ⟨⟨by decide, by decide⟩, by simp⟩
  | call name =>
      simp only [Stmt.words, List.forall_mem_cons]
      exact ⟨⟨by decide, by decide⟩, isPlainWord_of_isLooseName h, by simp⟩
  | _ => simp [Stmt.words]

theorem Stmt.IsSimple.words_ne_nil {s : Stmt} (h : s.IsSimple) (hne : s ≠ .noop) : s.words ≠ [] := by
  cases s with
  | noop => exact absurd rfl hne
  | ifThen => exact h.elim
  | ifElse => exact h.elim
  | function => exact h.elim
  | _ => simp [Stmt.words]

theorem assignment?_word {w t : List Char} (hw : ∀ c ∈ w, isNameChar c = true) (ht : StartsBlank t) :
    assignment? (w ++ t) =
      match trimStart t with
      | '=' :: r =>
        if isName w && trimStart r ≠ [] && !(trimStart r).contains '\n' then some (w, trimStart r)
        else none
      | _ => none := by
  have hstop : t.takeWhile isNameChar = [] ∧ t.dropWhile isNameChar = t := by
    cases t with
    | nil => exact ⟨rfl, rfl⟩
    | cons c t => simp [isNameChar_of_isBlank (ht c t rfl)]
  have hname : (w ++ t).takeWhile isNameChar = w := by
    rw [List.takeWhile_append_of_pos hw, hstop.1, List.append_nil]
  have hrest : (w ++ t).dropWhile isNameChar = t := by
    rw [List.dropWhile_append_of_pos hw, hstop.2]
  unfold assignment?
  generalize (w ++ t).takeWhile isNameChar = name at hname ⊢
  generalize (w ++ t).dropWhile isNameChar = rest at hrest ⊢
  subst hname hrest
  rfl

/-- A word and a text with no equals sign in front are no assignment. -/
theorem assignment?_eq_none {w t : List Char} (hw : ∀ c ∈ w, isNameChar c = true)
    (ht : StartsSolid t) (hne : ∀ r, t ≠ '=' :: r) : assignment? (w ++ ' ' :: t) = none := by
  rw [assignment?_word hw (startsBlank_cons.mpr (by decide)), trimStart_blank (by decide),
    trimStart_eq_self ht]
  split
  · rename_i r
    exact absurd rfl (hne r)
  · rfl

theorem assignment?_assign {name value : List Char} (hname : isName name = true)
    (hvalue : IsWord value) :
    assignment? (name ++ ' ' :: '=' :: ' ' :: value) = some (name, value) := by
  have hsolid := hvalue.isTidy.front
  have hline : value.contains '\n' = false := by simpa using hvalue.newline_notMem
  rw [assignment?_word (isNameChar_of_isName hname) (startsBlank_cons.mpr (by decide)),
    trimStart_blank (by decide), trimStart_eq_self (startsSolid_cons.mpr (by decide))]
  simp only [trimStart_blank (show isBlank ' ' = true by decide), trimStart_eq_self hsolid, hname,
    hvalue.ne_nil, hline, ne_eq, not_false_eq_true, decide_true, Bool.not_false, Bool.and_self,
    ↓reduceIte]

theorem move?_move {amount word : List Char} (hamount : IsWord amount) (hword : IsWord word)
    (hc : isOneOf courseWords word = true) :
    move? ("MOVE".toList ++ ' ' :: (amount ++ ' ' :: word)) = some (amount, word) := by
  have hsolid := hword.isTidy.front
  have hguard := guarded_blanks fun (amount word : List Char) =>
    if isOneOf courseWords word then some (amount, word) else none
  have hlast := longest_word ((hguard.append amount).cons ' ') hword []
  rw [List.append_nil] at hlast
  unfold move?
  rw [afterKeyword?_append _ (by decide), Option.bind_some,
    blanks_one (by decide) hamount.startsSolid, longest_word hguard hamount,
    longest_blank (hguard.append amount) hsolid hword.ne_nil, hlast,
    blanks_one (by decide) hsolid, if_pos hc]
  rfl

theorem Course.read_name (course : Course) : Course.read course.name.toList = .ok course := by
  cases course <;> rfl

theorem isOneOf_courseName (course : Course) : isOneOf courseWords course.name.toList = true := by
  cases course <;> decide

theorem move?_of_head {c : Char} (hc : capital c ≠ 'M') (t : List Char) : move? (c :: t) = none := by
  simp [move?, afterKeyword?, hc]

theorem turn?_of_head {c : Char} (hc : capital c ≠ 'T') (t : List Char) : turn? (c :: t) = none := by
  simp [turn?, afterWord?, afterKeyword?, hc]

theorem isScan_of_head {c : Char} (hc : capital c ≠ 'S') (t : List Char) :
    isScan (c :: t) = false := by
  simp [isScan, isKeyword, hc]

/-- Such a text has none of the forms before a call. -/
theorem readPlain_of_head {c : Char} {t : List Char} (ht : t.head? = some c)
    (ha : assignment? t = none) (hc : capital c ∉ ['M', 'T', 'S', 'A']) :
    readPlain t = .ok (((call? t).map fun name => .call (String.ofList name)).getD .noop) := by
  simp only [List.mem_cons, List.not_mem_nil, or_false, not_or] at hc
  obtain ⟨hm, ht', hs, hat⟩ := hc
  obtain ⟨r, rfl⟩ := List.head?_eq_some_iff.mp ht
  have hattack : isAttack (c :: r) = false := by simp [isAttack, isKeyword, hat]
  cases hcall : call? (c :: r) <;>
    simp only [readPlain, ha, move?_of_head hm, turn?_of_head ht', isScan_of_head hs, hattack, hcall,
      Bool.false_eq_true, ↓reduceIte, Option.map_none, Option.map_some, Option.getD_none,
      Option.getD_some]

theorem readPlain_noop {c : Char} {t : List Char} (ht : t.head? = some c)
    (ha : assignment? t = none) (hc : capital c ∉ ['M', 'T', 'S', 'A', 'C']) : readPlain t = .ok .noop := by
  simp only [List.mem_cons, List.not_mem_nil, or_false, not_or] at hc
  have hcall : call? t = none := by
    obtain ⟨r, rfl⟩ := List.head?_eq_some_iff.mp ht
    simp [call?, afterWord?, afterKeyword?, hc]
  rw [readPlain_of_head ht ha (by simp [hc]), hcall, Option.map_none, Option.getD_none]

theorem call?_call {name : List Char} (h : isLooseName name = true) :
    call? ("CALL".toList ++ ' ' :: name) = some name := by
  have hw := (isPlainWord_of_isLooseName h).isWord
  have hsolid := hw.isTidy.front
  have hblank : isBlank ' ' = true := by decide
  unfold call? afterWord?
  rw [afterKeyword?_append _ (by decide)]
  simp only [hblank, ↓reduceIte, trimStart_eq_self hsolid]
  rw [Option.filter_some, if_pos h]

theorem readPlain_move {amount : Expr} (h : amount.Legible) (course : Course) :
    readPlain ("MOVE".toList ++ ' ' :: (amount.text.toList ++ ' ' :: course.name.toList)) =
      .ok (.move amount course) := by
  have hassign : assignment? ("MOVE".toList ++
      ' ' :: (amount.text.toList ++ ' ' :: course.name.toList)) = none := by
    refine assignment?_eq_none (by decide) h.isPlainWord.isWord.startsSolid ?_
    exact amount.text_append_ne _
  rw [readPlain, hassign, move?_move h.isPlainWord.isWord (isPlainWord_courseName course).isWord
    (isOneOf_courseName course)]
  simp only [Course.read_name, h.ofChars_text]
  rfl

theorem readPlain_call {name : String} (h : isLooseName name.toList = true) :
    readPlain ("CALL".toList ++ ' ' :: name.toList) = .ok (.call name) := by
  have hword := (isPlainWord_of_isLooseName h).isWord
  have hassign : assignment? ("CALL".toList ++ ' ' :: name.toList) = none := by
    refine assignment?_eq_none (by decide) hword.isTidy.front ?_
    intro r hr
    have := isLooseNameChar_of_isLooseName h '=' (hr ▸ List.mem_cons_self)
    cases this
  rw [readPlain_of_head (c := 'C') rfl hassign (by decide), call?_call h, Option.map_some,
    Option.getD_some, String.ofList_toList]

theorem Stmt.IsSimple.readPlain_bare {s : Stmt} (h : s.IsSimple) (hne : s ≠ .noop) :
    readPlain s.bare.toList = .ok s := by
  cases s with
  | assign name value =>
      have hbare : (Stmt.assign name value).bare.toList =
          name.toList ++ ' ' :: '=' :: ' ' :: value.text.toList := by simp [Stmt.bare]
      rw [hbare, readPlain, assignment?_assign h.1 h.2.isPlainWord.isWord]
      simp only [String.ofList_toList, h.2.ofChars_text]
  | move amount course =>
      have hbare : (Stmt.move amount course).bare.toList =
          "MOVE".toList ++ ' ' :: (amount.text.toList ++ ' ' :: course.name.toList) := by
        simp [Stmt.bare]
      rw [hbare]
      exact readPlain_move h course
  | turn side => cases side <;> rfl
  | scan => rfl
  | attack => rfl
  | call name =>
      have hbare : (Stmt.call name).bare.toList = "CALL".toList ++ ' ' :: name.toList := by
        simp [Stmt.bare]
      rw [hbare]
      exact readPlain_call h
  | noop => exact absurd rfl hne
  | ifThen => exact h.elim
  | ifElse => exact h.elim
  | function => exact h.elim

end TankArena.Script
