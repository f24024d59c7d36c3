import TankArena.Proofs.Script.Pieces
import TankArena.Proofs.Script.Plain

/-!
# The width of gaps

What is read from a line does not depend on how wide the gaps between its words are, but for the gap
in the place of a missing operand: between MOVE and a course word or between IF and THEN, where three
blanks are read as an operand and fewer are not.
-/

namespace TankArena.Script

open Text

/-! ## Functions of the words alone -/

/-- A function of a text that does not see how wide a gap in it is. -/
def Insensitive {β : Type} (f : List Char → β) : Prop :=
  ∀ p q g g', IsGap g → IsGap g' → f (p ++ (g ++ q)) = f (p ++ (g' ++ q))

variable {β : Type} {p q g : List Char}

theorem gap_eq_false {P : List Char → Bool} (hP : Wordy P) (hg : IsGap g) (p q : List Char) :
    P (p ++ (g ++ q)) = false := by
  obtain ⟨c, g, rfl⟩ := List.exists_cons_of_ne_nil hg.ne_nil
  exact hP.eq_false (c := c) (by simp) (hg.blank c List.mem_cons_self)

theorem insensitive_of_wordy {P : List Char → Bool} (hP : Wordy P) : Insensitive P := by
  intro p q g g' hg hg'
  rw [gap_eq_false hP hg, gap_eq_false hP hg']

/-- One gap after the other is changed. -/
theorem Insensitive.spread_eq {f : List Char → β} (hf : Insensitive f) {ps ps' : List Piece}
    (h : ps.map Piece.word = ps'.map Piece.word) (m : List Char) :
    f (m ++ spread ps) = f (m ++ spread ps') := by
  induction ps generalizing ps' m with
  | nil =>
      obtain rfl := List.map_eq_nil_iff.mp h.symm
      rfl
  | cons p ps ih =>
      obtain ⟨p', qs, rfl, hword, hrest⟩ := List.map_eq_cons_iff.mp h.symm
      have htail := ih hrest.symm (m ++ (p'.gap ++ p'.word))
      rw [spread_cons, spread_cons, hf m _ _ _ p.isGap p'.isGap, ← hword]
      simpa using htail

/-! ## A text with a gap in it -/

theorem trimStart_gap (hg : IsGap g) (p q : List Char) :
    trimStart (p ++ (g ++ q)) =
      if trimStart p = [] then trimStart q else trimStart p ++ (g ++ q) := by
  unfold trimStart
  rw [List.dropWhile_append]
  cases hp : p.dropWhile isBlank with
  | nil => simp [List.dropWhile_append_of_pos hg.blank]
  | cons c r => simp

theorem trimEnd_gap (hg : IsGap g) (p q : List Char) :
    trimEnd (p ++ (g ++ q)) = if trimEnd q = [] then trimEnd p else p ++ (g ++ trimEnd q) := by
  have h := congrArg List.reverse (trimStart_gap hg.reverse q.reverse p.reverse)
  simp only [trimStart] at h
  simp only [trimEnd, List.reverse_append, List.append_assoc, List.reverse_eq_nil_iff]
  rw [h]
  split <;> rename_i hq <;> simp [hq]

theorem trim_gap (hg : IsGap g) (p q : List Char) :
    trim (p ++ (g ++ q)) =
      if trimStart p = [] then trim q
      else if trimEnd q = [] then trim p else trimStart p ++ (g ++ trimEnd q) := by
  unfold trim
  rw [trimStart_gap hg]
  split
  · rfl
  · exact trimEnd_gap hg ..

theorem isTidy_trimEnd_of_gap (hg : IsGap g) (h : IsTidy (p ++ (g ++ q))) : IsTidy (trimEnd p) := by
  have hback : StartsSolid (trimEnd p).reverse := by
    rw [trimEnd, List.reverse_reverse]
    exact startsSolid_trimStart _
  cases p with
  | nil =>
      obtain ⟨c, g, rfl⟩ := List.exists_cons_of_ne_nil hg.ne_nil
      have hc := startsSolid_cons.mp h.front
      rw [hg.blank c List.mem_cons_self] at hc
      cases hc
  | cons c p =>
      have hc := startsSolid_cons.mp h.front
      rw [trimEnd_cons hc] at hback ⊢
      exact ⟨by simp, startsSolid_cons.mpr hc, hback⟩

theorem isTidy_trimStart_of_gap (hg : IsGap g) (h : IsTidy (p ++ (g ++ q))) :
    IsTidy (trimStart q) := by
  have hrev : IsTidy (q.reverse ++ (g.reverse ++ p.reverse)) := by
    have : IsTidy (p ++ (g ++ q)).reverse := h.reverse
    simpa using this
  have := (isTidy_trimEnd_of_gap hg.reverse hrev).reverse
  rwa [trimEnd, List.reverse_reverse, List.reverse_reverse] at this

theorem takeWhile_gap {P : Char → Bool} (hP : ∀ c, isBlank c = true → P c = false) (hg : IsGap g)
    (p q : List Char) : (p ++ (g ++ q)).takeWhile P = p.takeWhile P := by
  obtain ⟨c, g, rfl⟩ := List.exists_cons_of_ne_nil hg.ne_nil
  have hc := hP c (hg.blank c List.mem_cons_self)
  induction p with
  | nil => simp [hc]
  | cons d p ih => cases hd : P d <;> simp [hd, ← ih]

theorem dropWhile_gap {P : Char → Bool} (hP : ∀ c, isBlank c = true → P c = false) (hg : IsGap g)
    (p q : List Char) : (p ++ (g ++ q)).dropWhile P = p.dropWhile P ++ (g ++ q) := by
  obtain ⟨c, g, rfl⟩ := List.exists_cons_of_ne_nil hg.ne_nil
  have hc := hP c (hg.blank c List.mem_cons_self)
  induction p with
  | nil => simp [hc]
  | cons d p ih => cases hd : P d <;> simp_all

/-- A keyword ends before a gap. -/
theorem afterKeyword?_gap {k : List Char} (hk : ∀ c ∈ k, isBlank c = false) (hg : IsGap g)
    (p q : List Char) :
    afterKeyword? k (p ++ (g ++ q)) = (afterKeyword? k p).map (· ++ (g ++ q)) := by
  induction k generalizing p with
  | nil => rfl
  | cons d k ih =>
      obtain ⟨hd, hk⟩ := List.forall_mem_cons.mp hk
      cases p with
      | nil =>
          obtain ⟨c, g, rfl⟩ := List.exists_cons_of_ne_nil hg.ne_nil
          have hc := hg.blank c List.mem_cons_self
          have hne : capital c ≠ d := by
            rw [capital_of_isBlank hc]
            rintro rfl
            rw [hd] at hc
            cases hc
          simp [afterKeyword?, hne]
      | cons c p =>
          rw [List.cons_append, afterKeyword?, afterKeyword?]
          split
          · exact ih hk p
          · rfl

/-! ## Expressions -/

/-- A text with a blank inside is no operand. -/
theorem Expr.ofChars_of_blank {t : List Char} {c : Char} (hc : c ∈ trim t) (hblank : isBlank c = true) :
    Expr.ofChars t = .literal 0 := by
  have hvar : variableName? (trim t) = none := by
    unfold variableName?
    split
    · rename_i name ht
      split
      · rename_i hname
        rw [ht] at hc
        have hsolid : isBlank c = false := by
          rcases List.mem_cons.mp hc with rfl | hc
          · decide
          · exact isBlank_of_isNameChar (isNameChar_of_isName hname c hc)
        rw [hsolid] at hblank
        cases hblank
      · rfl
    · rfl
  have hint : integer? (trim t) = none := by
    cases hn : integer? (trim t) with
    | none => rfl
    | some n =>
        rw [isBlank_of_mem_integer? hn c hc] at hblank
        cases hblank
  rw [Expr.ofChars, hvar, hint]
  rfl

theorem insensitive_ofChars : Insensitive Expr.ofChars := by
  intro p q g g' hg hg'
  have hzero (g : List Char) (hg : IsGap g) (hp : trimStart p ≠ []) (hq : trimEnd q ≠ []) :
      Expr.ofChars (p ++ (g ++ q)) = .literal 0 := by
    obtain ⟨c, r, hc⟩ := List.exists_cons_of_ne_nil hg.ne_nil
    refine Expr.ofChars_of_blank (c := c) ?_ (hg.blank c (by simp [hc]))
    rw [trim_gap hg, if_neg hp, if_neg hq]
    simp [hc]
  by_cases hp : trimStart p = []
  · unfold Expr.ofChars
    rw [trim_gap hg, trim_gap hg', if_pos hp, if_pos hp]
  · by_cases hq : trimEnd q = []
    · unfold Expr.ofChars
      rw [trim_gap hg, trim_gap hg', if_neg hp, if_neg hp, if_pos hq, if_pos hq]
    · rw [hzero g hg hp hq, hzero g' hg' hp hq]

theorem Expr.ofChars_blank {c : Char} (hc : isBlank c = true) : Expr.ofChars [c] = .literal 0 := by
  rw [Expr.ofChars, trim_blank hc]
  rfl

theorem Expr.ofChars_append {b : List Char} (hb : ∀ c ∈ b, isBlank c = true) (t : List Char) :
    Expr.ofChars (t ++ b) = Expr.ofChars t := by
  rw [Expr.ofChars, trim_append_blanks hb, Expr.ofChars]

/-! ## Statements that hold no other -/

theorem Insensitive.trimStart {f : List Char → β} (hf : Insensitive f) :
    Insensitive fun t => f (trimStart t) := by
  intro p q g g' hg hg'
  simp only [trimStart_gap hg, trimStart_gap hg']
  split
  · rfl
  · exact hf _ q g g' hg hg'

/-- The name and the value of an assignment. -/
def assigned? (t : List Char) : Option (List Char × Expr) :=
  (assignment? t).map fun a => (a.1, .ofChars a.2)

/-- What follows a character at the front of a text, read by `f`. -/
def afterChar? (d : Char) (f : List Char → Option β) : List Char → Option β
  | c :: r => if c = d then f r else none
  | [] => none

theorem Insensitive.afterChar? {f : List Char → Option β} (hf : Insensitive f) {d : Char}
    (hd : isBlank d = false) : Insensitive (afterChar? d f) := by
  intro p q g g' hg hg'
  cases p with
  | nil =>
      have hnone (g : List Char) (hg : IsGap g) : Script.afterChar? d f ([] ++ (g ++ q)) = none := by
        obtain ⟨c, g, rfl⟩ := List.exists_cons_of_ne_nil hg.ne_nil
        have hc := hg.blank c List.mem_cons_self
        refine if_neg ?_
        rintro rfl
        rw [hc] at hd
        cases hd
      rw [hnone g hg, hnone g' hg']
  | cons c p =>
      simp only [List.cons_append, Script.afterChar?]
      split
      · exact hf p q g g' hg hg'
      · rfl

/-- What is assigned to a name, of which the text of the value is given. -/
def assignedValue? (name t : List Char) : Option (List Char × Expr) :=
  if isName name && t ≠ [] && !t.contains '\n' then some (name, .ofChars t) else none

theorem insensitive_assignedValue? (name : List Char) : Insensitive (assignedValue? name) := by
  intro p q g g' hg hg'
  have hline (g : List Char) (hg : IsGap g) :
      (p ++ (g ++ q)).contains '\n' = (p ++ q).contains '\n' := by
    simp [hg.inline]
  simp only [assignedValue?, hline g hg, hline g' hg', insensitive_ofChars p q g g' hg hg']
  simp [hg.ne_nil, hg'.ne_nil]

theorem assigned?_eq (t : List Char) : assigned? t =
    afterChar? '=' (fun r => assignedValue? (t.takeWhile isNameChar) (trimStart r))
      (trimStart (t.dropWhile isNameChar)) := by
  simp only [assigned?, assignment?]
  generalize trimStart (t.dropWhile isNameChar) = r
  cases r with
  | nil => rfl
  | cons c r =>
      by_cases hc : c = '='
      · subst hc
        exact apply_ite (Option.map _) ..
      · simp [afterChar?, hc]

theorem insensitive_assigned? : Insensitive assigned? := by
  intro p q g g' hg hg'
  have hname : ∀ c, isBlank c = true → isNameChar c = false := fun c => isNameChar_of_isBlank
  simp only [assigned?_eq, takeWhile_gap hname hg, takeWhile_gap hname hg', dropWhile_gap hname hg,
    dropWhile_gap hname hg']
  exact ((insensitive_assignedValue? _).trimStart.afterChar? (by decide)).trimStart _ q g g' hg hg'

/-- The gap may be the one after the keyword or a later one. -/
theorem Insensitive.afterWord? {f : List Char → Option β} (hf : Insensitive f) {k : String}
    (hk : ∀ c ∈ k.toList, isBlank c = false) :
    Insensitive fun t => (Script.afterWord? k t).bind f := by
  intro p q g g' hg hg'
  cases hr : afterKeyword? k.toList p with
  | none => simp [Script.afterWord?, afterKeyword?_gap hk hg, afterKeyword?_gap hk hg', hr]
  | some r =>
      cases r with
      | nil =>
          have hrest (g : List Char) (hg : IsGap g) :
              Script.afterWord? k (p ++ (g ++ q)) = some (Text.trimStart q) := by
            rw [Script.afterWord?, afterKeyword?_gap hk hg, hr]
            obtain ⟨c, g, rfl⟩ := List.exists_cons_of_ne_nil hg.ne_nil
            obtain ⟨hc, hblank⟩ := List.forall_mem_cons.mp hg.blank
            simp [hc, trimStart_append hblank]
          simp only [hrest g hg, hrest g' hg']
      | cons c r =>
          have hlater := hf.trimStart r q g g' hg hg'
          cases hc : isBlank c <;> simp [Script.afterWord?, afterKeyword?_gap hk hg,
            afterKeyword?_gap hk hg', hr, hc, hlater]

theorem insensitive_filter {P : List Char → Bool} (hP : Wordy P) {k : String}
    (hk : ∀ c ∈ k.toList, isBlank c = false) :
    Insensitive fun t => (Script.afterWord? k t).filter P := by
  have hword : Insensitive fun t => if P t then some t else none := fun p q g g' hg hg' => by
    simp [gap_eq_false hP hg, gap_eq_false hP hg']
  have hbind : (fun t => (Script.afterWord? k t).filter P) =
      fun t => (Script.afterWord? k t).bind fun t => if P t then some t else none := by
    funext t
    cases Script.afterWord? k t <;> rfl
  rw [hbind]
  exact hword.afterWord? hk

theorem insensitive_turn? : Insensitive turn? := by
  refine insensitive_filter (wordy_isOneOf fun k hk => ?_) (by decide)
  simp only [sideWords, List.mem_cons, List.not_mem_nil, or_false] at hk
  rcases hk with rfl | rfl <;> exact ⟨by decide, by decide⟩

theorem insensitive_call? : Insensitive call? :=
  insensitive_filter (fun _ h => (isPlainWord_of_isLooseName h).isWord) (by decide)

theorem insensitive_isScan : Insensitive isScan :=
  insensitive_of_wordy fun _ => isWord_of_isKeyword ⟨by decide, by decide⟩

theorem insensitive_isAttack : Insensitive isAttack :=
  insensitive_of_wordy fun _ => isWord_of_isKeyword ⟨by decide, by decide⟩

/-- The amount and the course word of a move. -/
def moved? (t : List Char) : Option (Expr × List Char) :=
  (move? t).map fun a => (.ofChars a.1, a.2)

/-- What a text is read as depends on its operands and not on how they are written. -/
theorem readPlain_eq_of_parts {t u : List Char} (ha : assigned? t = assigned? u)
    (hm : moved? t = moved? u) (ht : turn? t = turn? u) (hs : isScan t = isScan u)
    (hk : isAttack t = isAttack u) (hc : call? t = call? u) : readPlain t = readPlain u := by
  cases hta : assignment? t with
  | some a =>
      have hu : assigned? u = some (a.1, .ofChars a.2) := by rw [← ha, assigned?, hta, Option.map_some]
      obtain ⟨b, hua, hab⟩ := Option.map_eq_some_iff.mp hu
      obtain ⟨hname, hvalue⟩ := Prod.mk.inj hab
      simp only [readPlain, hta, hua, hname, hvalue]
  | none =>
      have hua : assignment? u = none :=
        Option.map_eq_none_iff.mp (ha.symm.trans (by rw [assigned?, hta, Option.map_none]))
      cases htm : move? t with
      | some a =>
          have hu : moved? u = some (.ofChars a.1, a.2) := by rw [← hm, moved?, htm, Option.map_some]
          obtain ⟨b, hum, hab⟩ := Option.map_eq_some_iff.mp hu
          obtain ⟨hamount, hword⟩ := Prod.mk.inj hab
          simp only [readPlain, hta, hua, htm, hum, hamount, hword]
      | none =>
          have hum : move? u = none :=
            Option.map_eq_none_iff.mp (hm.symm.trans (by rw [moved?, htm, Option.map_none]))
          simp only [readPlain, hta, hua, htm, hum, ht, hs, hk, hc]

/-! ## Lines -/

/-- The second word can only follow the operand of the first. -/
def lacksOperand (v w : List Char) : Bool :=
  isKeyword "IF".toList v && isKeyword "THEN".toList w ||
    isKeyword "MOVE".toList v && isOneOf courseWords w

theorem isWord_of_lacksOperand {v w : List Char} (h : lacksOperand v w = true) :
    IsWord v ∧ IsWord w := by
  rw [lacksOperand, Bool.or_eq_true, Bool.and_eq_true, Bool.and_eq_true] at h
  rcases h with ⟨hv, hw⟩ | ⟨hv, hw⟩
  · exact ⟨isWord_of_isKeyword ⟨by decide, by decide⟩ hv,
      isWord_of_isKeyword ⟨by decide, by decide⟩ hw⟩
  · exact ⟨isWord_of_isKeyword ⟨by decide, by decide⟩ hv, wordy_courseWords w hw⟩

/-- The same words after `before`, with gaps of any width but where an operand is missing. -/
inductive Spaced : (before : List Char) → List Piece → List Piece → Prop
  | nil {v} : Spaced v [] []
  | cons {v p p' ps ps'} : p'.word = p.word →
      (lacksOperand v p.word = true → (3 ≤ p.gap.length ↔ 3 ≤ p'.gap.length)) →
      Spaced p.word ps ps' → Spaced v (p :: ps) (p' :: ps')

variable {v : List Char} {ps ps' : List Piece}

theorem Spaced.map_word (h : Spaced v ps ps') : ps.map Piece.word = ps'.map Piece.word := by
  induction h with
  | nil => rfl
  | cons hword _ _ ih => rw [List.map_cons, List.map_cons, hword, ih]

theorem Spaced.refl (v : List Char) (ps : List Piece) : Spaced v ps ps := by
  induction ps generalizing v with
  | nil => exact .nil
  | cons p ps ih => exact .cons rfl (fun _ => Iff.rfl) (ih p.word)

/-- One gap is replaced. The word before it is at the front of the line or after another gap. -/
theorem Spaced.replace {p p' : Piece} {us vs : List Piece} (hword : p'.word = p.word)
    (hgap : ∀ x u, StartsBlank x.reverse → v ++ spread us = x ++ u → lacksOperand u p.word = true →
      (3 ≤ p.gap.length ↔ 3 ≤ p'.gap.length)) :
    Spaced v (us ++ p :: vs) (us ++ p' :: vs) := by
  induction us generalizing v with
  | nil => exact .cons hword (hgap [] v startsBlank_nil (by simp)) (.refl p.word vs)
  | cons u us ih =>
      refine .cons rfl (fun _ => Iff.rfl) (ih fun x y hx heq => hgap (v ++ (u.gap ++ x)) y ?_ ?_)
      · rw [List.reverse_append, List.reverse_append, List.append_assoc]
        exact hx.append u.isGap.reverse v.reverse
      · rw [spread_cons, heq]
        simp

/-- The amount is a word and more, or a blank where it is missing. -/
theorem Spaced.moved?_eq (h : Spaced v ps ps') (hv : IsWord v) :
    moved? (v ++ spread ps) = moved? (v ++ spread ps') := by
  unfold moved?
  cases hmove : isKeyword "MOVE".toList v with
  | false => rw [move?_of_not_move hv hmove, move?_of_not_move hv hmove]
  | true =>
      cases h with
      | nil => rfl
      | @cons _ p p' ps ps' hword hgap hrest =>
          have hwords := hrest.map_word
          rcases List.eq_nil_or_concat ps with rfl | ⟨qs, q, rfl⟩
          · obtain rfl := List.map_eq_nil_iff.mp hwords.symm
            obtain ⟨c, hc, hleft⟩ := move?_gap hmove p
            obtain ⟨c', hc', hright⟩ := move?_gap hmove p'
            rw [hleft, hright, hword]
            cases hcourse : isOneOf courseWords p.word with
            | false => simp
            | true =>
                rw [lacksOperand, hmove, hcourse] at hgap
                have hwide := hgap (by simp)
                simp only [hwide, and_true]
                split
                · simp [Expr.ofChars_blank hc, Expr.ofChars_blank hc']
                · rfl
          · rw [List.concat_eq_append] at hwords ⊢
            rw [List.map_append] at hwords
            obtain ⟨qs', rs, rfl, hqs, hrs⟩ := List.map_eq_append_iff.mp hwords.symm
            obtain ⟨q', rs, rfl, hq, hnil⟩ := List.map_eq_cons_iff.mp hrs
            obtain rfl := List.map_eq_nil_iff.mp hnil
            have hinit (q : Piece) : ∀ c ∈ q.gap.dropLast, isBlank c = true := fun c hc =>
              q.isGap.blank c (List.dropLast_subset _ hc)
            have hamount := insensitive_ofChars.spread_eq hqs p.word
            rw [move?_spread hmove, move?_spread hmove, hq, hword]
            split
            · rw [← List.append_assoc, ← List.append_assoc]
              simp only [Option.map_some, Expr.ofChars_append (hinit _), hamount]
            · rfl

theorem Spaced.readPlain_eq (h : Spaced v ps ps') (hv : IsWord v) :
    readPlain (v ++ spread ps) = readPlain (v ++ spread ps') :=
  readPlain_eq_of_parts (insensitive_assigned?.spread_eq h.map_word v) (h.moved?_eq hv)
    (insensitive_turn?.spread_eq h.map_word v) (insensitive_isScan.spread_eq h.map_word v)
    (insensitive_isAttack.spread_eq h.map_word v) (insensitive_call?.spread_eq h.map_word v)

/-- A keyword cuts both rows of pieces or none. -/
theorem Spaced.cutAt_cases (h : Spaced v ps ps') (kw : List Char) :
    (cutAt kw ps = none ∧ cutAt kw ps' = none) ∨
    ∃ us q vs us' q' vs', cutAt kw ps = some (us, q, vs) ∧ cutAt kw ps' = some (us', q', vs') ∧
      Spaced v us us' ∧ q'.word = q.word ∧ Spaced q.word vs vs' := by
  induction h with
  | nil => exact .inl ⟨rfl, rfl⟩
  | @cons v p p' ps ps' hword hgap hrest ih =>
      cases hkw : isKeyword kw p.word with
      | true =>
          cases hrest with
          | nil => exact .inl ⟨by simp [cutAt, keyedPiece?], by simp [cutAt, keyedPiece?]⟩
          | @cons _ q q' ps ps' hq _ hrest =>
              refine .inr ⟨[], q, ps, [], q', ps', ?_, ?_, .nil, hq, hrest⟩
              · simp [cutAt, keyedPiece?, hkw]
              · simp [cutAt, keyedPiece?, hword, hkw]
      | false =>
          rw [cutAt_cons_of_not hkw, cutAt_cons_of_not (by rw [hword, hkw])]
          rcases ih with ⟨hl, hr⟩ | ⟨us, q, vs, us', q', vs', hl, hr, hus, hq, hvs⟩
          · exact .inl ⟨by rw [hl]; rfl, by rw [hr]; rfl⟩
          · exact .inr ⟨p :: us, q, vs, p' :: us', q', vs', by rw [hl]; rfl, by rw [hr]; rfl,
              .cons hword hgap hus, hq, hvs⟩

/-- No word has a semicolon in it. -/
def Unterminated (v : List Char) (ps : List Piece) : Prop := ';' ∉ v ∧ ∀ p ∈ ps, ';' ∉ p.word

theorem unterminated_of_notMem (h : ';' ∉ v ++ spread ps) : Unterminated v ps := by
  rw [List.mem_append, not_or] at h
  refine ⟨h.1, fun p hp hm => h.2 ?_⟩
  exact List.mem_flatMap.mpr ⟨p, hp, List.mem_append_right _ hm⟩

theorem Unterminated.readBranch_eq (h : Unterminated v ps) (hv : IsWord v) :
    readBranch (v ++ spread ps) = readPlain (v ++ spread ps) := by
  have hsemi : ';' ∉ v ++ spread ps := by
    rw [List.mem_append, not_or]
    refine ⟨h.1, fun hm => ?_⟩
    obtain ⟨p, hp, hm⟩ := List.mem_flatMap.mp hm
    rcases List.mem_append.mp hm with hm | hm
    · exact absurd (p.isGap.blank _ hm) (by decide)
    · exact h.2 p hp hm
  rw [readBranch, withoutTerminator_of_notMem hsemi, (hv.isTidy_spread ps).trim_eq]

theorem Unterminated.of_cutAt (h : Unterminated v ps) {kw : List Char} {us vs : List Piece} {q : Piece}
    (hcut : cutAt kw ps = some (us, q, vs)) : Unterminated v us ∧ Unterminated q.word vs := by
  obtain ⟨p, rfl⟩ := cutAt_eq_some hcut
  refine ⟨⟨h.1, fun r hr => h.2 r (by simp [hr])⟩, h.2 q (by simp), fun r hr => h.2 r (by simp [hr])⟩

theorem Spaced.unterminated (h : Spaced v ps ps') (hps : Unterminated v ps) : Unterminated v ps' := by
  refine ⟨hps.1, fun p hp => ?_⟩
  have hmem : p.word ∈ ps.map Piece.word := by
    rw [h.map_word]
    exact List.mem_map_of_mem hp
  obtain ⟨q, hq, hword⟩ := List.mem_map.mp hmem
  exact hword ▸ hps.2 q hq

theorem Spaced.readBranch_eq (h : Spaced v ps ps') (hv : IsWord v) (hps : Unterminated v ps) :
    readBranch (v ++ spread ps) = readBranch (v ++ spread ps') := by
  rw [hps.readBranch_eq hv, (h.unterminated hps).readBranch_eq hv, h.readPlain_eq hv]

/-- What a conditional was taken apart to, each part read. -/
def readParts (a : List Char × List Char × Option (List Char)) :
    Expr × Except ReadError Stmt × Option (Except ReadError Stmt) :=
  (.ofChars a.1, readBranch a.2.1, a.2.2.map readBranch)

theorem readLine_eq_of_parts {t u : List Char}
    (hc : (conditional? t).map readParts = (conditional? u).map readParts)
    (hp : readPlain t = readPlain u) : readLine t = readLine u := by
  have heq (t : List Char) : readLine t =
      match (conditional? t).map readParts with
      | some (test, yes, some no) => do
        let yes ← yes
        let no ← no
        return .ifElse test yes no
      | some (test, yes, none) => yes.map (.ifThen test)
      | none => readPlain t := by
    unfold readLine
    cases conditional? t with
    | none => rfl
    | some a =>
        obtain ⟨test, yes, no⟩ := a
        cases no <;> rfl
  rw [heq, heq, hc, hp]

theorem Spaced.branches?_eq (h : Spaced v ps ps') (hv : IsWord v) (hps : Unterminated v ps)
    {test test' : List Char} (htest : Expr.ofChars test = Expr.ofChars test') :
    (branches? test (v ++ spread ps)).map readParts =
      (branches? test' (v ++ spread ps')).map readParts := by
  rw [branches?_spread test hv, branches?_spread test' hv]
  rcases h.cutAt_cases "ELSE".toList with ⟨hl, hr⟩ | ⟨us, q, vs, us', q', vs', hl, hr, hus, hq, hvs⟩
  · rw [hl, hr]
    simp only [Option.map_some, readParts, htest, h.readBranch_eq hv hps, Option.map_none]
  · rw [hl, hr]
    obtain ⟨hyes, hno⟩ := hps.of_cutAt hl
    simp only [Option.map_some, readParts, htest, hus.readBranch_eq hv hyes, hq,
      hvs.readBranch_eq q.isWord hno]

/-- By cases on THEN: the test is a word and more, or a blank where it is missing. -/
theorem Spaced.conditional?_eq (h : Spaced v ps ps') (hv : IsWord v) (hps : Unterminated v ps) :
    (conditional? (v ++ spread ps)).map readParts = (conditional? (v ++ spread ps')).map readParts := by
  cases hif : isKeyword "IF".toList v with
  | false => rw [conditional?_of_not_if hv hif, conditional?_of_not_if hv hif]
  | true =>
      cases h with
      | nil => rfl
      | @cons _ p p' ps ps' hword hgap hrest =>
          have htail : Unterminated p.word ps :=
            ⟨hps.2 p (by simp), fun r hr => hps.2 r (by simp [hr])⟩
          rcases hrest.cutAt_cases "THEN".toList with
            ⟨hl, hr⟩ | ⟨us, q, vs, us', q', vs', hl, hr, hus, hq, hvs⟩
          · obtain ⟨c, hc, hleft⟩ := conditional?_of_not_cutAt (p := p) hif hl
            obtain ⟨c', hc', hright⟩ := conditional?_of_not_cutAt (p := p') hif hr
            have htest : Expr.ofChars [c] = Expr.ofChars [c'] := by
              rw [Expr.ofChars_blank hc, Expr.ofChars_blank hc']
            rw [hleft, hright]
            cases hthen : isKeyword "THEN".toList p.word with
            | false =>
                rw [keyedPiece?_of_not hthen, keyedPiece?_of_not (by rw [hword, hthen])]
                simp
            | true =>
                have hwide := hgap (by rw [lacksOperand, hif, hthen]; rfl)
                cases hrest with
                | nil => simp [keyedPiece?]
                | @cons _ q q' ps ps' hq _ hrest =>
                    have hbranches := hrest.branches?_eq q.isWord
                      ⟨htail.2 q (by simp), fun r hr => htail.2 r (by simp [hr])⟩ htest
                    simp only [keyedPiece?, hword, hthen, hwide, ↓reduceIte, Option.bind_some, hq]
                    split
                    · exact hbranches
                    · rfl
          · rw [conditional?_of_cutAt hif hl, conditional?_of_cutAt hif hr, hq, hword]
            exact hvs.branches?_eq q.isWord (htail.of_cutAt hl).2
              (insensitive_ofChars.spread_eq hus.map_word p.word)

theorem Spaced.readLine_eq (h : Spaced v ps ps') (hv : IsWord v) (hps : Unterminated v ps) :
    readLine (v ++ spread ps) = readLine (v ++ spread ps') :=
  readLine_eq_of_parts (h.conditional?_eq hv hps) (h.readPlain_eq hv)

end TankArena.Script
