import TankArena.Proofs.Text.Search

/-!
# Searches through words with any gaps between them

A line without blanks at its ends is a word and then pieces, each a gap and the word after it. A
search for a keyword between blanks stops at the first piece that has the keyword and is not the last.
Only where a gap comes first can its blanks be taken for a part of the text, and it takes three of
them: one before the part, the part and one after it.
-/

namespace TankArena.Text

/-! ## Pieces -/

/-- Blanks between two words of a line. -/
structure IsGap (b : List Char) : Prop where
  ne_nil : b ≠ []
  blank : ∀ c ∈ b, isBlank c = true
  inline : '\n' ∉ b

instance : DecidablePred IsGap := fun b =>
  decidable_of_iff (b ≠ [] ∧ (∀ c ∈ b, isBlank c = true) ∧ '\n' ∉ b)
    ⟨fun ⟨h₁, h₂, h₃⟩ => ⟨h₁, h₂, h₃⟩, fun ⟨h₁, h₂, h₃⟩ => ⟨h₁, h₂, h₃⟩⟩

/-- A gap and the word after it. -/
structure Piece where
  gap : List Char
  word : List Char
  isGap : IsGap gap
  isWord : IsWord word

def spread (ps : List Piece) : List Char := ps.flatMap fun p => p.gap ++ p.word

@[simp] theorem spread_nil : spread [] = [] := rfl

@[simp] theorem spread_cons (p : Piece) (ps : List Piece) :
    spread (p :: ps) = p.gap ++ (p.word ++ spread ps) := by
  simp [spread]

@[simp] theorem spread_append (ps qs : List Piece) : spread (ps ++ qs) = spread ps ++ spread qs := by
  simp [spread]

theorem IsGap.startsBlank {b : List Char} (h : IsGap b) (t : List Char) : StartsBlank (b ++ t) := by
  obtain ⟨c, b, rfl⟩ := List.exists_cons_of_ne_nil h.ne_nil
  rintro d r heq
  obtain ⟨rfl, -⟩ := List.cons.inj heq
  exact h.blank c List.mem_cons_self

theorem StartsBlank.append {a b : List Char} (ha : StartsBlank a) (hb : IsGap b) (t : List Char) :
    StartsBlank (a ++ (b ++ t)) := by
  cases a with
  | nil => exact hb.startsBlank t
  | cons c a =>
      rintro d r heq
      obtain ⟨rfl, -⟩ := List.cons.inj heq
      exact ha c a rfl

theorem IsGap.tail {c : Char} {b : List Char} (h : IsGap (c :: b)) (hne : b ≠ []) : IsGap b :=
  ⟨hne, fun d hd => h.blank d (List.mem_cons_of_mem _ hd),
    fun hm => h.inline (List.mem_cons_of_mem _ hm)⟩

theorem IsGap.reverse {b : List Char} (h : IsGap b) : IsGap b.reverse :=
  ⟨by simpa using h.ne_nil, fun c hc => h.blank c (List.mem_reverse.mp hc), by simpa using h.inline⟩

theorem IsGap.append {a b c : List Char} (hb : IsGap b) (ha : ∀ d ∈ a, isBlank d = true)
    (hc : ∀ d ∈ c, isBlank d = true) (hna : '\n' ∉ a) (hnc : '\n' ∉ c) : IsGap (a ++ (b ++ c)) := by
  refine ⟨by simp [hb.ne_nil], fun d hd => ?_, by simp [hna, hb.inline, hnc]⟩
  simp only [List.mem_append] at hd
  rcases hd with hd | hd | hd
  · exact ha d hd
  · exact hb.blank d hd
  · exact hc d hd

theorem startsBlank_spread (ps : List Piece) : StartsBlank (spread ps) := by
  cases ps with
  | nil => exact startsBlank_nil
  | cons p ps => rw [spread_cons]; exact p.isGap.startsBlank _

theorem newline_notMem_spread (ps : List Piece) : '\n' ∉ spread ps := by
  induction ps with
  | nil => simp
  | cons p ps ih => simp [p.isGap.inline, p.isWord.newline_notMem, ih]

theorem IsWord.newline_notMem_spread {w : List Char} (hw : IsWord w) (ps : List Piece) :
    '\n' ∉ w ++ spread ps := by
  simp [hw.newline_notMem, Text.newline_notMem_spread]

theorem IsWord.isTidy_spread {w : List Char} (hw : IsWord w) (ps : List Piece) :
    IsTidy (w ++ spread ps) := by
  induction ps generalizing w with
  | nil => simpa using hw.isTidy
  | cons p ps ih => rw [spread_cons]; exact hw.isTidy.append (ih p.isWord) p.gap

/-- By induction on the text: a character goes to the front of a word, or it starts a gap. -/
theorem exists_spread_of_back {t : List Char} (ht : StartsSolid t.reverse) (hline : '\n' ∉ t) :
    ∃ w ps, (w = [] ∨ IsWord w) ∧ t = w ++ spread ps := by
  induction t with
  | nil => exact ⟨[], [], .inl rfl, rfl⟩
  | cons c t ih =>
      rw [List.mem_cons, not_or] at hline
      have hback : StartsSolid t.reverse := by
        intro d r hd
        exact ht d (r ++ [c]) (by rw [List.reverse_cons, hd]; rfl)
      obtain ⟨w, ps, hw, rfl⟩ := ih hback hline.2
      cases hc : isBlank c with
      | false =>
          refine ⟨c :: w, ps, .inr ⟨by simp, fun d hd => ?_⟩, rfl⟩
          rcases List.mem_cons.mp hd with rfl | hd
          · exact hc
          · rcases hw with rfl | hw
            · cases hd
            · exact hw.solid d hd
      | true =>
          have hgap : IsGap [c] := ⟨by simp, by simpa using hc, by simpa using hline.1⟩
          rcases hw with rfl | hw
          · cases ps with
            | nil => exact absurd (ht c [] rfl) (by simp [hc])
            | cons p ps =>
                refine ⟨[], ⟨c :: p.gap, p.word, ?_, p.isWord⟩ :: ps, .inl rfl, by simp⟩
                exact ⟨by simp, List.forall_mem_cons.mpr ⟨hc, p.isGap.blank⟩,
                  by simpa using ⟨hline.1, p.isGap.inline⟩⟩
          · exact ⟨[], ⟨[c], w, hgap, hw⟩ :: ps, .inl rfl, by simp⟩

/-- Every tidy line is a word and pieces. -/
theorem IsTidy.exists_spread {t : List Char} (h : IsTidy t) (hline : '\n' ∉ t) :
    ∃ w ps, IsWord w ∧ t = w ++ spread ps := by
  obtain ⟨w, ps, hw, rfl⟩ := exists_spread_of_back h.back hline
  rcases hw with rfl | hw
  · cases ps with
    | nil => exact absurd rfl h.ne_nil
    | cons p ps =>
        obtain ⟨c, b, hb⟩ := List.exists_cons_of_ne_nil p.isGap.ne_nil
        have hsolid := h.front c (b ++ (p.word ++ spread ps)) (by simp [hb])
        rw [p.isGap.blank c (by simp [hb])] at hsolid
        cases hsolid
  · exact ⟨w, ps, hw, rfl⟩

/-! ## Over a gap -/

variable {α : Type}

theorem blanks_gap {f : List Char → Option α} (hf : ∀ c r, isBlank c = true → f (c :: r) = none)
    {b t : List Char} (hb : IsGap b) (ht : StartsSolid t) : blanks f (b ++ t) = f t := by
  induction b with
  | nil => exact absurd rfl hb.ne_nil
  | cons c b ih =>
      have hc := hb.blank c List.mem_cons_self
      cases b with
      | nil => exact blanks_one hc ht
      | cons d b =>
          have hd := hb.blank d (by simp)
          rw [List.cons_append, blanks, if_pos hc, ih (hb.tail (by simp)), List.cons_append,
            hf d _ hd, Option.or_none]

theorem blanks_gap_of_isSome {f : List Char → Option α} {b t : List Char} (hb : IsGap b)
    (ht : StartsSolid t) (h : (f t).isSome = true) : blanks f (b ++ t) = f t := by
  induction b with
  | nil => exact absurd rfl hb.ne_nil
  | cons c b ih =>
      have hc := hb.blank c List.mem_cons_self
      cases b with
      | nil => exact blanks_one hc ht
      | cons d b =>
          rw [List.cons_append, blanks, if_pos hc, ih (hb.tail (by simp)), Option.or_of_isSome h]

theorem blanks_gap_of_none {f : List Char → Option α} {b t : List Char} (hb : IsGap b)
    (ht : StartsSolid t) (h : f t = none) (hgap : ∀ b', IsGap b' → f (b' ++ t) = none) :
    blanks f (b ++ t) = none := by
  induction b with
  | nil => exact absurd rfl hb.ne_nil
  | cons c b ih =>
      have hc := hb.blank c List.mem_cons_self
      cases b with
      | nil => rw [List.singleton_append, blanks_one hc ht, h]
      | cons d b =>
          have hb' := hb.tail (by simp)
          rw [List.cons_append, blanks, if_pos hc, ih hb', Option.none_or, hgap _ hb']

theorem shortest_isSome {k : List Char → List Char → Option α} {t : List Char} (hne : t ≠ [])
    (hline : '\n' ∉ t) (h : (k t []).isSome = true) : (shortest k t).isSome = true := by
  induction t generalizing k with
  | nil => exact absurd rfl hne
  | cons c t ih =>
      rw [List.mem_cons, not_or] at hline
      rw [shortest, if_neg (Ne.symm hline.1), Option.isSome_or, Bool.or_eq_true]
      cases t with
      | nil => exact .inl h
      | cons d t => exact .inr (ih (by simp) hline.2 h)

/-! ## A keyword between blanks -/

variable {kw : List Char} {h : (part rest : List Char) → Option α}

/-- After a part: blanks, a keyword, blanks and what `h` makes of the part and the rest. -/
def keyed (kw : List Char) (h : (part rest : List Char) → Option α) (part : List Char) :
    List Char → Option α :=
  blanks fun t => (afterKeyword? kw t).bind (blanks (h part))

/-- No part of one line is refused. -/
def Accepts (h : (part rest : List Char) → Option α) : Prop :=
  ∀ p t, t ≠ [] → '\n' ∉ t → (h p t).isSome = true

theorem afterKeyword?_blank (hkw : ∀ c ∈ kw, isBlank c = false) (hne : kw ≠ []) {c : Char}
    (hc : isBlank c = true) (t : List Char) : afterKeyword? kw (c :: t) = none := by
  obtain ⟨k, ks, rfl⟩ := List.exists_cons_of_ne_nil hne
  have hk : capital c ≠ k := by
    rw [capital_of_isBlank hc]
    rintro rfl
    rw [hkw c List.mem_cons_self] at hc
    cases hc
  simp [afterKeyword?, hk]

theorem keyed_gap_append (hkw : ∀ c ∈ kw, isBlank c = false) (hne : kw ≠ []) (part : List Char)
    {b t : List Char} (hb : IsGap b) (ht : StartsSolid t) :
    keyed kw h part (b ++ t) = (afterKeyword? kw t).bind (blanks (h part)) :=
  blanks_gap (fun _ _ hc => by rw [afterKeyword?_blank hkw hne hc, Option.bind_none]) hb ht

/-- What follows a part is the keyword and something more. -/
def keyedPiece? (kw : List Char) : List Piece → Option (Piece × List Piece)
  | p :: q :: qs => if isKeyword kw p.word then some (q, qs) else none
  | _ => none

theorem keyedPiece?_of_not {p : Piece} (hp : isKeyword kw p.word = false) (ps : List Piece) :
    keyedPiece? kw (p :: ps) = none := by
  cases ps <;> simp [keyedPiece?, hp]

theorem keyed_spread (hkw : ∀ c ∈ kw, isBlank c = false) (hne : kw ≠ []) (hh : Accepts h)
    (part : List Char) (ps : List Piece) :
    keyed kw h part (spread ps) =
      (keyedPiece? kw ps).bind fun r => h part (r.1.word ++ spread r.2) := by
  cases ps with
  | nil => rfl
  | cons p ps =>
      rw [spread_cons, keyed_gap_append hkw hne part p.isGap p.isWord.startsSolid,
        afterKeyword?_bind_blanks hkw p.isWord.solid (startsBlank_spread ps)]
      cases ps with
      | nil => cases isKeyword kw p.word <;> rfl
      | cons q qs =>
          rw [spread_cons, blanks_gap_of_isSome q.isGap q.isWord.startsSolid, keyedPiece?]
          · cases isKeyword kw p.word <;> rfl
          · refine hh part _ ?_ (q.isWord.newline_notMem_spread qs)
            simp [q.isWord.ne_nil]

/-- The pieces before the first that has the keyword and is not the last, and those after it. -/
def cutAt (kw : List Char) : List Piece → Option (List Piece × Piece × List Piece)
  | [] => none
  | p :: ps =>
    ((keyedPiece? kw (p :: ps)).map fun r => ([], r)).or
      ((cutAt kw ps).map fun r => (p :: r.1, r.2))

theorem cutAt_cons_of_not {p : Piece} (hp : isKeyword kw p.word = false) (ps : List Piece) :
    cutAt kw (p :: ps) = (cutAt kw ps).map fun r => (p :: r.1, r.2) := by
  rw [cutAt, keyedPiece?_of_not hp, Option.map_none, Option.none_or]

theorem cutAt_eq_none {ps : List Piece} (h : ∀ p ∈ ps, isKeyword kw p.word = false) :
    cutAt kw ps = none := by
  induction ps with
  | nil => rfl
  | cons p ps ih =>
      obtain ⟨hp, hps⟩ := List.forall_mem_cons.mp h
      rw [cutAt_cons_of_not hp, ih hps, Option.map_none]

theorem cutAt_append {us : List Piece} (hus : ∀ p ∈ us, isKeyword kw p.word = false) {p : Piece}
    (hp : isKeyword kw p.word = true) (q : Piece) (vs : List Piece) :
    cutAt kw (us ++ p :: q :: vs) = some (us, q, vs) := by
  induction us with
  | nil => simp [cutAt, keyedPiece?, hp]
  | cons u us ih =>
      obtain ⟨hu, hus⟩ := List.forall_mem_cons.mp hus
      rw [List.cons_append, cutAt_cons_of_not hu, ih hus, Option.map_some]

theorem cutAt_eq_some {ps us vs : List Piece} {q : Piece} (h : cutAt kw ps = some (us, q, vs)) :
    ∃ p, ps = us ++ p :: q :: vs := by
  induction ps generalizing us with
  | nil => cases h
  | cons p ps ih =>
      cases hp : isKeyword kw p.word with
      | true =>
          cases ps with
          | nil => simp [cutAt, keyedPiece?] at h
          | cons r ps =>
              simp only [cutAt, keyedPiece?, hp, ↓reduceIte, Option.map_some, Option.some_or,
                Option.some.injEq, Prod.mk.injEq] at h
              obtain ⟨rfl, rfl, rfl⟩ := h
              exact ⟨p, rfl⟩
      | false =>
          rw [cutAt_cons_of_not hp] at h
          obtain ⟨⟨us, q, vs⟩, hcut, h⟩ := Option.map_eq_some_iff.mp h
          cases h
          obtain ⟨r, rfl⟩ := ih hcut
          exact ⟨r, rfl⟩

theorem guarded_keyed (kw : List Char) (h : List Char → List Char → Option α) :
    Guarded (keyed kw h) := guarded_blanks _

/-- A search that accepts no part before the end of a gap goes on after it. -/
theorem shortest_gap {k : List Char → List Char → Option α} (hk : Guarded k) {b t : List Char}
    (hb : IsGap b) (ht : StartsSolid t) (hne : t ≠ [])
    (hnone : ∀ p b', IsGap b' → k p (b' ++ t) = none) :
    shortest k (b ++ t) = shortest (fun p => k (b ++ p)) t := by
  obtain ⟨c, r, hc⟩ := List.exists_cons_of_ne_nil hne
  have hend : k b t = none := by
    rw [hc]
    exact hk b c r (ht c r hc)
  rw [shortest_append_of_none hb.ne_nil hb.inline, hend, Option.none_or]
  intro p b' heq _ hne'
  refine hnone p b' ⟨hne', fun d hd => hb.blank d (by simp [heq, hd]), fun hm => hb.inline ?_⟩
  simp [heq, hm]

/-- Whether a keyword follows does not depend on the width of the gap before it. -/
theorem keyed_gap (hkw : ∀ c ∈ kw, isBlank c = false) (hne : kw ≠ []) (hh : Accepts h)
    (part : List Char) {b : List Char} (hb : IsGap b) (p : Piece) (ps : List Piece) :
    keyed kw h part (b ++ (p.word ++ spread ps)) = keyed kw h part (spread (p :: ps)) := by
  have hwide := keyed_spread hkw hne hh part (⟨b, p.word, hb, p.isWord⟩ :: ps)
  rw [spread_cons] at hwide
  rw [hwide, keyed_spread hkw hne hh]
  cases ps <;> rfl

/-- The part is cut off at the first keyword with something after it; without one all is left to
`fin`. -/
theorem shortest_keyed (hkw : ∀ c ∈ kw, isBlank c = false) (hne : kw ≠ []) (hh : Accepts h)
    (fin : List Char → List Char → Option α) (hfin : ∀ p c r, fin p (c :: r) = none)
    {w : List Char} (hw : IsWord w) (ps : List Piece) :
    shortest (fun p r => (keyed kw h p r).or (fin p r)) (w ++ spread ps) =
      match cutAt kw ps with
      | some (before, q, after) => h (w ++ spread before) (q.word ++ spread after)
      | none => fin (w ++ spread ps) [] := by
  have hguard {h fin : List Char → List Char → Option α} (hfin : ∀ p c r, fin p (c :: r) = none) :
      Guarded fun p r => (keyed kw h p r).or (fin p r) := fun p c r hc => by
    simp only [guarded_keyed kw h p c r hc, hfin, Option.or_none]
  induction ps generalizing w h fin with
  | nil =>
      rw [spread_nil, shortest_word (hguard hfin) hw]
      simp [keyed, blanks, shortest, cutAt]
  | cons p ps ih =>
      have hrest : fin w (spread (p :: ps)) = none := by
        obtain ⟨c, b, hb⟩ := List.exists_cons_of_ne_nil p.isGap.ne_nil
        rw [spread_cons, hb]
        exact hfin ..
      rw [shortest_word (hguard hfin) hw, hrest, Option.or_none, keyed_spread hkw hne hh, cutAt]
      cases hp : keyedPiece? kw (p :: ps) with
      | some r =>
          have hsome : (h w (r.1.word ++ spread r.2)).isSome = true :=
            hh w _ (by simp [r.1.isWord.ne_nil]) (r.1.isWord.newline_notMem_spread r.2)
          simp [Option.or_of_isSome hsome]
      | none =>
          have hnone : ∀ x b, IsGap b →
              (keyed kw h (w ++ x) (b ++ (p.word ++ spread ps))).or
                (fin (w ++ x) (b ++ (p.word ++ spread ps))) = none := fun x b hb => by
            obtain ⟨c, b, rfl⟩ := List.exists_cons_of_ne_nil hb.ne_nil
            rw [keyed_gap hkw hne hh _ hb, keyed_spread hkw hne hh, hp, Option.bind_none,
              Option.none_or]
            exact hfin ..
          have hshift : Accepts fun x => h (w ++ (p.gap ++ x)) := fun x => hh _
          rw [Option.bind_none, Option.none_or, spread_cons, shortest_gap ((hguard hfin).append w)
            p.isGap p.isWord.startsSolid (by simp [p.isWord.ne_nil]) hnone]
          refine (ih (h := fun x => h (w ++ (p.gap ++ x))) hshift
            (fun x => fin (w ++ (p.gap ++ x))) (fun _ => hfin _) p.isWord).trans ?_
          cases cutAt kw ps <;> simp

theorem keyed_eq_none_iff (hkw : ∀ c ∈ kw, isBlank c = false) (hne : kw ≠ []) (hh : Accepts h)
    (part : List Char) (ps : List Piece) :
    keyed kw h part (spread ps) = none ↔ keyedPiece? kw ps = none := by
  rw [keyed_spread hkw hne hh]
  cases keyedPiece? kw ps with
  | none => simp
  | some r =>
      have hsome : (h part (r.1.word ++ spread r.2)).isSome = true :=
        hh part _ (by simp [r.1.isWord.ne_nil]) (r.1.isWord.newline_notMem_spread r.2)
      simpa [Option.isSome_iff_ne_none] using hsome

/-- Where the first word is followed by no keyword, only a part of the gap before it can be cut off,
the first blank of that gap. -/
theorem shortest_keyed_gap (hkw : ∀ c ∈ kw, isBlank c = false) (hne : kw ≠ []) (hh : Accepts h)
    {p : Piece} {ps : List Piece} (hcut : cutAt kw ps = none) {c : Char} {b : List Char}
    (hb : IsGap (c :: b)) :
    shortest (keyed kw h) (c :: (b ++ (p.word ++ spread ps))) =
      if b = [] then none else keyed kw h [c] (spread (p :: ps)) := by
  have hsolid : StartsSolid (p.word ++ spread ps) := p.isWord.startsSolid
  have htail : p.word ++ spread ps ≠ [] := by simp [p.isWord.ne_nil]
  have hstop (m : List Char) :
      shortest (fun x => keyed kw h (m ++ x)) (p.word ++ spread ps) = none := by
    have := shortest_keyed hkw hne (h := fun x => h (m ++ x)) (fun x => hh _)
      (fun _ _ => none) (fun _ _ _ => rfl) p.isWord ps
    simp only [Option.or_none, hcut] at this
    exact this
  have hc : c ≠ '\n' := fun hc => hb.inline (hc ▸ List.mem_cons_self)
  rw [shortest, if_neg hc]
  split
  · rename_i hnil
    subst hnil
    obtain ⟨d, t, ht⟩ := List.exists_cons_of_ne_nil htail
    rw [List.nil_append, ht, guarded_keyed kw h [c] d t (hsolid d t ht), Option.none_or, ← ht]
    exact hstop [c]
  · rename_i hnil
    have hb' := hb.tail hnil
    rw [keyed_gap hkw hne hh [c] hb']
    cases hk : keyed kw h [c] (spread (p :: ps)) with
    | some a => rfl
    | none =>
        rw [Option.none_or, shortest_gap ((guarded_keyed kw h).cons c) hb' hsolid htail]
        · exact hstop (c :: b)
        · intro x b' hgap
          rw [keyed_eq_none_iff hkw hne hh] at hk
          rwa [keyed_gap hkw hne hh _ hgap, keyed_eq_none_iff hkw hne hh]

/-- In such a text the blank is cut off if the gap has one blank more on both sides of it. -/
theorem blanks_shortest_keyed (hkw : ∀ c ∈ kw, isBlank c = false) (hne : kw ≠ []) (hh : Accepts h)
    {p : Piece} {ps : List Piece} (hcut : cutAt kw ps = none) :
    ∃ c, isBlank c = true ∧ blanks (shortest (keyed kw h)) (spread (p :: ps)) =
      if 3 ≤ p.gap.length then keyed kw h [c] (spread (p :: ps)) else none := by
  have hsolid : StartsSolid (p.word ++ spread ps) := p.isWord.startsSolid
  have hstop : shortest (keyed kw h) (p.word ++ spread ps) = none := by
    have := shortest_keyed hkw hne hh (fun _ _ => none) (fun _ _ _ => rfl) p.isWord ps
    simp only [Option.or_none, hcut] at this
    exact this
  -- By induction on the gap: of its blanks the second to last is taken.
  suffices hgap : ∀ b, IsGap b → ∃ c, isBlank c = true ∧
      blanks (shortest (keyed kw h)) (b ++ (p.word ++ spread ps)) =
        if 3 ≤ b.length then keyed kw h [c] (spread (p :: ps)) else none by
    obtain ⟨c, hc, heq⟩ := hgap p.gap p.isGap
    exact ⟨c, hc, by rw [← heq, spread_cons]⟩
  intro b hb
  induction b with
  | nil => exact absurd rfl hb.ne_nil
  | cons c b ih =>
      have hc := hb.blank c List.mem_cons_self
      cases b with
      | nil => exact ⟨c, hc, by rw [List.singleton_append, blanks_one hc hsolid, hstop]; rfl⟩
      | cons d b =>
          have hb' := hb.tail (by simp)
          obtain ⟨e, he, heq⟩ := ih hb'
          have hnext := shortest_keyed_gap hkw hne hh (p := p) hcut hb'
          rw [List.cons_append, blanks, if_pos hc, heq, List.cons_append, hnext]
          rcases b with _ | ⟨f, _ | ⟨g, b⟩⟩
          · exact ⟨e, he, rfl⟩
          · exact ⟨d, hb.blank d (by simp), rfl⟩
          · refine ⟨e, he, ?_⟩
            cases hk : keyed kw h [e] (spread (p :: ps)) with
            | some a => simp
            | none =>
                have hd : keyed kw h [d] (spread (p :: ps)) = none := by
                  rwa [keyed_eq_none_iff hkw hne hh] at hk ⊢
                simp [hd, -spread_cons]

/-! ## A last word after blanks -/

variable {P : List Char → Bool} {f : (part word : List Char) → α}

/-- After a part: blanks and a text that `P` accepts. -/
def closing (P : List Char → Bool) (f : (part word : List Char) → α) (part : List Char) :
    List Char → Option α :=
  blanks fun t => if P t then some (f part t) else none

/-- Only words are accepted. -/
def Wordy (P : List Char → Bool) : Prop := ∀ t, P t = true → IsWord t

theorem Wordy.eq_false {t : List Char} (hP : Wordy P) {c : Char} (hc : c ∈ t)
    (hblank : isBlank c = true) : P t = false := by
  rw [Bool.eq_false_iff]
  intro ht
  rw [(hP t ht).solid c hc] at hblank
  cases hblank

theorem Wordy.spread_eq_false (hP : Wordy P) (w : List Char) (p : Piece) (ps : List Piece) :
    P (w ++ spread (p :: ps)) = false := by
  obtain ⟨c, b, hb⟩ := List.exists_cons_of_ne_nil p.isGap.ne_nil
  exact hP.eq_false (c := c) (by simp [hb]) (p.isGap.blank c (by simp [hb]))

theorem guarded_closing (P : List Char → Bool) (f : List Char → List Char → α) :
    Guarded (closing P f) := guarded_blanks _

theorem closing_gap (hP : Wordy P) (part : List Char) {b t : List Char} (hb : IsGap b)
    (ht : StartsSolid t) : closing P f part (b ++ t) = if P t then some (f part t) else none := by
  refine blanks_gap (fun c r hc => ?_) hb ht
  rw [if_neg (by simp [hP.eq_false List.mem_cons_self hc])]

theorem longest_closing_word {w : List Char} (hw : IsWord w) :
    longest (closing P f) w = none := by
  have := longest_word (guarded_closing P f) hw []
  rw [List.append_nil] at this
  rw [this]
  rfl

/-- Of the gap before the last word all but one blank go to the part. -/
theorem longest_closing_gap (hP : Wordy P) {b : List Char} (hb : IsGap b) {w : List Char}
    (hw : IsWord w) :
    longest (closing P f) (b ++ w) =
      if P w ∧ b.dropLast ≠ [] then some (f b.dropLast w) else none := by
  have hsolid := hw.isTidy.front
  induction b generalizing f with
  | nil => exact absurd rfl hb.ne_nil
  | cons c b ih =>
      have hc : c ≠ '\n' := fun hc => hb.inline (hc ▸ List.mem_cons_self)
      rw [List.cons_append, longest, if_neg hc]
      cases b with
      | nil =>
          have hshift : longest (closing P fun x => f (c :: x)) w = none := longest_closing_word hw
          obtain ⟨d, t, ht⟩ := List.exists_cons_of_ne_nil hw.ne_nil
          rw [List.nil_append, ht, guarded_closing P f [c] d t (hsolid d t ht), Option.or_none, ← ht]
          exact hshift.trans (by simp)
      | cons d b =>
          have hb' := hb.tail (by simp)
          have hshift := ih (f := fun x => f (c :: x)) hb'
          rw [closing_gap hP [c] hb' hsolid]
          refine (congrArg (Option.or · _) hshift).trans ?_
          cases b <;> cases P w <;> simp

theorem longest_closing_gap_append (hP : Wordy P) {b : List Char} (hb : IsGap b)
    {w : List Char} (hw : IsWord w) (p : Piece) (ps : List Piece) :
    longest (closing P f) (b ++ (w ++ spread (p :: ps))) =
      longest (closing P fun x => f (b ++ x)) (w ++ spread (p :: ps)) := by
  induction b generalizing f with
  | nil => exact absurd rfl hb.ne_nil
  | cons c b ih =>
      have hc : c ≠ '\n' := fun hc => hb.inline (hc ▸ List.mem_cons_self)
      have hsolid : StartsSolid (w ++ spread (p :: ps)) := hw.startsSolid
      rw [List.cons_append, longest, if_neg hc]
      cases b with
      | nil =>
          obtain ⟨d, t, ht⟩ := List.exists_cons_of_ne_nil
            (show w ++ spread (p :: ps) ≠ [] by simp [hw.ne_nil])
          rw [List.nil_append, ht, guarded_closing P f [c] d t (hsolid d t ht), Option.or_none]
          rfl
      | cons d b =>
          have hb' := hb.tail (by simp)
          rw [closing_gap hP [c] hb' hsolid, if_neg (by simp [hP.spread_eq_false w p ps, -spread_cons]),
            Option.or_none]
          exact ih (f := fun x => f (c :: x)) hb'

/-- The part is what stands before the last word. -/
theorem longest_closing (hP : Wordy P) {w : List Char} (hw : IsWord w) (ps : List Piece) (q : Piece) :
    longest (closing P f) (w ++ spread (ps ++ [q])) =
      if P q.word then some (f (w ++ (spread ps ++ q.gap.dropLast)) q.word) else none := by
  induction ps generalizing w f with
  | nil =>
      have hend := longest_closing_gap (f := fun x => f (w ++ x)) hP q.isGap q.isWord
      rw [List.nil_append, spread_cons, spread_nil, List.append_nil,
        longest_word (guarded_closing P f) hw, closing_gap hP w q.isGap q.isWord.isTidy.front]
      refine (congrArg (Option.or · _) hend).trans ?_
      cases hq : q.gap.dropLast <;> cases P q.word <;> simp
  | cons p ps ih =>
      obtain ⟨r, rs, hr⟩ := List.exists_cons_of_ne_nil (show ps ++ [q] ≠ [] by simp)
      have hgap := longest_closing_gap_append (f := fun x => f (w ++ x)) hP p.isGap p.isWord r rs
      rw [← hr, ih p.isWord] at hgap
      rw [List.cons_append, spread_cons, longest_word (guarded_closing P f) hw,
        closing_gap hP w p.isGap p.isWord.startsSolid, hr,
        if_neg (by simp [hP.spread_eq_false p.word r rs, -spread_cons]), Option.or_none, ← hr]
      refine hgap.trans ?_
      simp

/-- Where nothing but a gap stands before the last word, a blank of it is the part if it has one more
on both sides. -/
theorem blanks_longest_closing (hP : Wordy P) (p : Piece) :
    ∃ c, isBlank c = true ∧ blanks (longest (closing P f)) (spread [p]) =
      if 3 ≤ p.gap.length ∧ P p.word then some (f [c] p.word) else none := by
  suffices hgap : ∀ b, IsGap b → ∃ c, isBlank c = true ∧
      blanks (longest (closing P f)) (b ++ p.word) =
        if 3 ≤ b.length ∧ P p.word then some (f [c] p.word) else none by
    obtain ⟨c, hc, heq⟩ := hgap p.gap p.isGap
    exact ⟨c, hc, by rw [← heq, spread_cons, spread_nil, List.append_nil]⟩
  intro b hb
  induction b with
  | nil => exact absurd rfl hb.ne_nil
  | cons c b ih =>
      have hc := hb.blank c List.mem_cons_self
      cases b with
      | nil =>
          refine ⟨c, hc, ?_⟩
          rw [List.singleton_append, blanks_one hc p.isWord.isTidy.front,
            longest_closing_word p.isWord]
          rfl
      | cons d b =>
          have hb' := hb.tail (by simp)
          obtain ⟨e, he, heq⟩ := ih hb'
          rw [List.cons_append, blanks, if_pos hc, heq, longest_closing_gap hP hb' p.isWord]
          rcases b with _ | ⟨g, _ | ⟨g', b⟩⟩
          · exact ⟨e, he, by simp⟩
          · exact ⟨d, hb.blank d (by simp), by simp⟩
          · exact ⟨e, he, by cases P p.word <;> simp⟩

/-- With more than one word after the gap, the part starts with the first of them. -/
theorem blanks_longest_closing_append (hP : Wordy P) (p : Piece) (ps : List Piece) (q : Piece) :
    blanks (longest (closing P f)) (spread (p :: (ps ++ [q]))) =
      if P q.word then some (f (p.word ++ (spread ps ++ q.gap.dropLast)) q.word) else none := by
  have hlong := longest_closing (f := f) hP p.isWord ps q
  rw [spread_cons]
  split
  · rename_i hq
    rw [if_pos hq] at hlong
    rw [blanks_gap_of_isSome p.isGap p.isWord.startsSolid (by rw [hlong]; rfl), hlong]
  · rename_i hq
    obtain ⟨r, rs, hr⟩ := List.exists_cons_of_ne_nil (show ps ++ [q] ≠ [] by simp)
    have hnone (b : List Char) (hb : IsGap b) :
        longest (closing P f) (b ++ (p.word ++ spread (ps ++ [q]))) = none := by
      rw [hr, longest_closing_gap_append hP hb p.isWord, ← hr, longest_closing hP p.isWord, if_neg hq]
    rw [if_neg hq] at hlong
    exact blanks_gap_of_none p.isGap p.isWord.startsSolid hlong hnone

end TankArena.Text
