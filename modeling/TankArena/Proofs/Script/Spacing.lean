import Mathlib.Data.List.Forall2
import TankArena.Proofs.Script.Gaps
import TankArena.Proofs.Script.Layout
import TankArena.Proofs.Script.Room

/-!
# Runs of blanks

A run of spaces and tabs in a script may be replaced by another. The one place where its length is
seen is the gap in which an operand is missing: `MOVE FORWARD` and `IF THEN ATTACK` do nothing, but
with three blanks or more one of them is read as the operand, and its value is 0.
-/

namespace TankArena.Script

open Text

/-! ## Replacing a run -/

/-- A run of spaces and tabs. -/
structure IsRun (b : List Char) : Prop where
  ne_nil : b ≠ []
  chars : ∀ c ∈ b, c = ' ' ∨ c = '\t'

instance : DecidablePred IsRun := fun b =>
  decidable_of_iff (b ≠ [] ∧ ∀ c ∈ b, c = ' ' ∨ c = '\t')
    ⟨fun ⟨h₁, h₂⟩ => ⟨h₁, h₂⟩, fun ⟨h₁, h₂⟩ => ⟨h₁, h₂⟩⟩

/-- A character that is in no word: a blank, a semicolon or a slash, which may start a comment. -/
def isBreak (c : Char) : Bool := isBlank c || c == ';' || c == '/'

/-- The word at the front of a text, but for blanks before it. -/
def firstWord (t : List Char) : List Char := (trimStart t).takeWhile (!isBreak ·)

/-- The word at the end of a text, but for blanks after it. -/
def lastWord (t : List Char) : List Char := (firstWord t.reverse).reverse

/-- Between the two texts an operand is missing. -/
def operandGap (before after : List Char) : Bool := lacksOperand (lastWord before) (firstWord after)

/-- The blanks that the two texts have where they meet. -/
def blanksBetween (before after : List Char) : Nat :=
  (before.length - (trimEnd before).length) + (after.length - (trimStart after).length)

/-- With one run for the other no gap gets wide enough for an operand, and none too narrow. -/
def KeepsOperands (b b' before after : List Char) : Prop :=
  operandGap before after = true →
    (3 ≤ blanksBetween before after + b.length ↔ 3 ≤ blanksBetween before after + b'.length)

instance (b b' before after : List Char) : Decidable (KeepsOperands b b' before after) :=
  inferInstanceAs (Decidable (_ → _))

/-- The texts are the same, or the second has one run for the other. -/
inductive Respaced (b b' : List Char) : List Char → List Char → Prop
  | same (t) : Respaced b b' t t
  | run {p q} : KeepsOperands b b' p q → Respaced b b' (p ++ (b ++ q)) (p ++ (b' ++ q))

variable {b b' p q t t' : List Char}

theorem IsRun.isGap (h : IsRun b) : IsGap b := by
  refine ⟨h.ne_nil, fun c hc => ?_, fun hm => ?_⟩
  · rcases h.chars c hc with rfl | rfl <;> decide
  · rcases h.chars _ hm with h | h <;> cases h

theorem IsRun.notMem (h : IsRun b) {c : Char} (hc : isBlank c = false) : c ∉ b := fun hm => by
  rw [h.isGap.blank c hm] at hc
  cases hc

/-- The text is empty or starts where a word before it would end. -/
def StartsBreak (t : List Char) : Prop := ∀ c r, t = c :: r → isBreak c = true

theorem isBreak_of_isBlank {c : Char} (h : isBlank c = true) : isBreak c = true := by
  simp [isBreak, h]

theorem startsBreak_nil : StartsBreak [] := by rintro c r ⟨⟩

theorem startsBreak_cons {c : Char} (h : isBreak c = true) (t : List Char) : StartsBreak (c :: t) := by
  rintro d r heq
  rwa [← (List.cons.inj heq).1]

theorem StartsBreak.takeWhile_eq (h : StartsBreak t) : t.takeWhile (!isBreak ·) = [] := by
  cases t with
  | nil => rfl
  | cons c t => simp [h c t rfl]

theorem startsBreak_of_blank (h : ∀ c ∈ t, isBlank c = true) : StartsBreak t := by
  rintro c r rfl
  exact isBreak_of_isBlank (h c List.mem_cons_self)

theorem startsBreak_of_startsBlank (h : StartsBlank t) : StartsBreak t := fun c r ht =>
  isBreak_of_isBlank (h c r ht)

theorem isBreak_of_isKeyword {k v : List Char} (hk : ∀ c ∈ k, isBreak c = false)
    (h : isKeyword k v = true) : ∀ c ∈ v, isBreak c = false := by
  intro c hc
  rw [isKeyword_iff] at h
  have hcap : isBreak (capital c) = false := hk _ (h ▸ List.mem_map_of_mem hc)
  cases hbreak : isBreak c with
  | false => rfl
  | true =>
      have heq : capital c = c := by
        simp only [isBreak, Bool.or_eq_true, beq_iff_eq] at hbreak
        rcases hbreak with (hblank | rfl) | rfl
        · exact capital_of_isBlank hblank
        · rfl
        · rfl
      rw [heq, hbreak] at hcap
      exact hcap

theorem isBreak_of_lacksOperand {v w : List Char} (h : lacksOperand v w = true) :
    (∀ c ∈ v, isBreak c = false) ∧ ∀ c ∈ w, isBreak c = false := by
  rw [lacksOperand, Bool.or_eq_true, Bool.and_eq_true, Bool.and_eq_true] at h
  rcases h with ⟨hv, hw⟩ | ⟨hv, hw⟩
  · exact ⟨isBreak_of_isKeyword (by decide) hv, isBreak_of_isKeyword (by decide) hw⟩
  · obtain ⟨k, hk, hw⟩ := List.any_eq_true.mp hw
    have hcourse : ∀ k ∈ courseWords, ∀ c ∈ k.toList, isBreak c = false := by decide
    exact ⟨isBreak_of_isKeyword (by decide) hv, isBreak_of_isKeyword (hcourse k hk) hw⟩

theorem firstWord_eq {s w r : List Char} (hs : ∀ c ∈ s, isBlank c = true) (hw : IsWord w)
    (hbreak : ∀ c ∈ w, isBreak c = false) (hr : StartsBreak r) : firstWord (s ++ (w ++ r)) = w := by
  rw [firstWord, trimStart_append hs, trimStart_eq_self hw.startsSolid,
    List.takeWhile_append_of_pos (by simpa using hbreak), hr.takeWhile_eq, List.append_nil]

theorem lastWord_eq {s w r : List Char} (hs : ∀ c ∈ s, isBlank c = true) (hw : IsWord w)
    (hbreak : ∀ c ∈ w, isBreak c = false) (hr : StartsBreak r.reverse) :
    lastWord ((r ++ w) ++ s) = w := by
  have := firstWord_eq (s := s.reverse) (w := w.reverse) (by simpa using hs)
    ⟨by simpa using hw.ne_nil, by simpa using hw.solid⟩ (by simpa using hbreak) hr
  rw [lastWord, List.reverse_append, List.reverse_append, this, List.reverse_reverse]

theorem trimStart_ne_nil (h : firstWord t ≠ []) : trimStart t ≠ [] := fun hnil =>
  h (by rw [firstWord, hnil]; rfl)

theorem trimStart_append_right (h : firstWord q ≠ []) (v : List Char) :
    trimStart (q ++ v) = trimStart q ++ v := by
  have hne := trimStart_ne_nil h
  unfold trimStart at hne ⊢
  rw [List.dropWhile_append, if_neg (by simpa using hne)]

theorem trimEnd_append_left (h : lastWord p ≠ []) (u : List Char) :
    trimEnd (u ++ p) = u ++ trimEnd p := by
  have := trimStart_append_right (q := p.reverse) (by simpa [lastWord] using h) u.reverse
  rw [← List.reverse_append] at this
  unfold trimStart at this
  rw [trimEnd, this, List.reverse_append, List.reverse_reverse, trimEnd]

theorem firstWord_append_right {v : List Char} (h : firstWord q ≠ []) (hv : StartsBreak v) :
    firstWord (q ++ v) = firstWord q := by
  unfold firstWord
  rw [trimStart_append_right h, List.takeWhile_append]
  split
  · rename_i hlen
    rw [hv.takeWhile_eq, List.append_nil, (List.takeWhile_prefix _).eq_of_length hlen]
  · rfl

theorem lastWord_append_left {u : List Char} (h : lastWord p ≠ []) (hu : StartsBreak u.reverse) :
    lastWord (u ++ p) = lastWord p := by
  rw [lastWord, List.reverse_append, firstWord_append_right (by simpa [lastWord] using h) hu, lastWord]

/-- What is cut off at a break does not matter: a gap that is left has the same words around it. -/
theorem KeepsOperands.of_append {u v : List Char} (hu : StartsBreak u.reverse) (hv : StartsBreak v)
    (h : KeepsOperands b b' (u ++ p) (q ++ v)) : KeepsOperands b b' p q := by
  intro hgap
  obtain ⟨hlast, hfirst⟩ := isWord_of_lacksOperand hgap
  have hwide := h (by
    rwa [operandGap, lastWord_append_left hlast.ne_nil hu, firstWord_append_right hfirst.ne_nil hv])
  simp only [blanksBetween, trimEnd_append_left hlast.ne_nil,
    trimStart_append_right hfirst.ne_nil, List.length_append] at hwide ⊢
  omega

theorem Respaced.eq_of_insensitive {β : Type} {f : List Char → β} (hf : Insensitive f) (hb : IsRun b)
    (hb' : IsRun b') (h : Respaced b b' t t') : f t = f t' := by
  cases h with
  | same => rfl
  | run => exact hf _ _ _ _ hb.isGap hb'.isGap

theorem Respaced.eq_nil_iff (hb : IsRun b) (hb' : IsRun b') (h : Respaced b b' t t') :
    t = [] ↔ t' = [] := by
  cases h with
  | same => rfl
  | run => simp [hb.ne_nil, hb'.ne_nil]

/-! ## Lines and their parts -/

theorem splitOn_append {sep : Char} (h : sep ∉ b) (t : List Char) :
    (b ++ t).splitOn sep = (t.splitOn sep).modifyHead (b ++ ·) := by
  induction b with
  | nil =>
      obtain ⟨u, us, hu⟩ := exists_splitOn_eq_cons sep t
      simp [hu]
  | cons c b ih =>
      rw [List.mem_cons, not_or] at h
      obtain ⟨u, us, hu⟩ := exists_splitOn_eq_cons sep t
      rw [List.cons_append, splitOn_cons, if_neg (Ne.symm h.1), ih h.2, hu]
      rfl

/-- A run without the separator lies in one piece, between the ends of what is around it. -/
theorem exists_splitOn_append {sep : Char} (hsep : isBreak sep = true) (p q : List Char) :
    ∃ u' u v v' us vs, p = u' ++ u ∧ q = v ++ v' ∧ StartsBreak u'.reverse ∧ StartsBreak v' ∧
      ∀ b, sep ∉ b → (p ++ (b ++ q)).splitOn sep = us ++ (u ++ (b ++ v)) :: vs := by
  obtain ⟨v, vs, hv⟩ := exists_splitOn_eq_cons sep q
  have hq : q = [sep].intercalate (v :: vs) := by rw [← hv, List.intercalate_splitOn]
  have hbreak := startsBreak_cons hsep
  obtain ⟨v', hv', hafter⟩ : ∃ v', q = v ++ v' ∧ StartsBreak v' := by
    cases vs with
    | nil => exact ⟨[], by simpa using hq, startsBreak_nil⟩
    | cons w ws =>
        refine ⟨sep :: [sep].intercalate (w :: ws), ?_, hbreak _⟩
        rw [hq, List.intercalate_cons_cons, List.append_assoc, List.singleton_append]
  have hlast (u : List Char) (hu : sep ∉ u) (b : List Char) (hb : sep ∉ b) :
      (u ++ (b ++ q)).splitOn sep = (u ++ (b ++ v)) :: vs := by
    rw [splitOn_append hu, splitOn_append hb, hv]
    rfl
  by_cases hmem : sep ∈ p
  · obtain ⟨x, u, rfl, hu⟩ := exists_last_of_mem hmem
    refine ⟨x ++ [sep], u, v, v', x.splitOn sep, vs, by simp, hv', by simpa using hbreak x.reverse,
      hafter, fun b hb => ?_⟩
    rw [List.append_assoc, List.cons_append, List.splitOn_append_cons_self, hlast u hu b hb]
  · exact ⟨[], p, v, v', [], vs, rfl, hv', startsBreak_nil, hafter, hlast p hmem⟩

theorem Respaced.splitOn {sep : Char} (hsep : isBreak sep = true) (hb : sep ∉ b) (hb' : sep ∉ b')
    (h : Respaced b b' t t') :
    List.Forall₂ (Respaced b b') (t.splitOn sep) (t'.splitOn sep) := by
  have hrefl (ts : List (List Char)) : List.Forall₂ (Respaced b b') ts ts :=
    List.forall₂_same.mpr fun t _ => .same t
  cases h with
  | same => exact hrefl _
  | @run p q hkeep =>
      obtain ⟨u', u, v, v', us, vs, rfl, rfl, hu, hv, hsplit⟩ := exists_splitOn_append hsep p q
      rw [hsplit b hb, hsplit b' hb']
      exact List.rel_append (hrefl us) (.cons (.run (hkeep.of_append hu hv)) (hrefl vs))

theorem exists_cutComment_eq (t : List Char) : ∃ r, t = cutComment t ++ r ∧ StartsBreak r := by
  fun_induction cutComment t with
  | case1 t => exact ⟨_, rfl, startsBreak_cons (by decide) _⟩
  | case2 c t _ ih =>
      obtain ⟨r, hr, hbreak⟩ := ih
      exact ⟨r, by rw [List.cons_append, ← hr], hbreak⟩
  | case3 => exact ⟨[], rfl, startsBreak_nil⟩

/-- A comment before the run takes it away, and one after it leaves it. -/
theorem Respaced.cutComment (hb : IsRun b) (hb' : IsRun b') (h : Respaced b b' t t') :
    Respaced b b' (cutComment t) (cutComment t') := by
  cases h with
  | same => exact .same _
  | @run p q hkeep =>
      obtain ⟨r, hr, hbreak⟩ := exists_cutComment_eq q
      have hkeep' : KeepsOperands b b' p (Script.cutComment q) := by
        refine KeepsOperands.of_append (u := []) (v := r) startsBreak_nil hbreak ?_
        rwa [← hr]
      have hslash {b : List Char} (hb : IsRun b) : '/' ∉ b := hb.notMem (by decide)
      have hcut {b : List Char} (hb : IsRun b) :
          ∃ c s, b ++ q = c :: (s ++ q) ∧ c ≠ '/' ∧ c :: Script.cutComment (s ++ q) =
            b ++ Script.cutComment q := by
        obtain ⟨c, s, rfl⟩ := List.exists_cons_of_ne_nil hb.ne_nil
        have hne : c ≠ '/' := fun hc => hslash hb (hc ▸ List.mem_cons_self)
        refine ⟨c, s, rfl, hne, ?_⟩
        rw [← cutComment_cons hne, ← List.cons_append, cutComment_append (hslash hb)]
      obtain ⟨c, s, hs, hc, hcs⟩ := hcut hb
      obtain ⟨c', s', hs', hc', hcs'⟩ := hcut hb'
      rw [hs, hs']
      rcases cutComment_append_cases p with h | ⟨-, h⟩
      · rw [h c _ hc, h c' _ hc']
        exact .same _
      · rw [h c _ hc, h c' _ hc', hcs, hcs']
        exact .run hkeep'

/-- The run may be among the blanks at the ends, which are taken away. -/
theorem Respaced.trim (hb : IsRun b) (hb' : IsRun b') (h : Respaced b b' t t') :
    Respaced b b' (trim t) (trim t') := by
  cases h with
  | same => exact .same _
  | @run p q hkeep =>
      rw [trim_gap hb.isGap, trim_gap hb'.isGap]
      split
      · exact .same _
      · split
        · exact .same _
        · obtain ⟨u, hu, hublank⟩ := exists_trimStart_eq p
          obtain ⟨v, hv, hvblank⟩ := exists_trimEnd_eq q
          refine .run (KeepsOperands.of_append (u := u) (v := v)
            (startsBreak_of_blank (by simpa using hublank)) (startsBreak_of_blank hvblank) ?_)
          rwa [← hu, ← hv]

theorem forall₂_trimmed (hb : IsRun b) (hb' : IsRun b') {f : List Char → List Char}
    (hf : ∀ {t t'}, Respaced b b' t t' → Respaced b b' (f t) (f t')) {ts ts' : List (List Char)}
    (h : List.Forall₂ (Respaced b b') ts ts') :
    List.Forall₂ (Respaced b b') ((ts.map f).filter (· ≠ [])) ((ts'.map f).filter (· ≠ [])) := by
  refine List.rel_filter (fun t t' ht => ?_) (List.rel_map (fun _ _ ht => hf ht) h)
  simpa using not_congr (ht.eq_nil_iff hb hb')

theorem Respaced.codeOf (hb : IsRun b) (hb' : IsRun b') (h : Respaced b b' t t') :
    List.Forall₂ (Respaced b b') (codeOf t) (codeOf t') :=
  forall₂_trimmed hb hb' (fun ht => (ht.cutComment hb hb').trim hb hb')
    (h.splitOn (by decide) hb.isGap.inline hb'.isGap.inline)

/-! ## Headers and ends of blocks -/

theorem insensitive_opensBlock : Insensitive opensBlock := by
  intro p q g g' hg hg'
  unfold opensBlock
  rw [afterKeyword?_gap (by decide) hg, afterKeyword?_gap (by decide) hg']
  cases afterKeyword? "FUNCTION".toList p with
  | none => rfl
  | some r =>
      cases r with
      | nil =>
          obtain ⟨c, g, rfl⟩ := List.exists_cons_of_ne_nil hg.ne_nil
          obtain ⟨c', g', rfl⟩ := List.exists_cons_of_ne_nil hg'.ne_nil
          simp [hg.blank c, hg'.blank c']
      | cons c r => rfl

theorem headerName?_eq (line : List Char) : headerName? line =
    (afterWord? "FUNCTION" line).bind fun r =>
      afterChar? ':' (fun t => if isLooseName (r.takeWhile isLooseNameChar) && t.all isBlank then
        some (r.takeWhile isLooseNameChar) else none)
      (trimStart (r.dropWhile isLooseNameChar)) := by
  refine congrArg ((afterWord? "FUNCTION" line).bind ·) (funext fun r => ?_)
  generalize trimStart (r.dropWhile isLooseNameChar) = t
  cases t with
  | nil => rfl
  | cons c t => by_cases hc : c = ':' <;> simp [afterChar?, hc]

theorem insensitive_headerName? : Insensitive headerName? := by
  have hloose : ∀ c, isBlank c = true → isLooseNameChar c = false := fun c hc => by
    rw [isLooseNameChar, capital_of_isBlank hc]
    exact isNameChar_of_isBlank hc
  have hend (name : List Char) : Insensitive fun t =>
      if isLooseName name && t.all isBlank then some name else none := by
    intro p q g g' hg hg'
    have hall (g : List Char) (hg : IsGap g) :
        (p ++ (g ++ q)).all isBlank = (p ++ q).all isBlank := by
      simp [List.all_eq_true.mpr hg.blank]
    simp only [hall g hg, hall g' hg']
  rw [funext headerName?_eq]
  refine Insensitive.afterWord? (fun p q g g' hg hg' => ?_) (by decide)
  simp only [takeWhile_gap hloose hg, takeWhile_gap hloose hg', dropWhile_gap hloose hg,
    dropWhile_gap hloose hg']
  exact ((hend _).afterChar? (by decide)).trimStart _ q g g' hg hg'

theorem closesBlock_gap (hb : IsRun b) (p q : List Char) :
    closesBlock (p ++ (b ++ q)) = closesBlock p := by
  unfold closesBlock
  rw [afterKeyword?_gap (by decide) hb.isGap]
  cases afterKeyword? "END".toList p with
  | none => rfl
  | some r =>
      cases r with
      | nil =>
          obtain ⟨c, b, rfl⟩ := List.exists_cons_of_ne_nil hb.ne_nil
          rcases hb.chars c List.mem_cons_self with rfl | rfl <;> rfl
      | cons c r => rfl

theorem Respaced.closesBlock_eq (hb : IsRun b) (hb' : IsRun b') (h : Respaced b b' t t') :
    closesBlock t = closesBlock t' := by
  cases h with
  | same => rfl
  | run => rw [closesBlock_gap hb, closesBlock_gap hb']

variable {ls ls' : List (List Char)}

theorem forall₂_untilClose (hb : IsRun b) (hb' : IsRun b') (h : List.Forall₂ (Respaced b b') ls ls') :
    List.Forall₂ (Respaced b b') (untilClose ls) (untilClose ls') := by
  induction h with
  | nil => exact .nil
  | @cons l l' _ _ hl _ ih =>
      have heq := hl.closesBlock_eq hb hb'
      cases hc : closesBlock l with
      | true => rw [untilClose_close hc, untilClose_close (heq ▸ hc)]; exact .nil
      | false => rw [untilClose_cons hc, untilClose_cons (heq ▸ hc)]; exact .cons hl ih

theorem forall₂_afterClose (hb : IsRun b) (hb' : IsRun b') (h : List.Forall₂ (Respaced b b') ls ls') :
    List.Forall₂ (Respaced b b') (afterClose ls) (afterClose ls') := by
  induction h with
  | nil => exact .nil
  | @cons l l' _ _ hl hls ih =>
      have heq := hl.closesBlock_eq hb hb'
      cases hc : closesBlock l with
      | true => rw [afterClose_close hc, afterClose_close (heq ▸ hc)]; exact hls
      | false => rw [afterClose_cons hc, afterClose_cons (heq ▸ hc)]; exact ih

/-! ## Statements -/

variable {room : Nat}

/-- A run inside a tidy line is a part of one gap in it. -/
theorem KeepsOperands.exists_spaced (h : KeepsOperands b b' p q) (hb : IsRun b) (hb' : IsRun b')
    (htidy : IsTidy (p ++ (b ++ q))) (hline : '\n' ∉ p ++ (b ++ q)) :
    ∃ w ps ps', IsWord w ∧ p ++ (b ++ q) = w ++ spread ps ∧ p ++ (b' ++ q) = w ++ spread ps' ∧
      Spaced w ps ps' := by
  have hfront := isTidy_trimEnd_of_gap hb.isGap htidy
  have hback := isTidy_trimStart_of_gap hb.isGap htidy
  obtain ⟨s, hs, hsblank⟩ := exists_trimEnd_eq p
  obtain ⟨s', hs', hsblank'⟩ := exists_trimStart_eq q
  generalize trimEnd p = p' at hs hfront
  generalize trimStart q = q' at hs' hback
  subst hs hs'
  simp only [List.mem_append, not_or] at hline
  obtain ⟨w, us, hw, rfl⟩ := hfront.exists_spread (by simpa using hline.1.1)
  obtain ⟨v, vs, hv, rfl⟩ := hback.exists_spread (by simpa using hline.2.2.2)
  have hgap {b : List Char} (hb : IsRun b) : IsGap (s ++ (b ++ s')) :=
    hb.isGap.append hsblank hsblank' hline.1.2 hline.2.2.1
  refine ⟨w, us ++ ⟨_, v, hgap hb, hv⟩ :: vs, us ++ ⟨_, v, hgap hb', hv⟩ :: vs, hw, by simp, by simp,
    .replace rfl fun x u hx heq hop => ?_⟩
  obtain ⟨hu, -⟩ := isWord_of_lacksOperand hop
  obtain ⟨hubreak, hvbreak⟩ := isBreak_of_lacksOperand hop
  have hlast : lastWord ((w ++ spread us) ++ s) = u := by
    rw [heq]
    exact lastWord_eq hsblank hu hubreak (startsBreak_of_startsBlank hx)
  have hfirst : firstWord (s' ++ (v ++ spread vs)) = v :=
    firstWord_eq hsblank' hv hvbreak (startsBreak_of_startsBlank (startsBlank_spread vs))
  have hp : trimEnd ((w ++ spread us) ++ s) = w ++ spread us := by
    rw [trimEnd_append hsblank, trimEnd_eq_self (hw.isTidy_spread us).back]
  have hq : trimStart (s' ++ (v ++ spread vs)) = v ++ spread vs := by
    rw [trimStart_append hsblank', trimStart_eq_self hv.startsSolid]
  have hwide := h (by rwa [operandGap, hlast, hfirst])
  simp only [blanksBetween, hp, hq, List.length_append] at hwide ⊢
  omega

theorem read_terminated (ht : IsTidy t) (hline : '\n' ∉ t) :
    Stmt.read (room + 1) (t ++ [';']) = readLine t := by
  have hbare := withoutTerminator_terminated ht
  rw [Stmt.read_of_not_block? (by rw [hbare]; exact block?_of_notMem hline), hbare]

theorem Respaced.read_eq (h : Respaced b b' t t') (hb : IsRun b) (hb' : IsRun b') (ht : IsTidy t)
    (hline : '\n' ∉ t) (hsemi : ';' ∉ t) :
    Stmt.read room (t ++ [';']) = Stmt.read room (t' ++ [';']) := by
  cases room with
  | zero => rfl
  | succ room =>
      cases h with
      | same => rfl
      | run hkeep =>
          obtain ⟨w, ps, ps', hw, hps, hps', hspaced⟩ := hkeep.exists_spaced hb hb' ht hline
          rw [hps] at hsemi
          rw [hps, hps', read_terminated (hw.isTidy_spread ps) (hw.newline_notMem_spread ps),
            read_terminated (hw.isTidy_spread ps') (hw.newline_notMem_spread ps'),
            hspaced.readLine_eq hw (unterminated_of_notMem hsemi)]

theorem mapM_eq_of_forall₂ {α β ε : Type} {f : α → Except ε β} {xs ys : List α}
    (h : List.Forall₂ (fun x y => f x = f y) xs ys) : xs.mapM f = ys.mapM f := by
  induction h with
  | nil => rfl
  | cons hx _ ih => rw [List.mapM_cons, List.mapM_cons, hx, ih]

theorem Respaced.mapM_parts (h : Respaced b b' t t') (hb : IsRun b) (hb' : IsRun b')
    (hline : '\n' ∉ t) :
    (parts t).mapM (Stmt.read room) = (parts t').mapM (Stmt.read room) := by
  have hsemi {b : List Char} (hb : IsRun b) : ';' ∉ b := hb.notMem (by decide)
  have hparts := forall₂_trimmed (f := Text.trim) hb hb' (fun ht => ht.trim hb hb')
    (h.splitOn (by decide) (hsemi hb) (hsemi hb'))
  have hmem : ∀ u ∈ ((t.splitOn ';').map Text.trim).filter (· ≠ []),
      IsTidy u ∧ '\n' ∉ u ∧ ';' ∉ u := by
    intro u hu
    obtain ⟨hu, hne⟩ := List.mem_filter.mp hu
    obtain ⟨w, hw, rfl⟩ := List.mem_map.mp hu
    have hmem := mem_splitOn hw
    have hsub := (trim_sublist w).subset
    exact ⟨isTidy_trim (by simpa using hne), fun hm => hline (hmem _ (hsub hm)).2,
      fun hm => (hmem _ (hsub hm)).1 rfl⟩
  refine mapM_eq_of_forall₂ (List.forall₂_map_left_iff.mpr (List.forall₂_map_right_iff.mpr ?_))
  refine ((List.forall₂_and_left _ _).mpr ⟨hmem, hparts⟩).imp ?_
  rintro u u' ⟨⟨htidy, hu, hus⟩, hspaced⟩
  exact hspaced.read_eq hb hb' htidy hu hus

/-! ## Blocks -/

/-- One line after the other is changed. -/
theorem Insensitive.unlines_eq {β : Type} {f : List Char → β} (hf : Insensitive f) (hb : IsRun b)
    (hb' : IsRun b') (h : List.Forall₂ (Respaced b b') ls ls') (m : List Char) :
    f (m ++ unlines ls) = f (m ++ unlines ls') := by
  have hline {l l' : List Char} (hl : Respaced b b' l l') (m r : List Char) :
      f (m ++ (l ++ r)) = f (m ++ (l' ++ r)) := by
    cases hl with
    | same => rfl
    | @run p q =>
        have := hf (m ++ p) (q ++ r) b b' hb.isGap hb'.isGap
        simpa using this
  have hcons (l k : List Char) (ls : List (List Char)) :
      unlines (l :: k :: ls) = l ++ '\n' :: unlines (k :: ls) := by
    simp [unlines, List.intercalate]
  induction h generalizing m with
  | nil => rfl
  | @cons l l' ls ls' hl hls ih =>
      cases hls with
      | nil => simpa [unlines, List.intercalate] using hline hl m []
      | @cons k k' ls ls' =>
          rw [hcons, hcons, hline hl]
          have := ih (m ++ (l' ++ ['\n']))
          simpa using this

theorem read_block_eq {header header' : List Char} {body body' : List (List Char)}
    (hb : IsRun b) (hb' : IsRun b') (hh : Respaced b b' header header')
    (hbody : List.Forall₂ (Respaced b b') body body') (hopen : opensBlock header = true)
    (hcode : IsCode header) (hcode' : IsCode header') (hcodes : ∀ l ∈ body, IsCode l)
    (hcodes' : ∀ l ∈ body', IsCode l)
    (ih : (cutOutside body).mapM (Stmt.read room) = (cutOutside body').mapM (Stmt.read room)) :
    Stmt.read (room + 1) (blockText header body) =
      Stmt.read (room + 1) (blockText header' body') := by
  have hname := hh.eq_of_insensitive insensitive_headerName? hb hb'
  have hopen' := (hh.eq_of_insensitive insensitive_opensBlock hb hb').symm.trans hopen
  cases hn : headerName? header with
  | some name =>
      rw [read_block hcode hcodes hn, read_block hcode' hcodes' (hname ▸ hn), ih]
  | none =>
      have hlines : List.Forall₂ (Respaced b b') (header :: body ++ ["END".toList])
          (header' :: body' ++ ["END".toList]) :=
        List.rel_append (.cons hh hbody) (.cons (.same _) .nil)
      have heq {β : Type} {f : List Char → β} (hf : Insensitive f) :
          f (blockText header body) = f (blockText header' body') :=
        hf.unlines_eq hb hb' hlines []
      have hmoved {header : List Char} (h : opensBlock header = true) (body : List (List Char)) :
          moved? (blockText header body) = none := by
        obtain ⟨c, t, rfl, hc⟩ := exists_cons_of_opensBlock h
        obtain ⟨r, hr⟩ := blockText_cons c t body
        simp [moved?, move?, hr, afterKeyword?, hc]
      rw [read_block_of_no_name hcode hcodes hopen hn,
        read_block_of_no_name hcode' hcodes' hopen' (hname ▸ hn)]
      exact readPlain_eq_of_parts (heq insensitive_assigned?)
        ((hmoved hopen body).trans (hmoved hopen' body').symm) (heq insensitive_turn?)
        (heq insensitive_isScan) (heq insensitive_isAttack) (heq insensitive_call?)

/-- By induction on the number of lines: a block is read through the lines in it, with one place
less. -/
theorem mapM_cutOutside_eq (hb : IsRun b) (hb' : IsRun b') (h : List.Forall₂ (Respaced b b') ls ls')
    (hcode : ∀ l ∈ ls, IsCode l) (hcode' : ∀ l ∈ ls', IsCode l) :
    (cutOutside ls).mapM (Stmt.read room) = (cutOutside ls').mapM (Stmt.read room) := by
  induction hn : ls.length using Nat.strongRecOn generalizing room ls ls' with
  | ind n ih =>
      cases h with
      | nil => rfl
      | @cons l l' ls ls' hl hls =>
          rw [List.length_cons] at hn
          obtain ⟨hcl, hcls⟩ := List.forall_mem_cons.mp hcode
          obtain ⟨hcl', hcls'⟩ := List.forall_mem_cons.mp hcode'
          have hopen := hl.eq_of_insensitive insensitive_opensBlock hb hb'
          cases ho : opensBlock l with
          | false =>
              rw [cutOutside, cutOutside, ← hopen, ho, if_neg (by simp), if_neg (by simp),
                List.mapM_append, List.mapM_append, hl.mapM_parts hb hb' hcl.inline,
                ih ls.length (by omega) hls hcls hcls' rfl]
          | true =>
              have hinside := forall₂_untilClose hb hb' hls
              have hafter := forall₂_afterClose hb hb' hls
              have hsub := untilClose_sublist ls
              have hsub' := untilClose_sublist ls'
              have hrest := afterClose_sublist ls
              have hrest' := afterClose_sublist ls'
              have hlen := hsub.length_le
              have hlen' := hrest.length_le
              have hcodes : ∀ m ∈ untilClose ls, IsCode m := fun m hm => hcls m (hsub.subset hm)
              have hcodes' : ∀ m ∈ untilClose ls', IsCode m := fun m hm => hcls' m (hsub'.subset hm)
              have hblock : Stmt.read room (blockText l (untilClose ls)) =
                  Stmt.read room (blockText l' (untilClose ls')) := by
                cases room with
                | zero => rfl
                | succ room =>
                    exact read_block_eq hb hb' hl hinside ho hcl hcl' hcodes hcodes'
                      (ih _ (by omega) hinside hcodes hcodes' rfl)
              rw [cutOutside, cutOutside, ← hopen, ho, if_pos rfl, if_pos rfl, cutInside_eq,
                cutInside_eq, List.reverse_nil, List.nil_append, List.nil_append, List.mapM_cons,
                List.mapM_cons, hblock,
                ih _ (by omega) hafter (fun m hm => hcls m (hrest.subset hm))
                  (fun m hm => hcls' m (hrest'.subset hm)) rfl]

theorem Respaced.ofChars_eq (h : Respaced b b' t t') (hb : IsRun b) (hb' : IsRun b') :
    Program.ofChars room t = Program.ofChars room t' :=
  congrArg (Except.map Program.ofStmts) (mapM_cutOutside_eq hb hb' (h.codeOf hb hb')
    (fun _ => isCode_of_mem_codeOf) fun _ => isCode_of_mem_codeOf)

/-- Where no other blanks are around a run, three blanks stand for any wider run and one for any
narrower. -/
theorem ofChars_run (hb : IsRun b) {before after : List Char} (h : blanksBetween before after = 0) :
    Program.ofChars room (before ++ (b ++ after)) =
      Program.ofChars room (before ++ ((if 3 ≤ b.length then "   " else " ").toList ++ after)) := by
  split
  · refine Respaced.ofChars_eq (.run fun _ => ?_) hb (by decide)
    simp only [h, String.reduceToList, List.length_cons, List.length_nil]
    omega
  · refine Respaced.ofChars_eq (.run fun _ => ?_) hb (by decide)
    simp only [h, String.reduceToList, List.length_cons, List.length_nil]
    omega

/-- One run for another gives the same program, or fails in the same way, unless it makes room for an
operand or takes it away. A gap has that room from three blanks on: a blank is then the amount of a
move without one, or the test of a conditional without one. -/
theorem parse_of_run_replaced {b b' : List Char} (hb : IsRun b) (hb' : IsRun b') (room : Nat) :
    (∀ before after, KeepsOperands b b' before after →
      Program.parse room (String.ofList (before ++ (b' ++ after))) =
        Program.parse room (String.ofList (before ++ (b ++ after)))) ∧
    Program.parse (room + 1) (String.ofList ("MOVE".toList ++ (b ++ "FORWARD".toList))) =
      .ok (.ofStmts [if 3 ≤ b.length then .move (.literal 0) .forward else .noop]) ∧
    Program.parse (room + 1) (String.ofList ("IF".toList ++ (b ++ "THEN ATTACK".toList))) =
      .ok (.ofStmts [if 3 ≤ b.length then .ifThen (.literal 0) .attack else .noop]) := by
  have hread {source : String} {p : Program} (h : (Program.parse 1 source).toOption = some p) :
      Program.ofChars (room + 1) source.toList = .ok p :=
    Program.parse_of_le (parse_eq_ok_of_toOption h) (Nat.le_add_left 1 room)
  unfold Program.parse
  simp only [String.toList_ofList]
  refine ⟨fun before after hkeep => ?_, ?_, ?_⟩
  · exact (Respaced.ofChars_eq (.run hkeep) hb hb').symm
  · rw [ofChars_run hb (by decide)]
    split
    · exact @hread "MOVE   FORWARD" _ (by decide +kernel)
    · exact @hread "MOVE FORWARD" _ (by decide +kernel)
  · rw [ofChars_run hb (by decide)]
    split
    · exact @hread "IF   THEN ATTACK" _ (by decide +kernel)
    · exact @hread "IF THEN ATTACK" _ (by decide +kernel)

/-- In a block, next to a blank that is no space: the gap has room for a test before and after. -/
theorem parse_of_run_replaced_test :
    let before := "FUNCTION F:\n  IF".toList
    let after := "\u3000 THEN MOVE 1\tLEFT".toList
    IsRun "\t".toList ∧ IsRun "  \t".toList ∧ operandGap before after = true ∧
    KeepsOperands "\t".toList "  \t".toList before after ∧
    Program.parse 2 (String.ofList (before ++ ("  \t".toList ++ after))) =
      Program.parse 2 (String.ofList (before ++ ("\t".toList ++ after))) := by
  intro before after
  have hb : IsRun "\t".toList := by decide
  have hb' : IsRun "  \t".toList := by decide
  have hkeep : KeepsOperands "\t".toList "  \t".toList before after := by decide
  exact ⟨hb, hb', by decide, hkeep, (parse_of_run_replaced hb hb' 2).1 before after hkeep⟩

end TankArena.Script
