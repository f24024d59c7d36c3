import TankArena.Text.Letter
import TankArena.Text.Search

/-!
# Searches through texts of words

A word is a text without blanks. The searches for parts of a text are computed for texts that are
made of words with single blanks between them: a search whose continuation only goes on at a blank
stops at the ends of words and nowhere else.
-/

namespace TankArena.Text

/-- What all characters of a text have in common is decided on that text, not on all characters
there are. -/
instance decidableForallMem (p : Char → Prop) [DecidablePred p] (t : List Char) :
    Decidable (∀ c ∈ t, p c) := List.decidableBAll p t

/-! ## Solid texts and words -/

/-- The text does not start with a blank. -/
def StartsSolid (t : List Char) : Prop := ∀ c r, t = c :: r → isBlank c = false

/-- A text that is not empty and holds no blank. -/
structure IsWord (w : List Char) : Prop where
  ne_nil : w ≠ []
  solid : ∀ c ∈ w, isBlank c = false

/-- The text is at its end or goes on with a blank. -/
def StartsBlank (t : List Char) : Prop := ∀ c r, t = c :: r → isBlank c = true

theorem startsSolid_cons {c : Char} {t : List Char} : StartsSolid (c :: t) ↔ isBlank c = false := by
  simp [StartsSolid]

theorem startsBlank_nil : StartsBlank [] := by rintro c r ⟨⟩

theorem startsBlank_cons {c : Char} {t : List Char} : StartsBlank (c :: t) ↔ isBlank c = true := by
  simp [StartsBlank]

theorem IsWord.startsSolid {w r : List Char} (h : IsWord w) : StartsSolid (w ++ r) := by
  cases w with
  | nil => exact absurd rfl h.ne_nil
  | cons c w => exact startsSolid_cons.mpr (h.solid c List.mem_cons_self)

theorem IsWord.newline_notMem {w : List Char} (h : IsWord w) : '\n' ∉ w := fun hm =>
  absurd (h.solid _ hm) (by decide)

theorem trimStart_eq_self {t : List Char} (h : StartsSolid t) : trimStart t = t := by
  cases t with
  | nil => rfl
  | cons c t => simp [trimStart, h c t rfl]

theorem trimStart_blank {c : Char} {t : List Char} (h : isBlank c = true) :
    trimStart (c :: t) = trimStart t := by
  simp [trimStart, h]

theorem trimEnd_eq_self {t : List Char} (h : StartsSolid t.reverse) : trimEnd t = t := by
  have : trimStart t.reverse = t.reverse := trimStart_eq_self h
  simp only [trimStart] at this
  simp [trimEnd, this]

theorem trimEnd_blank {c : Char} {t : List Char} (h : isBlank c = true) :
    trimEnd (t ++ [c]) = trimEnd t := by
  simp [trimEnd, h]

theorem trim_eq_self {t : List Char} (h : StartsSolid t) (hr : StartsSolid t.reverse) :
    trim t = t := by
  rw [trim, trimStart_eq_self h, trimEnd_eq_self hr]

theorem trim_blank {c : Char} {t : List Char} (h : isBlank c = true) : trim (c :: t) = trim t := by
  rw [trim, trimStart_blank h, trim]

theorem trimStart_append {b : List Char} (h : ∀ c ∈ b, isBlank c = true) (t : List Char) :
    trimStart (b ++ t) = trimStart t := List.dropWhile_append_of_pos h

theorem trimEnd_append {b : List Char} (h : ∀ c ∈ b, isBlank c = true) (t : List Char) :
    trimEnd (t ++ b) = trimEnd t := by
  rw [trimEnd, List.reverse_append, List.dropWhile_append_of_pos, trimEnd]
  exact fun c hc => h c (List.mem_reverse.mp hc)

theorem trim_blanks_append {b : List Char} (h : ∀ c ∈ b, isBlank c = true) (t : List Char) :
    trim (b ++ t) = trim t := by
  rw [trim, trimStart_append h, trim]

theorem trim_append_blanks {b : List Char} (h : ∀ c ∈ b, isBlank c = true) (t : List Char) :
    trim (t ++ b) = trim t := by
  have hb : trimStart b = [] := by simpa using trimStart_append h []
  unfold trim
  cases ht : trimStart t with
  | nil =>
      have : trimStart (t ++ b) = [] := by
        rw [trimStart, List.dropWhile_append, ← trimStart, ht]
        exact hb
      rw [this]
  | cons c r =>
      have : trimStart (t ++ b) = (c :: r) ++ b := by
        rw [trimStart, List.dropWhile_append, ← trimStart, ht]
        rfl
      rw [this, trimEnd_append h]

theorem startsSolid_trimStart (t : List Char) : StartsSolid (trimStart t) := by
  induction t with
  | nil => intro c r h; cases h
  | cons c t ih =>
      cases hc : isBlank c with
      | true => rwa [trimStart_blank hc]
      | false =>
          rw [trimStart_eq_self (startsSolid_cons.mpr hc)]
          exact startsSolid_cons.mpr hc

theorem trimEnd_cons {c : Char} {t : List Char} (h : isBlank c = false) :
    trimEnd (c :: t) = c :: trimEnd t := by
  simp only [trimEnd, List.reverse_cons, List.dropWhile_append]
  split
  · rename_i hnil
    simp [List.isEmpty_iff.mp hnil, h]
  · simp

theorem startsSolid_trim (t : List Char) : StartsSolid (trim t) := by
  rw [trim]
  cases ht : trimStart t with
  | nil => intro c r h; cases h
  | cons c r =>
      have hc := startsSolid_trimStart t c r ht
      rw [trimEnd_cons hc]
      exact startsSolid_cons.mpr hc

theorem startsSolid_reverse_trim (t : List Char) : StartsSolid (trim t).reverse := by
  rw [trim, trimEnd, List.reverse_reverse]
  exact startsSolid_trimStart _

theorem exists_trimStart_eq (t : List Char) :
    ∃ b, t = b ++ trimStart t ∧ ∀ c ∈ b, isBlank c = true :=
  ⟨t.takeWhile isBlank, List.takeWhile_append_dropWhile.symm,
    List.all_eq_true.mp List.all_takeWhile⟩

theorem exists_trimEnd_eq (t : List Char) :
    ∃ b, t = trimEnd t ++ b ∧ ∀ c ∈ b, isBlank c = true := by
  obtain ⟨b, hb, hblank⟩ := exists_trimStart_eq t.reverse
  refine ⟨b.reverse, ?_, fun c hc => hblank c (List.mem_reverse.mp hc)⟩
  have := congrArg List.reverse hb
  rwa [List.reverse_reverse, List.reverse_append] at this

theorem exists_trim_eq (t : List Char) :
    ∃ a b, t = a ++ trim t ++ b ∧ (∀ c ∈ a, isBlank c = true) ∧ ∀ c ∈ b, isBlank c = true := by
  obtain ⟨a, ha, hblank⟩ := exists_trimStart_eq t
  obtain ⟨b, hb, hblank'⟩ := exists_trimEnd_eq (trimStart t)
  refine ⟨a, b, ?_, hblank, hblank'⟩
  rw [trim, List.append_assoc, ← hb]
  exact ha

theorem trim_ne_nil_of_mem {c : Char} {t : List Char} (hc : c ∈ t) (hsolid : isBlank c = false) :
    trim t ≠ [] := by
  intro hnil
  obtain ⟨a, b, hab, ha, hb⟩ := exists_trim_eq t
  rw [hab, hnil, List.append_nil] at hc
  have hblank : isBlank c = true := (List.mem_append.mp hc).elim (ha c) (hb c)
  rw [hblank] at hsolid
  cases hsolid

/-- A text with something in it and no blank at either end. -/
structure IsTidy (t : List Char) : Prop where
  ne_nil : t ≠ []
  front : StartsSolid t
  back : StartsSolid t.reverse

theorem IsTidy.trim_eq {t : List Char} (h : IsTidy t) : trim t = t := trim_eq_self h.front h.back

theorem IsTidy.reverse {t : List Char} (h : IsTidy t) : IsTidy t.reverse :=
  ⟨fun hnil => h.ne_nil (List.reverse_eq_nil_iff.mp hnil), h.back, by simpa using h.front⟩

theorem isTidy_trim {t : List Char} (h : trim t ≠ []) : IsTidy (trim t) :=
  ⟨h, startsSolid_trim t, startsSolid_reverse_trim t⟩

theorem IsTidy.startsSolid {t r : List Char} (h : IsTidy t) : StartsSolid (t ++ r) := by
  obtain ⟨c, t, rfl⟩ := List.exists_cons_of_ne_nil h.ne_nil
  exact startsSolid_cons.mpr (startsSolid_cons.mp h.front)

theorem IsTidy.append {t u : List Char} (ht : IsTidy t) (hu : IsTidy u) (m : List Char) :
    IsTidy (t ++ (m ++ u)) := by
  obtain ⟨c, t, rfl⟩ := List.exists_cons_of_ne_nil ht.ne_nil
  have hne : u.reverse ≠ [] := fun h => hu.ne_nil (List.reverse_eq_nil_iff.mp h)
  refine ⟨by simp, ht.startsSolid, ?_⟩
  obtain ⟨d, v, hv⟩ := List.exists_cons_of_ne_nil hne
  have hd := hu.back d v hv
  rw [List.reverse_append, List.reverse_append, hv]
  exact startsSolid_cons.mpr hd

theorem IsTidy.trim_blank {t : List Char} (h : IsTidy t) : trim (t ++ [' ']) = t := by
  obtain ⟨c, t, rfl⟩ := List.exists_cons_of_ne_nil h.ne_nil
  rw [trim, List.cons_append,
    trimStart_eq_self (startsSolid_cons.mpr (startsSolid_cons.mp h.front)), ← List.cons_append,
    trimEnd_blank (by decide), trimEnd_eq_self h.back]

theorem IsWord.isTidy {w : List Char} (h : IsWord w) : IsTidy w := by
  refine ⟨h.ne_nil, by simpa using h.startsSolid (r := []), ?_⟩
  intro c r hc
  refine h.solid c (List.mem_reverse.mp ?_)
  rw [hc]
  exact List.mem_cons_self

/-! ## Sentences -/

/-- Words with single blanks between them. -/
def sentence (ws : List (List Char)) : List Char := [' '].intercalate ws

theorem sentence_cons_cons (w v : List Char) (vs : List (List Char)) :
    sentence (w :: v :: vs) = w ++ ' ' :: sentence (v :: vs) := by
  simp [sentence, List.intercalate]

theorem sentence_singleton (w : List Char) : sentence [w] = w := by
  simp [sentence, List.intercalate]

theorem sentence_append {us vs : List (List Char)} (hu : us ≠ []) (hv : vs ≠ []) :
    sentence (us ++ vs) = sentence us ++ ' ' :: sentence vs := by
  induction us with
  | nil => exact absurd rfl hu
  | cons u us ih =>
      obtain ⟨v, vs, rfl⟩ := List.exists_cons_of_ne_nil hv
      cases us with
      | nil => rw [List.singleton_append, sentence_cons_cons, sentence_singleton]
      | cons u' us =>
          rw [List.cons_append, List.cons_append, sentence_cons_cons, ← List.cons_append,
            ih (by simp), sentence_cons_cons]
          simp

theorem mem_intercalate {d c : Char} {ts : List (List Char)} (h : c ∈ [d].intercalate ts) :
    c = d ∨ ∃ t ∈ ts, c ∈ t := by
  induction ts with
  | nil => cases h
  | cons t ts ih =>
      cases ts with
      | nil =>
          rw [List.intercalate_singleton] at h
          exact .inr ⟨t, List.mem_cons_self, h⟩
      | cons u us =>
          rw [List.intercalate_cons_cons, List.append_assoc, List.mem_append, List.mem_append,
            List.mem_singleton] at h
          rcases h with h | h | h
          · exact .inr ⟨t, List.mem_cons_self, h⟩
          · exact .inl h
          · exact (ih h).imp_right fun ⟨v, hv, hc⟩ => ⟨v, List.mem_cons_of_mem _ hv, hc⟩

theorem isTidy_sentence {ws : List (List Char)} (hne : ws ≠ []) (h : ∀ w ∈ ws, IsWord w) :
    IsTidy (sentence ws) := by
  induction ws with
  | nil => exact absurd rfl hne
  | cons w ws ih =>
      have hw := (h w List.mem_cons_self).isTidy
      cases ws with
      | nil => rwa [sentence_singleton]
      | cons v vs =>
          rw [sentence_cons_cons]
          exact hw.append (ih (by simp) fun u hu => h u (List.mem_cons_of_mem _ hu)) [' ']

theorem mem_sentence {ws : List (List Char)} {c : Char} (h : c ∈ sentence ws) :
    c = ' ' ∨ ∃ w ∈ ws, c ∈ w :=
  mem_intercalate h

/-! ## Keywords -/

theorem capital_of_isBlank {c : Char} (h : isBlank c = true) : capital c = c := by
  have hlow : ¬ ('a'.val ≤ c.val ∧ c.val ≤ 'z'.val) := by
    rintro ⟨h1, h2⟩
    have h1' : 97 ≤ c.toNat := UInt32.le_iff_toNat_le.mp h1
    have h2' : c.toNat ≤ 122 := UInt32.le_iff_toNat_le.mp h2
    simp only [isBlank, Bool.or_eq_true, Bool.and_eq_true, decide_eq_true_eq, beq_iff_eq] at h
    omega
  have hne (d : Char) (hd : isBlank d = false) : c ≠ d := by
    rintro rfl
    rw [h] at hd
    cases hd
  simp only [capital, hne '\u0131' (by decide), hne '\u0130' (by decide), hne '\u017F' (by decide),
    hne '\u212A' (by decide), decide_false, Bool.or_self, Bool.false_eq_true, ↓reduceIte]
  exact dif_neg hlow

theorem isKeyword_iff {k x : List Char} : isKeyword k x = true ↔ x.map capital = k := by
  simp [isKeyword]

theorem afterKeyword?_append {k x : List Char} (t : List Char) (h : isKeyword k x = true) :
    afterKeyword? k (x ++ t) = some t := by
  rw [isKeyword_iff] at h
  subst h
  induction x with
  | nil => rfl
  | cons c x ih => simpa [afterKeyword?] using ih

theorem afterKeyword?_eq_some {k t r : List Char} (h : afterKeyword? k t = some r) :
    ∃ x, isKeyword k x = true ∧ t = x ++ r := by
  induction k generalizing t with
  | nil => cases h; exact ⟨[], rfl, rfl⟩
  | cons c k ih =>
      cases t with
      | nil => cases h
      | cons d t =>
          simp only [afterKeyword?] at h
          split at h
          · rename_i hd
            obtain ⟨x, hx, rfl⟩ := ih h
            exact ⟨d :: x, by simpa [isKeyword, hd] using hx, rfl⟩
          · cases h

/-- A keyword at the front of a word is the whole word, or the word goes on after it. -/
theorem afterKeyword?_word {k w t r : List Char} (hk : ∀ c ∈ k, isBlank c = false)
    (ht : StartsBlank t) (h : afterKeyword? k (w ++ t) = some r) :
    (isKeyword k w = true ∧ r = t) ∨
    ∃ u v, isKeyword k u = true ∧ v ≠ [] ∧ w = u ++ v ∧ r = v ++ t := by
  obtain ⟨x, hx, heq⟩ := afterKeyword?_eq_some h
  rcases List.append_eq_append_iff.mp heq with ⟨u, rfl, rfl⟩ | ⟨v, rfl, rfl⟩
  · cases u with
    | nil => exact .inl ⟨by simpa using hx, rfl⟩
    | cons c u =>
        -- The keyword would hold the blank that ends the word.
        have hc := ht c (u ++ r) rfl
        have hmem : capital c ∈ k := by
          rw [isKeyword_iff] at hx
          rw [← hx]
          exact List.mem_map_of_mem (by simp)
        rw [capital_of_isBlank hc] at hmem
        rw [hk c hmem] at hc
        cases hc
  · cases v with
    | nil => exact .inl ⟨by simpa using hx, by simp⟩
    | cons c v => exact .inr ⟨x, c :: v, hx, by simp, rfl, rfl⟩

/-! ## Searches -/

variable {α : Type}

/-- A continuation that accepts no rest unless the rest is at its end or starts with a blank. -/
def Guarded (k : (part rest : List Char) → Option α) : Prop :=
  ∀ p c t, isBlank c = false → k p (c :: t) = none

theorem Guarded.cons {k : List Char → List Char → Option α} (h : Guarded k) (c : Char) :
    Guarded fun p => k (c :: p) := fun p => h (c :: p)

theorem Guarded.append {k : List Char → List Char → Option α} (h : Guarded k) (w : List Char) :
    Guarded fun p => k (w ++ p) := fun p => h (w ++ p)

theorem blanks_of_startsSolid {k : List Char → Option α} {t : List Char} (h : StartsSolid t) :
    blanks k t = none := by
  cases t with
  | nil => rfl
  | cons c t => simp [blanks, h c t rfl]

theorem blanks_one {k : List Char → Option α} {c : Char} {t : List Char} (hc : isBlank c = true)
    (h : StartsSolid t) : blanks k (c :: t) = k t := by
  simp [blanks, hc, blanks_of_startsSolid h]

theorem guarded_blanks (k : List Char → List Char → Option α) :
    Guarded fun p => blanks (k p) := fun _ _ _ hc => blanks_of_startsSolid (startsSolid_cons.mpr hc)

/-- After a keyword and blanks: the word before the blanks is the keyword. -/
theorem afterKeyword?_bind_blanks {k w t : List Char} (hk : ∀ c ∈ k, isBlank c = false)
    (hw : ∀ c ∈ w, isBlank c = false) (ht : StartsBlank t) (f : List Char → Option α) :
    (afterKeyword? k (w ++ t)).bind (blanks f) = if isKeyword k w then blanks f t else none := by
  split
  · rename_i hkw
    rw [afterKeyword?_append t hkw, Option.bind_some]
  · rename_i hkw
    cases hr : afterKeyword? k (w ++ t) with
    | none => rfl
    | some r =>
        rcases afterKeyword?_word hk ht hr with ⟨h, -⟩ | ⟨u, v, -, hv, rfl, rfl⟩
        · exact absurd h hkw
        · obtain ⟨c, v, rfl⟩ := List.exists_cons_of_ne_nil hv
          exact blanks_of_startsSolid (startsSolid_cons.mpr (hw c (by simp)))

/-- A search that accepts no part before the end of `p` goes on to that. -/
theorem shortest_append_of_none {k : List Char → List Char → Option α} {p r : List Char}
    (hne : p ≠ []) (hline : '\n' ∉ p)
    (hnone : ∀ p' d, p = p' ++ d → p' ≠ [] → d ≠ [] → k p' (d ++ r) = none) :
    shortest k (p ++ r) = (k p r).or (shortest (fun q => k (p ++ q)) r) := by
  induction p generalizing k with
  | nil => exact absurd rfl hne
  | cons c p ih =>
      rw [List.mem_cons, not_or] at hline
      rw [List.cons_append, shortest, if_neg (Ne.symm hline.1)]
      cases p with
      | nil => rfl
      | cons d p =>
          rw [hnone [c] (d :: p) rfl (by simp) (by simp), Option.none_or, ih (by simp) hline.2]
          · rfl
          · intro p' d' heq hp' hd'
            exact hnone (c :: p') d' (by rw [heq, List.cons_append]) (by simp) hd'

theorem shortest_word {k : List Char → List Char → Option α} (hk : Guarded k) {w : List Char}
    (hw : IsWord w) (r : List Char) :
    shortest k (w ++ r) = (k w r).or (shortest (fun p => k (w ++ p)) r) := by
  refine shortest_append_of_none hw.ne_nil hw.newline_notMem fun p d heq _ hd => ?_
  obtain ⟨c, d, rfl⟩ := List.exists_cons_of_ne_nil hd
  exact hk p c (d ++ r) (hw.solid c (by simp [heq]))

theorem shortest_blank {k : List Char → List Char → Option α} (hk : Guarded k) {t : List Char}
    (ht : StartsSolid t) (hne : t ≠ []) :
    shortest k (' ' :: t) = shortest (fun p => k (' ' :: p)) t := by
  obtain ⟨c, t, rfl⟩ := List.exists_cons_of_ne_nil hne
  rw [shortest, if_neg (by decide), hk [' '] c t (startsSolid_cons.mp ht), Option.none_or]

/-- A search that accepts no row of words before the last one goes on to that. -/
theorem shortest_sentence {k : List Char → List Char → Option α} (hk : Guarded k)
    {ws : List (List Char)} (hne : ws ≠ []) (hw : ∀ w ∈ ws, IsWord w) (r : List Char)
    (hstop : ∀ us v vs, ws = us ++ v :: vs → us ≠ [] →
      k (sentence us) (' ' :: (sentence (v :: vs) ++ r)) = none) :
    shortest k (sentence ws ++ r) =
      (k (sentence ws) r).or (shortest (fun p => k (sentence ws ++ p)) r) := by
  induction ws generalizing k with
  | nil => exact absurd rfl hne
  | cons w ws ih =>
      cases ws with
      | nil =>
          simp only [sentence_singleton]
          exact shortest_word hk (hw w List.mem_cons_self) r
      | cons v vs =>
          have hrest : ∀ u ∈ v :: vs, IsWord u := fun u hu => hw u (List.mem_cons_of_mem _ hu)
          have htidy := isTidy_sentence (by simp) hrest
          have hfirst := hstop [w] v vs rfl (by simp)
          rw [sentence_singleton] at hfirst
          rw [sentence_cons_cons, List.append_assoc, shortest_word hk (hw w List.mem_cons_self),
            List.cons_append, hfirst, Option.none_or,
            shortest_blank (hk.append w) htidy.startsSolid (by simp [htidy.ne_nil]),
            ih ((hk.append w).cons ' ') (by simp) hrest]
          · simp
          · intro us u us' heq hus
            have := hstop (w :: us) u us' (by rw [heq]; rfl) (by simp)
            obtain ⟨x, us, rfl⟩ := List.exists_cons_of_ne_nil hus
            rwa [sentence_cons_cons] at this

theorem longest_word {k : List Char → List Char → Option α} (hk : Guarded k) {w : List Char}
    (hw : IsWord w) (r : List Char) :
    longest k (w ++ r) = (longest (fun p => k (w ++ p)) r).or (k w r) := by
  obtain ⟨hne, hsolid⟩ := hw
  induction w generalizing k with
  | nil => exact absurd rfl hne
  | cons c w ih =>
      have hc : c ≠ '\n' := by
        rintro rfl
        exact absurd (hsolid '\n' List.mem_cons_self) (by decide)
      cases w with
      | nil => simp [longest, hc]
      | cons d w =>
          have hd := hsolid d (by simp)
          rw [List.cons_append, longest, if_neg hc, List.cons_append, hk [c] d (w ++ r) hd,
            Option.or_none, ← List.cons_append,
            ih (hk.cons c) (by simp) fun e he => hsolid e (List.mem_cons_of_mem _ he)]
          rfl

theorem longest_blank {k : List Char → List Char → Option α} (hk : Guarded k) {t : List Char}
    (ht : StartsSolid t) (hne : t ≠ []) :
    longest k (' ' :: t) = longest (fun p => k (' ' :: p)) t := by
  obtain ⟨c, t, rfl⟩ := List.exists_cons_of_ne_nil hne
  rw [longest, if_neg (by decide), hk [' '] c t (startsSolid_cons.mp ht), Option.or_none]

theorem longest_atEnd {f : List Char → α} {t : List Char} (hne : t ≠ []) (ht : '\n' ∉ t) :
    longest (fun p => atEnd (f p)) t = some (f t) := by
  induction t generalizing f with
  | nil => exact absurd rfl hne
  | cons c t ih =>
      have hc : c ≠ '\n' := fun h => ht (h ▸ List.mem_cons_self)
      rw [longest, if_neg hc]
      cases t with
      | nil => rfl
      | cons d t =>
          rw [ih (f := fun p => f (c :: p)) (by simp) fun h => ht (List.mem_cons_of_mem _ h)]
          rfl

/-! ## What a search has found -/

theorem blanks_eq_some {k : List Char → Option α} {t : List Char} {a : α}
    (h : blanks k t = some a) :
    ∃ b r, t = b ++ r ∧ b ≠ [] ∧ (∀ c ∈ b, isBlank c = true) ∧ k r = some a := by
  induction t with
  | nil => cases h
  | cons c t ih =>
      rw [blanks] at h
      split at h
      · rename_i hc
        rcases Option.or_eq_some_iff.mp h with h | ⟨-, h⟩
        · obtain ⟨b, r, rfl, -, hb, hr⟩ := ih h
          refine ⟨c :: b, r, rfl, by simp, fun d hd => ?_, hr⟩
          rcases List.mem_cons.mp hd with rfl | hd
          · exact hc
          · exact hb d hd
        · exact ⟨[c], t, rfl, by simp, by simpa using hc, h⟩
      · cases h

theorem blanks_isSome {k : List Char → Option α} {b r : List Char} (hne : b ≠ [])
    (hb : ∀ c ∈ b, isBlank c = true) (hr : (k r).isSome = true) :
    (blanks k (b ++ r)).isSome = true := by
  induction b with
  | nil => exact absurd rfl hne
  | cons c b ih =>
      rw [List.cons_append, blanks, if_pos (hb c List.mem_cons_self), Option.isSome_or]
      cases b with
      | nil => simp [hr]
      | cons d b => rw [ih (by simp) fun e he => hb e (List.mem_cons_of_mem _ he), Bool.true_or]

/-- The part that is found is accepted, and no shorter part is. -/
theorem shortest_eq_some {k : List Char → List Char → Option α} {t : List Char} {a : α}
    (h : shortest k t = some a) :
    ∃ p r, t = p ++ r ∧ k p r = some a ∧
      ∀ p' r', p = p' ++ r' → p' ≠ [] → r' ≠ [] → k p' (r' ++ r) = none := by
  induction t generalizing k with
  | nil => cases h
  | cons c t ih =>
      rw [shortest] at h
      split at h
      · cases h
      · rcases Option.or_eq_some_iff.mp h with h | ⟨hnone, h⟩
        · refine ⟨[c], t, rfl, h, fun p' r' heq hp hr => ?_⟩
          rcases List.append_eq_singleton_iff.mp heq.symm with ⟨rfl, -⟩ | ⟨-, rfl⟩
          · exact absurd rfl hp
          · exact absurd rfl hr
        · obtain ⟨p, r, rfl, hk, hmin⟩ := ih h
          refine ⟨c :: p, r, rfl, hk, fun p' r' heq hp hr => ?_⟩
          obtain ⟨d, p', rfl⟩ := List.exists_cons_of_ne_nil hp
          obtain ⟨rfl, rfl⟩ := List.cons.inj heq
          cases p' with
          | nil => exact hnone
          | cons e p' => exact hmin (e :: p') r' rfl (by simp) hr

theorem longest_eq_some {k : List Char → List Char → Option α} {t : List Char} {a : α}
    (h : longest k t = some a) : ∃ p r, t = p ++ r ∧ p ≠ [] ∧ k p r = some a := by
  induction t generalizing k with
  | nil => cases h
  | cons c t ih =>
      rw [longest] at h
      split at h
      · cases h
      · rcases Option.or_eq_some_iff.mp h with h | ⟨-, h⟩
        · obtain ⟨p, r, rfl, -, hk⟩ := ih h
          exact ⟨c :: p, r, rfl, by simp, hk⟩
        · exact ⟨[c], t, rfl, by simp, h⟩

end TankArena.Text
