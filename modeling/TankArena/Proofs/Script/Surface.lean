import TankArena.Proofs.Script.Gaps
import TankArena.Proofs.Script.Printing

/-!
# Surface forms

A statement may be written with its keywords and direction words in any letter case, with any gaps
between its words, with or without blanks around the equals sign, with blanks around it and with or
without a semicolon. However it is written, it is read as the statement it is, though its names may
be keywords.
-/

namespace TankArena.Script

open Text

/-! ## Writing a statement -/

/-- A word in any case of its ASCII letters. -/
def IsCased (k : String) (x : List Char) : Prop := x.map Char.toUpper = k.toList

instance (k : String) (x : List Char) : Decidable (IsCased k x) := inferInstanceAs (Decidable (_ = _))

/-- Nothing but blanks, if anything. -/
def AllBlank (b : List Char) : Prop := ∀ c ∈ b, isBlank c = true

instance : DecidablePred AllBlank := fun b => decidableForallMem _ b

/-- The ways to write a statement. A branch stays on one line. -/
inductive Surface : Stmt → List Char → Prop
  | assign {name value a b} : AllBlank a → AllBlank b →
      Surface (.assign name value) (name.toList ++ (a ++ '=' :: (b ++ value.text.toList)))
  | move {amount course k g h w} : IsCased "MOVE" k → IsGap g → IsGap h → IsCased course.name w →
      Surface (.move amount course) (k ++ (g ++ (amount.text.toList ++ (h ++ w))))
  | turn {side k g w} : IsCased "TURN" k → IsGap g → IsCased side.name w →
      Surface (.turn side) (k ++ (g ++ w))
  | scan {k} : IsCased "SCAN_FOR_ENEMY" k → Surface .scan k
  | attack {k} : IsCased "ATTACK" k → Surface .attack k
  | call {name k g} : IsCased "CALL" k → IsGap g → Surface (.call name) (k ++ (g ++ name.toList))
  | ifThen {test yes i g h t j y} : IsCased "IF" i → IsGap g → IsGap h → IsCased "THEN" t → IsGap j →
      Surface yes y → '\n' ∉ y →
      Surface (.ifThen test yes) (i ++ (g ++ (test.text.toList ++ (h ++ (t ++ (j ++ y))))))
  | ifElse {test yes no i g h t j y k e l n} : IsCased "IF" i → IsGap g → IsGap h →
      IsCased "THEN" t → IsGap j → Surface yes y → '\n' ∉ y → IsGap k → IsCased "ELSE" e → IsGap l →
      Surface no n → '\n' ∉ n →
      Surface (.ifElse test yes no)
        (i ++ (g ++ (test.text.toList ++ (h ++ (t ++ (j ++ (y ++ (k ++ (e ++ (l ++ n))))))))))

/-- A statement as a text of its own: blanks around it, and perhaps a semicolon. -/
inductive Written (s : Stmt) : List Char → Prop
  | bare {a t z} : AllBlank a → Surface s t → AllBlank z → Written s (a ++ (t ++ z))
  | terminated {a t b z} : AllBlank a → Surface s t → AllBlank b → AllBlank z →
      Written s (a ++ (t ++ (b ++ ';' :: z)))

/-! ## Cased words -/

variable {s : Stmt} {k : String} {t x : List Char}

theorem toUpper_eq_or_isLower (c : Char) : c.toUpper = c ∨ c.isLower = true := by
  by_cases h : 'a'.val ≤ c.val ∧ c.val ≤ 'z'.val
  · exact .inr ((Bool.and_eq_true _ _).mpr ⟨decide_eq_true h.1, decide_eq_true h.2⟩)
  · exact .inl (dif_neg h)

theorem capital_of_ascii {c : Char} (h : c.toNat < 128) :
    capital c = c.toUpper ∧ upper c = c.toUpper := by
  have hne (d : Char) (hd : 127 < d.toNat) : c ≠ d := by
    rintro rfl
    omega
  simp [capital, upper, hne '\u0131' (by decide), hne '\u0130' (by decide), hne '\u017F' (by decide),
    hne '\u212A' (by decide)]

theorem isNameChar_of_toUpper {c : Char} (h : isNameChar c.toUpper = true) : isNameChar c = true := by
  rcases toUpper_eq_or_isLower c with hc | hc
  · rwa [hc] at h
  · have halpha : c.isAlpha = true := (Bool.or_eq_true _ _).mpr (.inr hc)
    simp [isNameChar, Char.isAlphanum, halpha]

/-- The letters of a cased word are ASCII, since those of the word are. -/
theorem IsCased.chars (h : IsCased k x) (hk : ∀ c ∈ k.toList, isNameChar c = true) :
    ∀ c ∈ x, isNameChar c = true := by
  intro c hc
  refine isNameChar_of_toUpper (hk _ ?_)
  rw [← h]
  exact List.mem_map_of_mem hc

theorem IsCased.map_capital (h : IsCased k x) (hk : ∀ c ∈ k.toList, isNameChar c = true) :
    x.map capital = k.toList ∧ x.map upper = k.toList := by
  have hascii : ∀ c ∈ x, capital c = c.toUpper ∧ upper c = c.toUpper := fun c hc => by
    have := toNat_of_isNameChar (h.chars hk c hc)
    exact capital_of_ascii (by omega)
  rw [← h]
  exact ⟨List.map_congr_left fun c hc => (hascii c hc).1, List.map_congr_left fun c hc => (hascii c hc).2⟩

theorem IsCased.isKeyword (h : IsCased k x) (hk : ∀ c ∈ k.toList, isNameChar c = true) :
    isKeyword k.toList x = true := isKeyword_iff.mpr (h.map_capital hk).1

theorem IsCased.isWord (h : IsCased k x) (hk : ∀ c ∈ k.toList, isNameChar c = true)
    (hne : k.toList ≠ []) : IsWord x :=
  isWord_of_isKeyword ⟨hne, fun c hc => isBlank_of_isNameChar (hk c hc)⟩ (h.isKeyword hk)

theorem IsCased.head (h : IsCased k x) (hk : ∀ c ∈ k.toList, isNameChar c = true) {c : Char}
    {r : List Char} (hc : k.toList = c :: r) : ∃ d u, x = d :: u ∧ capital d = c := by
  have hmap := (h.map_capital hk).1
  cases x with
  | nil => rw [hc] at hmap; cases hmap
  | cons d u =>
      rw [hc] at hmap
      exact ⟨d, u, rfl, (List.cons.inj hmap).1⟩

theorem isNameChar_courseName (course : Course) : ∀ c ∈ course.name.toList, isNameChar c = true := by
  cases course <;> decide

theorem isNameChar_sideName (side : Side) : ∀ c ∈ side.name.toList, isNameChar c = true := by
  cases side <;> decide

theorem Course.read_cased {course : Course} (h : IsCased course.name x) :
    Course.read x = .ok course := by
  rw [← Course.read_name course]
  have hname := (h.map_capital (isNameChar_courseName course)).2
  have hself : course.name.toList.map upper = course.name.toList := by cases course <;> decide
  simp only [Course.read, hname, hself]

theorem Side.read_cased {side : Side} (h : IsCased side.name x) : Side.read x = .ok side := by
  have hname := (h.map_capital (isNameChar_sideName side)).2
  simp only [Side.read, hname]
  cases side <;> rfl

theorem isOneOf_cased {ks : List String} (hk : ∀ c ∈ k.toList, isNameChar c = true)
    (hmem : k ∈ ks) (h : IsCased k x) : isOneOf ks x = true :=
  List.any_eq_true.mpr ⟨k, hmem, h.isKeyword hk⟩

/-! ## Statements that hold no other -/

theorem assignment?_of_gap {r g : List Char} (hx : ∀ c ∈ x, isNameChar c = true) (hg : IsGap g)
    (hr : StartsSolid r) (hne : ∀ u, r ≠ '=' :: u) : assignment? (x ++ (g ++ r)) = none := by
  rw [assignment?_word hx (hg.startsBlank r), trimStart_append hg.blank, trimStart_eq_self hr]
  split
  · rename_i u
    exact absurd rfl (hne u)
  · rfl

theorem afterWord?_of_gap {r g : List Char} (hx : isKeyword k.toList x = true) (hg : IsGap g)
    (hr : StartsSolid r) : afterWord? k (x ++ (g ++ r)) = some r := by
  obtain ⟨c, g, rfl⟩ := List.exists_cons_of_ne_nil hg.ne_nil
  obtain ⟨hc, hblank⟩ := List.forall_mem_cons.mp hg.blank
  rw [afterWord?, afterKeyword?_append _ hx]
  simp only [List.cons_append, hc, ↓reduceIte, trimStart_append hblank, trimStart_eq_self hr]

/-- The equals sign ends the name, with or without blanks before it. -/
theorem assignment?_surface {name value a b : List Char} (hname : isName name = true)
    (hvalue : IsWord value) (ha : AllBlank a) (hb : AllBlank b) :
    assignment? (name ++ (a ++ '=' :: (b ++ value))) = some (name, value) := by
  have hchars := isNameChar_of_isName hname
  have hstop : (a ++ '=' :: (b ++ value)).takeWhile isNameChar = [] ∧
      (a ++ '=' :: (b ++ value)).dropWhile isNameChar = a ++ '=' :: (b ++ value) := by
    cases a with
    | nil => exact ⟨rfl, rfl⟩
    | cons c a => simp [isNameChar_of_isBlank (ha c List.mem_cons_self)]
  have hline : value.contains '\n' = false := by simpa using hvalue.newline_notMem
  simp only [assignment?, List.takeWhile_append_of_pos hchars, List.dropWhile_append_of_pos hchars,
    hstop, List.append_nil, trimStart_append ha, trimStart_append hb,
    trimStart_eq_self (startsSolid_cons.mpr (by decide : isBlank '=' = false)),
    trimStart_eq_self hvalue.isTidy.front, hname, hvalue.ne_nil, hline, ne_eq, not_false_eq_true,
    decide_true, Bool.not_false, Bool.and_self, ↓reduceIte]

theorem assignment?_of_chars (hx : ∀ c ∈ x, isNameChar c = true) : assignment? x = none := by
  have := assignment?_word hx (t := []) startsBlank_nil
  rwa [List.append_nil] at this

theorem startsSolid_of_chars (hx : ∀ c ∈ x, isNameChar c = true) : StartsSolid x := by
  rintro c r rfl
  exact isBlank_of_isNameChar (hx c List.mem_cons_self)

theorem ne_equals_of_chars (hx : ∀ c ∈ x, isNameChar c = true) (u : List Char) : x ≠ '=' :: u := by
  rintro rfl
  exact absurd (hx '=' List.mem_cons_self) (by decide)

theorem readPlain_move_surface {amount : Expr} {course : Course} {w g h : List Char}
    (ha : amount.Legible) (hx : IsCased "MOVE" x) (hg : IsGap g) (hh : IsGap h)
    (hw : IsCased course.name w) :
    readPlain (x ++ (g ++ (amount.text.toList ++ (h ++ w)))) = .ok (.move amount course) := by
  have hword := ha.isPlainWord.isWord
  have hassign : assignment? (x ++ (g ++ (amount.text.toList ++ (h ++ w)))) = none :=
    assignment?_of_gap (hx.chars (by decide)) hg hword.startsSolid (amount.text_append_ne _)
  have hcourse : isOneOf courseWords w = true :=
    isOneOf_cased (isNameChar_courseName course) (by cases course <;> decide) hw
  have hmove := move?_spread (hx.isKeyword (by decide)) ⟨g, _, hg, hword⟩ []
    ⟨h, w, hh, wordy_courseWords w hcourse⟩
  simp only [List.nil_append, spread_cons, spread_nil, List.append_nil, hcourse, ↓reduceIte] at hmove
  have hend : ∀ c ∈ h.dropLast, isBlank c = true := fun c hc =>
    hh.blank c (List.dropLast_subset _ hc)
  rw [readPlain, hassign, hmove]
  simp only [Course.read_cased hw, Expr.ofChars_append hend, ha.ofChars_text]
  rfl

theorem readPlain_turn_surface {side : Side} {w g : List Char} (hx : IsCased "TURN" x) (hg : IsGap g)
    (hw : IsCased side.name w) : readPlain (x ++ (g ++ w)) = .ok (.turn side) := by
  have hchars := hw.chars (isNameChar_sideName side)
  have hsolid := startsSolid_of_chars hchars
  have hassign : assignment? (x ++ (g ++ w)) = none :=
    assignment?_of_gap (hx.chars (by decide)) hg hsolid (ne_equals_of_chars hchars)
  have hside : isOneOf sideWords w = true :=
    isOneOf_cased (isNameChar_sideName side) (by cases side <;> decide) hw
  have hturn : turn? (x ++ (g ++ w)) = some w := by
    rw [turn?, afterWord?_of_gap (hx.isKeyword (by decide)) hg hsolid, Option.filter_some, if_pos hside]
  obtain ⟨c, u, rfl, hc⟩ := hx.head (by decide) rfl
  rw [readPlain, hassign, List.cons_append, move?_of_head (by rw [hc]; decide), ← List.cons_append,
    hturn]
  simp only [Side.read_cased hw]
  rfl

theorem readPlain_call_surface {name : String} {g : List Char}
    (hname : isLooseName name.toList = true) (hx : IsCased "CALL" x) (hg : IsGap g) :
    readPlain (x ++ (g ++ name.toList)) = .ok (.call name) := by
  have hsolid := (isPlainWord_of_isLooseName hname).isWord.isTidy.front
  have hassign : assignment? (x ++ (g ++ name.toList)) = none := by
    refine assignment?_of_gap (hx.chars (by decide)) hg hsolid fun u hu => ?_
    exact absurd (isLooseNameChar_of_isLooseName hname '=' (hu ▸ List.mem_cons_self)) (by decide)
  have hcall : call? (x ++ (g ++ name.toList)) = some name.toList := by
    rw [call?, afterWord?_of_gap (hx.isKeyword (by decide)) hg hsolid, Option.filter_some,
      if_pos hname]
  obtain ⟨c, u, rfl, hc⟩ := hx.head (by decide) rfl
  rw [readPlain_of_head (c := c) rfl hassign (by rw [hc]; decide), hcall, Option.map_some,
    Option.getD_some, String.ofList_toList]

theorem Surface.readPlain_eq (h : Surface s t) (hs : s.IsSimple) : readPlain t = .ok s := by
  cases h with
  | assign ha hb =>
      rw [readPlain, assignment?_surface hs.1 hs.2.isPlainWord.isWord ha hb]
      simp only [String.ofList_toList, hs.2.ofChars_text]
  | move hx hg hh hw => exact readPlain_move_surface hs hx hg hh hw
  | turn hx hg hw => exact readPlain_turn_surface hx hg hw
  | scan hx =>
      have hscan : isScan t = true := hx.isKeyword (by decide)
      have hassign := assignment?_of_chars (hx.chars (by decide))
      obtain ⟨c, u, rfl, hc⟩ := hx.head (by decide) rfl
      simp only [readPlain, hassign, move?_of_head (c := c) (by rw [hc]; decide),
        turn?_of_head (c := c) (by rw [hc]; decide), hscan, ↓reduceIte]
  | attack hx =>
      have hattack : isAttack t = true := hx.isKeyword (by decide)
      have hassign := assignment?_of_chars (hx.chars (by decide))
      obtain ⟨c, u, rfl, hc⟩ := hx.head (by decide) rfl
      simp only [readPlain, hassign, move?_of_head (c := c) (by rw [hc]; decide),
        turn?_of_head (c := c) (by rw [hc]; decide), isScan_of_head (c := c) (by rw [hc]; decide),
        hattack, Bool.false_eq_true, ↓reduceIte]
  | call hx hg => exact readPlain_call_surface hs hx hg
  | ifThen => exact hs.elim
  | ifElse => exact hs.elim

/-! ## Characters and words of a surface form -/

/-- A character that a surface form may have: no terminator and no colon of a header. -/
def isSurfaceChar (c : Char) : Bool :=
  isBlank c || isNameChar c || isLooseNameChar c || ['=', '$', '-'].contains c

theorem isSurfaceChar_of_isNameChar {c : Char} (h : isNameChar c = true) : isSurfaceChar c = true := by
  simp [isSurfaceChar, h]

theorem isSurfaceChar_of_mem_text {e : Expr} (he : e.Legible) :
    ∀ c ∈ e.text.toList, isSurfaceChar c = true := by
  intro c hc
  rcases e with n | name
  · rcases mem_decimal hc with rfl | hc
    · decide
    · exact isSurfaceChar_of_isNameChar (by simp [isNameChar, Char.isAlphanum, hc])
  · simp only [Expr.text, String.toList_append, List.mem_append] at hc
    rcases hc with hc | hc
    · rw [List.mem_singleton.mp hc]; decide
    · exact isSurfaceChar_of_isNameChar (isNameChar_of_isName he c hc)

theorem AllBlank.isSurfaceChar {b : List Char} (hb : AllBlank b) : ∀ c ∈ b, isSurfaceChar c = true :=
  fun c hc => by simp [Script.isSurfaceChar, hb c hc]

theorem IsCased.isSurfaceChar (h : IsCased k x) (hk : ∀ c ∈ k.toList, isNameChar c = true) :
    ∀ c ∈ x, isSurfaceChar c = true := fun c hc => isSurfaceChar_of_isNameChar (h.chars hk c hc)

theorem Surface.isSurfaceChar (h : Surface s t) (hs : s.IsLine) : ∀ c ∈ t, isSurfaceChar c = true := by
  have hgap {g : List Char} (hg : IsGap g) := AllBlank.isSurfaceChar hg.blank
  induction h with
  | @assign name _ _ _ ha hb =>
      have hname : ∀ c ∈ name.toList, Script.isSurfaceChar c = true := fun c hc =>
        isSurfaceChar_of_isNameChar (isNameChar_of_isName hs.1 c hc)
      simp only [List.forall_mem_append, List.forall_mem_cons]
      exact ⟨hname, ha.isSurfaceChar, by decide, hb.isSurfaceChar, isSurfaceChar_of_mem_text hs.2⟩
  | move hx hg hh hw =>
      simp only [List.forall_mem_append]
      exact ⟨hx.isSurfaceChar (by decide), hgap hg, isSurfaceChar_of_mem_text hs, hgap hh,
        hw.isSurfaceChar (isNameChar_courseName _)⟩
  | turn hx hg hw =>
      simp only [List.forall_mem_append]
      exact ⟨hx.isSurfaceChar (by decide), hgap hg, hw.isSurfaceChar (isNameChar_sideName _)⟩
  | scan hx => exact hx.isSurfaceChar (by decide)
  | attack hx => exact hx.isSurfaceChar (by decide)
  | @call name _ _ hx hg =>
      have hname : ∀ c ∈ name.toList, Script.isSurfaceChar c = true := fun c hc => by
        simp [Script.isSurfaceChar, isLooseNameChar_of_isLooseName hs c hc]
      simp only [List.forall_mem_append]
      exact ⟨hx.isSurfaceChar (by decide), hgap hg, hname⟩
  | ifThen hi hg hh ht hj _ _ ih =>
      simp only [List.forall_mem_append]
      exact ⟨hi.isSurfaceChar (by decide), hgap hg, isSurfaceChar_of_mem_text hs.1, hgap hh,
        ht.isSurfaceChar (by decide), hgap hj, ih hs.2.isLine⟩
  | ifElse hi hg hh ht hj _ _ hk he hl _ _ ihy ihn =>
      simp only [List.forall_mem_append]
      exact ⟨hi.isSurfaceChar (by decide), hgap hg, isSurfaceChar_of_mem_text hs.1, hgap hh,
        ht.isSurfaceChar (by decide), hgap hj, ihy hs.2.1.isLine, hgap hk,
        he.isSurfaceChar (by decide), hgap hl, ihn hs.2.2.1.isLine⟩

theorem Surface.notMem (h : Surface s t) (hs : s.IsLine) {c : Char}
    (hc : Script.isSurfaceChar c = false) : c ∉ t := fun hm => by
  rw [h.isSurfaceChar hs c hm] at hc
  cases hc

/-- The words of an assignment, which may be glued to its equals sign. -/
theorem exists_spread_assign {name value a b : List Char} (hname : IsWord name) (hvalue : IsWord value)
    (ha : AllBlank a) (hb : AllBlank b) (hna : '\n' ∉ a) (hnb : '\n' ∉ b) :
    ∃ w ps, IsWord w ∧ name ++ (a ++ '=' :: (b ++ value)) = w ++ spread ps ∧
      ∀ p ∈ ps, '=' ∈ p.word ∨ p.word = value := by
  have heq : IsWord ['='] := ⟨by decide, by decide⟩
  have hglue {u v : List Char} (hu : IsWord u) (hv : IsWord v) : IsWord (u ++ v) :=
    ⟨by simp [hu.ne_nil], List.forall_mem_append.mpr ⟨hu.solid, hv.solid⟩⟩
  by_cases hanil : a = []
  · subst hanil
    by_cases hbnil : b = []
    · subst hbnil
      exact ⟨name ++ (['='] ++ value), [], hglue hname (hglue heq hvalue), by simp, by simp⟩
    · exact ⟨name ++ ['='], [⟨b, value, ⟨hbnil, hb, hnb⟩, hvalue⟩], hglue hname heq, by simp, by simp⟩
  · by_cases hbnil : b = []
    · subst hbnil
      exact ⟨name, [⟨a, ['='] ++ value, ⟨hanil, ha, hna⟩, hglue heq hvalue⟩], hname, by simp, by simp⟩
    · exact ⟨name, [⟨a, ['='], ⟨hanil, ha, hna⟩, heq⟩, ⟨b, value, ⟨hbnil, hb, hnb⟩, hvalue⟩], hname,
        by simp, by simp⟩

/-- The words of a branch. None but the first and the name in a call can be ELSE. -/
theorem Surface.exists_spread (h : Surface s t) (hs : s.IsSimple) (hline : '\n' ∉ t) :
    ∃ w ps, IsWord w ∧ t = w ++ spread ps ∧ cutAt "ELSE".toList ps = none ∧
      (s.callsElse = false → ∀ p ∈ ps, isKeyword "ELSE".toList p.word = false) := by
  cases h with
  | @assign name value a b ha hb =>
      simp only [List.mem_append, List.mem_cons, not_or] at hline
      obtain ⟨w, ps, hw, heq, hps⟩ := exists_spread_assign (isPlainWord_of_isName hs.1).isWord
        hs.2.isPlainWord.isWord ha hb hline.2.1 hline.2.2.2.1
      have helse : ∀ p ∈ ps, isKeyword "ELSE".toList p.word = false := fun p hp => by
        rcases hps p hp with hmem | hword
        · rw [Bool.eq_false_iff]
          intro hkw
          have hcap : capital '=' ∈ "ELSE".toList := by
            rw [← isKeyword_iff.mp hkw]
            exact List.mem_map_of_mem hmem
          exact absurd hcap (by decide)
        · rw [hword]
          exact value.isKeyword_text (by decide)
      exact ⟨w, ps, hw, heq, cutAt_eq_none helse, fun _ => helse⟩
  | @move amount course k g h w hx hg hh hw =>
      have hword : IsWord w := hw.isWord (isNameChar_courseName course) (by cases course <;> decide)
      have hcourse : isKeyword "ELSE".toList w = false := by
        rw [isKeyword, (hw.map_capital (isNameChar_courseName course)).1]
        cases course <;> decide
      have hamount : isKeyword "ELSE".toList amount.text.toList = false :=
        amount.isKeyword_text (by decide)
      have helse : ∀ p ∈ [Piece.mk g _ hg (Expr.Legible.isPlainWord hs).isWord, ⟨h, w, hh, hword⟩],
          isKeyword "ELSE".toList p.word = false := by
        simp only [List.forall_mem_cons]
        exact ⟨hamount, hcourse, by simp⟩
      exact ⟨k, _, hx.isWord (by decide) (by decide), by simp, cutAt_eq_none helse, fun _ => helse⟩
  | @turn side k g w hx hg hw =>
      have hword : IsWord w := hw.isWord (isNameChar_sideName side) (by cases side <;> decide)
      have hside : isKeyword "ELSE".toList w = false := by
        rw [isKeyword, (hw.map_capital (isNameChar_sideName side)).1]
        cases side <;> decide
      refine ⟨k, [⟨g, w, hg, hword⟩], hx.isWord (by decide) (by decide), by simp, rfl, fun _ => ?_⟩
      simp only [List.forall_mem_singleton]
      exact hside
  | scan hx => exact ⟨t, [], hx.isWord (by decide) (by decide), by simp, rfl, by simp⟩
  | attack hx => exact ⟨t, [], hx.isWord (by decide) (by decide), by simp, rfl, by simp⟩
  | @call name k g hx hg =>
      refine ⟨k, [⟨g, _, hg, (isPlainWord_of_isLooseName hs).isWord⟩],
        hx.isWord (by decide) (by decide), by simp, rfl, fun helse => ?_⟩
      simp only [List.forall_mem_singleton]
      exact helse
  | ifThen => exact hs.elim
  | ifElse => exact hs.elim

/-! ## Lines -/

theorem Surface.readBranch_eq (h : Surface s t) (hs : s.IsSimple) (ht : IsTidy t) :
    readBranch t = .ok s := by
  rw [readBranch, withoutTerminator_of_notMem (h.notMem hs.isLine (by decide)), ht.trim_eq,
    h.readPlain_eq hs]

theorem conditional?_surface {test i g h u j w : List Char} (hi : IsCased "IF" i) (hg : IsGap g)
    (htest : IsWord test) (hh : IsGap h) (hu : IsCased "THEN" u) (hj : IsGap j) (hw : IsWord w)
    (ps : List Piece) :
    conditional? (i ++ (g ++ (test ++ (h ++ (u ++ (j ++ (w ++ spread ps))))))) =
      branches? test (w ++ spread ps) := by
  have hword := hu.isWord (by decide) (by decide)
  have hcut : cutAt "THEN".toList (⟨h, u, hh, hword⟩ :: ⟨j, w, hj, hw⟩ :: ps) =
      some ([], ⟨j, w, hj, hw⟩, ps) :=
    cutAt_append (List.forall_mem_nil _) (hu.isKeyword (by decide)) _ _
  have := conditional?_of_cutAt (p := ⟨g, test, hg, htest⟩) (hi.isKeyword (by decide)) hcut
  simpa using this

theorem readLine_ifThen_surface {e : Expr} {yes : Stmt} {i g h u j y : List Char} (he : e.Legible)
    (hs : yes.IsSimple) (hi : IsCased "IF" i) (hg : IsGap g) (hh : IsGap h) (hu : IsCased "THEN" u)
    (hj : IsGap j) (hy : Surface yes y) (hline : '\n' ∉ y) :
    readLine (i ++ (g ++ (e.text.toList ++ (h ++ (u ++ (j ++ y)))))) = .ok (.ifThen e yes) := by
  obtain ⟨w, ps, hw, rfl, hcut, -⟩ := hy.exists_spread hs hline
  have hbranch := branches?_spread e.text.toList hw ps
  rw [hcut] at hbranch
  rw [readLine, conditional?_surface hi hg he.isPlainWord.isWord hh hu hj hw, hbranch]
  simp only [hy.readBranch_eq hs (hw.isTidy_spread ps), he.ofChars_text]
  rfl

theorem readLine_ifElse_surface {e : Expr} {yes no : Stmt} {i g h u j y k v l n : List Char}
    (he : e.Legible) (hs : yes.IsSimple) (hs' : no.IsSimple) (helse : yes.callsElse = false)
    (hi : IsCased "IF" i) (hg : IsGap g) (hh : IsGap h) (hu : IsCased "THEN" u) (hj : IsGap j)
    (hy : Surface yes y) (hline : '\n' ∉ y) (hk : IsGap k) (hv : IsCased "ELSE" v) (hl : IsGap l)
    (hn : Surface no n) (hline' : '\n' ∉ n) :
    readLine (i ++ (g ++ (e.text.toList ++ (h ++ (u ++ (j ++ (y ++ (k ++ (v ++ (l ++ n)))))))))) =
      .ok (.ifElse e yes no) := by
  obtain ⟨w, ps, hw, rfl, -, hps⟩ := hy.exists_spread hs hline
  obtain ⟨w', qs, hw', rfl, -, -⟩ := hn.exists_spread hs' hline'
  have hcut := cutAt_append (hps helse) (p := ⟨k, v, hk, hv.isWord (by decide) (by decide)⟩)
    (hv.isKeyword (by decide)) ⟨l, w', hl, hw'⟩ qs
  have hbranch := branches?_spread e.text.toList hw
    (ps ++ ⟨k, v, hk, hv.isWord (by decide) (by decide)⟩ :: ⟨l, w', hl, hw'⟩ :: qs)
  have hcond := conditional?_surface hi hg he.isPlainWord.isWord hh hu hj hw
    (ps ++ ⟨k, v, hk, hv.isWord (by decide) (by decide)⟩ :: ⟨l, w', hl, hw'⟩ :: qs)
  rw [hbranch, hcut] at hcond
  simp only [spread_append, spread_cons] at hcond
  simp only [List.append_assoc] at hcond ⊢
  rw [readLine, hcond]
  simp only [hy.readBranch_eq hs (hw.isTidy_spread ps), hn.readBranch_eq hs' (hw'.isTidy_spread qs),
    he.ofChars_text]
  rfl

/-- Between the name and the value of an assignment there is no THEN, on one line or on many. -/
theorem conditional?_assign {name value a b : List Char} (hname : IsWord name) (hvalue : IsWord value)
    (ha : AllBlank a) (hb : AllBlank b) :
    conditional? (name ++ (a ++ '=' :: (b ++ value))) = none := by
  have hcap {c : Char} (hc : isBlank c = true) : capital c ≠ 'T' := by
    rw [capital_of_isBlank hc]
    rintro rfl
    cases hc
  have hmiddle : ∀ c ∈ a ++ '=' :: b, capital c ≠ 'T' := by
    simp only [List.forall_mem_append, List.forall_mem_cons]
    exact ⟨fun c hc => hcap (ha c hc), by decide, fun c hc => hcap (hb c hc)⟩
  cases h : conditional? (name ++ (a ++ '=' :: (b ++ value))) with
  | none => rfl
  | some r =>
      obtain ⟨x, d, test, d', y, d'', v, heq, ⟨hd, hdb⟩, hy, ⟨hd'', hdb''⟩, -⟩ := conditional?_eq_some h
      obtain ⟨e, d, rfl⟩ := List.exists_cons_of_ne_nil hd
      obtain ⟨e'', d'', rfl⟩ := List.exists_cons_of_ne_nil hd''
      have he : isBlank e = true := hdb e List.mem_cons_self
      have he'' : isBlank e'' = true := hdb'' e'' List.mem_cons_self
      have hsplit : (name ++ (a ++ '=' :: b)) ++ value =
          ((x ++ (e :: d ++ (test ++ d'))) ++ y) ++ e'' :: (d'' ++ v) := by simpa using heq
      -- The blank after THEN is not in the value, and the one before it not in the name.
      rcases List.append_eq_append_iff.mp hsplit with ⟨m, -, hm⟩ | ⟨m, hm, -⟩
      · have := hvalue.solid e'' (by rw [hm]; simp)
        rw [he''] at this
        cases this
      · rw [List.append_assoc (x ++ _)] at hm
        rcases List.append_eq_append_iff.mp hm with ⟨n, -, hn⟩ | ⟨n, hn, -⟩
        · cases y with
          | nil => cases hy
          | cons c y =>
              exact (hmiddle c (by rw [hn]; simp) (List.cons.inj (isKeyword_iff.mp hy)).1).elim
        · have := hname.solid e (by rw [hn]; simp)
          rw [he] at this
          cases this

/-- A line in a surface form is read as what it is. -/
theorem Surface.readLine_eq (h : Surface s t) (hs : s.IsLine) : readLine t = .ok s := by
  have hplain {s : Stmt} {t : List Char} (h : Surface s t) (hs : s.IsSimple)
      (hcond : conditional? t = none) : readLine t = .ok s := by
    simp only [readLine, hcond, h.readPlain_eq hs]
  have hhead {k : String} {x : List Char} (hx : IsCased k x)
      (hk : ∀ c ∈ k.toList, isNameChar c = true) {c : Char} {r : List Char} (hc : k.toList = c :: r)
      (hne : c ≠ 'I') (u : List Char) : conditional? (x ++ u) = none := by
    obtain ⟨d, y, rfl, hd⟩ := hx.head hk hc
    exact conditional?_of_head (c := d) rfl (by rw [hd]; exact hne)
  cases h with
  | assign ha hb =>
      exact hplain (.assign ha hb) hs (conditional?_assign (isPlainWord_of_isName hs.1).isWord
        hs.2.isPlainWord.isWord ha hb)
  | move hx hg hh hw => exact hplain (.move hx hg hh hw) hs (hhead hx (by decide) rfl (by decide) _)
  | turn hx hg hw => exact hplain (.turn hx hg hw) hs (hhead hx (by decide) rfl (by decide) _)
  | scan hx =>
      refine hplain (.scan hx) hs ?_
      rw [← List.append_nil t]
      exact hhead hx (by decide) rfl (by decide) []
  | attack hx =>
      refine hplain (.attack hx) hs ?_
      rw [← List.append_nil t]
      exact hhead hx (by decide) rfl (by decide) []
  | call hx hg => exact hplain (.call hx hg) hs (hhead hx (by decide) rfl (by decide) _)
  | ifThen hi hg hh hu hj hy hline =>
      exact readLine_ifThen_surface hs.1 hs.2 hi hg hh hu hj hy hline
  | ifElse hi hg hh hu hj hy hline hk hv hl hn hline' =>
      exact readLine_ifElse_surface hs.1 hs.2.1 hs.2.2.1 hs.2.2.2 hi hg hh hu hj hy hline hk hv hl hn
        hline'

/-! ## Texts of their own -/

theorem Surface.isTidy (h : Surface s t) (hs : s.IsLine) : IsTidy t := by
  induction h with
  | @assign _ _ a b ha hb =>
      have := (isPlainWord_of_isName hs.1).isWord.isTidy.append hs.2.isPlainWord.isWord.isTidy
        (a ++ '=' :: b)
      simpa using this
  | @move amount course _ g h _ hx hg hh hw =>
      have := (hx.isWord (by decide) (by decide)).isTidy.append
        (hw.isWord (isNameChar_courseName course) (by cases course <;> decide)).isTidy
        (g ++ (amount.text.toList ++ h))
      simpa using this
  | @turn side _ g _ hx hg hw =>
      exact (hx.isWord (by decide) (by decide)).isTidy.append
        (hw.isWord (isNameChar_sideName side) (by cases side <;> decide)).isTidy g
  | scan hx => exact (hx.isWord (by decide) (by decide)).isTidy
  | attack hx => exact (hx.isWord (by decide) (by decide)).isTidy
  | @call _ _ g hx hg =>
      exact (hx.isWord (by decide) (by decide)).isTidy.append
        (isPlainWord_of_isLooseName hs).isWord.isTidy g
  | @ifThen test _ _ g h u j _ hi hg hh hu hj hy _ ih =>
      have := (hi.isWord (by decide) (by decide)).isTidy.append (ih hs.2.isLine)
        (g ++ (test.text.toList ++ (h ++ (u ++ j))))
      simpa using this
  | @ifElse test _ _ _ g h u j y k v l _ hi hg hh hu hj hy _ hk hv hl hn _ _ ih =>
      have := (hi.isWord (by decide) (by decide)).isTidy.append (ih hs.2.2.1.isLine)
        (g ++ (test.text.toList ++ (h ++ (u ++ (j ++ (y ++ (k ++ (v ++ l))))))))
      simpa using this

theorem colon_mem_of_headerName? {line name : List Char} (h : headerName? line = some name) :
    ':' ∈ line := by
  obtain ⟨r, hr, h⟩ := Option.bind_eq_some_iff.mp h
  have hline : ∀ c ∈ r, c ∈ line := by
    unfold afterWord? at hr
    split at hr
    · rename_i c u hu
      obtain ⟨x, -, rfl⟩ := afterKeyword?_eq_some hu
      split at hr
      · cases hr
        exact fun d hd => by simp [(trimStart_sublist u).subset hd]
      · cases hr
    · cases hr
  dsimp only at h
  split at h
  · rename_i u hu
    have hmem : ':' ∈ trimStart (r.dropWhile isLooseNameChar) := by rw [hu]; simp
    exact hline _ ((List.dropWhile_sublist _).subset ((trimStart_sublist _).subset hmem))
  · cases h

theorem block?_of_colon_notMem (h : ':' ∉ t) : block? t = none := by
  unfold block?
  split
  · rename_i header second rest hl
    cases hname : headerName? (trim header) with
    | none => rfl
    | some name =>
        have hmem := (trim_sublist header).subset (colon_mem_of_headerName? hname)
        have hheader : header ∈ lines t := by rw [hl]; simp
        exact absurd (mem_splitOn hheader _ hmem).2 h
  · rfl

theorem Written.withoutTerminator_eq (h : Written s t) (hs : s.IsLine) :
    ∃ u, Surface s u ∧ withoutTerminator t = u := by
  cases h with
  | @bare a u z ha hu hz =>
      have htidy := hu.isTidy hs
      have hlast : u.getLast? ≠ some ';' := fun hlast =>
        hu.notMem hs (by decide) (List.mem_of_getLast? hlast)
      refine ⟨u, hu, ?_⟩
      simp only [withoutTerminator, trim_blanks_append ha, trim_append_blanks hz, htidy.trim_eq,
        if_neg hlast]
  | @terminated a u b z ha hu hb hz =>
      have htidy := hu.isTidy hs
      have hsemi : IsWord [';'] := ⟨by decide, by decide⟩
      have hwhole : trim (a ++ (u ++ (b ++ ';' :: z))) = u ++ (b ++ [';']) := by
        have hassoc : u ++ (b ++ ';' :: z) = (u ++ (b ++ [';'])) ++ z := by simp
        rw [trim_blanks_append ha, hassoc, trim_append_blanks hz,
          (htidy.append hsemi.isTidy b).trim_eq]
      have hdrop : (u ++ (b ++ [';'])).dropLast = u ++ b := by
        rw [← List.append_assoc, List.dropLast_concat]
      refine ⟨u, hu, ?_⟩
      simp only [withoutTerminator, hwhole, hdrop, trimEnd_append hb, trimEnd_eq_self htidy.back]
      simp

theorem Written.read_eq (h : Written s t) (hs : s.IsLine) (room : Nat) :
    trim t ≠ [] ∧ Stmt.read (room + 1) t = .ok s := by
  obtain ⟨u, hu, heq⟩ := h.withoutTerminator_eq hs
  refine ⟨fun hnil => (hu.isTidy hs).ne_nil ?_, ?_⟩
  · rw [← heq, withoutTerminator, hnil]
    rfl
  · have hblock : block? (withoutTerminator t) = none := by
      rw [heq]
      exact block?_of_colon_notMem (hu.notMem hs (by decide))
    rw [Stmt.read_of_not_block? hblock, heq, hu.readLine_eq hs]

theorem Stmt.IsSimple.surface_bare (hs : s.IsSimple) (hne : s ≠ .noop) : Surface s s.bare.toList := by
  have hgap : IsGap [' '] := by decide
  have hone : AllBlank [' '] := by decide
  cases s with
  | assign name value =>
      have : Surface (.assign name value)
          (name.toList ++ ([' '] ++ '=' :: ([' '] ++ value.text.toList))) := .assign hone hone
      simpa [Stmt.bare] using this
  | move amount course =>
      have hcourse : IsCased course.name course.name.toList := by cases course <;> decide
      have : Surface (.move amount course)
          ("MOVE".toList ++ ([' '] ++ (amount.text.toList ++ ([' '] ++ course.name.toList)))) :=
        .move (by decide) hgap hgap hcourse
      simpa [Stmt.bare] using this
  | turn side =>
      have hside : IsCased side.name side.name.toList := by cases side <;> decide
      have := Surface.turn (k := "TURN".toList) (by decide) hgap hside
      simpa [Stmt.bare] using this
  | scan => exact .scan (by decide)
  | attack => exact .attack (by decide)
  | call name =>
      have : Surface (.call name) ("CALL".toList ++ ([' '] ++ name.toList)) := .call (by decide) hgap
      simpa [Stmt.bare] using this
  | noop => exact absurd rfl hne
  | ifThen => exact hs.elim
  | ifElse => exact hs.elim
  | function => exact hs.elim

theorem Stmt.IsLine.surface_bare (hs : s.IsLine) (hnoop : s.hasNoop = false) :
    Surface s s.bare.toList := by
  have hgap : IsGap [' '] := by decide
  rcases hs.cases with hsimple | ⟨e, y, rfl, -, hy⟩ | ⟨e, y, n, rfl, -, hy, hn, -⟩
  · exact hsimple.surface_bare (hsimple.hasNoop_eq_false.mp hnoop)
  · have hbranch := hy.surface_bare (hy.hasNoop_eq_false.mp hnoop)
    have : Surface (.ifThen e y) ("IF".toList ++ ([' '] ++ (e.text.toList ++ ([' '] ++
        ("THEN".toList ++ ([' '] ++ y.bare.toList)))))) :=
      .ifThen (by decide) hgap hgap (by decide) hgap hbranch
        (hy.isLine.notMem_bare (by decide) (by decide))
    simpa [Stmt.bare] using this
  · simp only [Stmt.hasNoop, Bool.or_eq_false_iff] at hnoop
    have hyes := hy.surface_bare (hy.hasNoop_eq_false.mp hnoop.1)
    have hno := hn.surface_bare (hn.hasNoop_eq_false.mp hnoop.2)
    have : Surface (.ifElse e y n) ("IF".toList ++ ([' '] ++ (e.text.toList ++ ([' '] ++
        ("THEN".toList ++ ([' '] ++ (y.bare.toList ++ ([' '] ++ ("ELSE".toList ++ ([' '] ++
          n.bare.toList)))))))))) :=
      .ifElse (by decide) hgap hgap (by decide) hgap hyes
        (hy.isLine.notMem_bare (by decide) (by decide)) hgap (by decide) hgap hno
        (hn.isLine.notMem_bare (by decide) (by decide))
    simpa [Stmt.bare] using this

/-- A statement in which something is done everywhere is read from its own text and from every other
way to write it. -/
theorem parse_of_written {s : Stmt} (hs : s.IsLine) (hnoop : s.hasNoop = false) :
    Written s s.text.toList ∧
    ∀ (room : Nat) (token : String), Written s token.toList →
      Stmt.parse (room + 1) token = .ok (some s) := by
  constructor
  · have := Written.terminated (a := []) (b := []) (z := []) (by decide) (hs.surface_bare hnoop)
      (by decide) (by decide)
    rw [hs.text_eq]
    simpa [Stmt.line] using this
  · intro room token ht
    obtain ⟨hne, hread⟩ := ht.read_eq hs room
    rw [Stmt.parse, if_neg hne, hread]
    rfl

/-- Names that are keywords, letters in mixed case and an equals sign without blanks. -/
theorem parse_of_written_keywords :
    let s := Stmt.ifElse (.variable "THEN") (.assign "ELSE" (.literal (-7))) (.call "ELSE")
    let token := "\n iF\t$THEN  then ELSE=-7\u3000eLSe Call\t\tELSE ;\n"
    s.IsLine ∧ s.hasNoop = false ∧ Written s token.toList ∧ Stmt.parse 1 token = .ok (some s) := by
  intro s token
  have hthen : isName "THEN".toList = true := by decide
  have helse : isName "ELSE".toList = true := by decide
  have hseven : isWritable (-7) = true := by decide
  have hs : s.IsLine := ⟨hthen, ⟨helse, hseven⟩, (by decide : isLooseName "ELSE".toList = true), rfl⟩
  have hwritten : Written s token.toList := by
    have hyes : Surface (.assign "ELSE" (.literal (-7))) "ELSE=-7".toList :=
      .assign (a := []) (b := []) (by decide) (by decide)
    have hno : Surface (.call "ELSE") "Call\t\tELSE".toList :=
      .call (k := "Call".toList) (g := "\t\t".toList) (by decide) (by decide)
    have := Written.terminated (s := s) (a := "\n ".toList) (b := " ".toList) (z := "\n".toList)
      (by decide) (Surface.ifElse (i := "iF".toList) (g := "\t".toList) (h := "  ".toList)
        (t := "then".toList) (j := " ".toList) (k := "\u3000".toList) (e := "eLSe".toList)
        (l := " ".toList) (by decide) (by decide) (by decide) (by decide)
        (by decide) hyes (by decide) (by decide) (by decide) (by decide) hno (by decide))
      (by decide) (by decide)
    exact Eq.mp (congrArg (Written s) (by decide)) this
  exact ⟨hs, by decide, hwritten, (parse_of_written hs (by decide)).2 0 token hwritten⟩

/-- A branch over two lines is a surface form of its statement, but not of a branch. -/
theorem parse_branch_of_two_lines :
    Surface (.assign "A" (.literal 3)) "A =\n3".toList ∧
    Stmt.parse 1 "A =\n3" = .ok (some (.assign "A" (.literal 3))) ∧
    Stmt.parse 1 "IF 1 THEN A =\n3" = .ok (some .noop) := by
  refine ⟨.assign (a := " ".toList) (b := "\n".toList) (by decide) (by decide), ?_, ?_⟩
  · rw [Stmt.parse, if_neg (by decide), Stmt.read_of_not_block? (by decide)]
    rfl
  · rw [Stmt.parse, if_neg (by decide), Stmt.read_of_not_block? (by decide)]
    rfl

end TankArena.Script
