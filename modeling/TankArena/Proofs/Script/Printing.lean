import TankArena.Proofs.Script.Conditional

/-!
# The lines of a written program

A written program is a row of lines: the header, the statements and the end of each function, then
the main sequence. Each line is left alone when comments and blanks are taken away, and the lines
that open or close a block by their first word are found.
-/

namespace TankArena.Script

open Text

/-! ## Code lines -/

/-- The lines of a text that carry something. -/
def codeOf (t : List Char) : List (List Char) := codeLines (lines t)

theorem codeOf_append (t u : List Char) : codeOf (t ++ '\n' :: u) = codeOf t ++ codeOf u := by
  simp [codeOf, codeLines, lines, List.splitOn_append_cons_self]

theorem codeOf_intercalate {sep : List Char} (hsep : ∀ t u, codeOf (t ++ (sep ++ u)) =
    codeOf t ++ codeOf u) (ts : List (List Char)) :
    codeOf (sep.intercalate ts) = ts.flatMap codeOf := by
  induction ts with
  | nil => rfl
  | cons t ts ih =>
      cases ts with
      | nil => simp [List.intercalate]
      | cons u us =>
          have hcons : sep.intercalate (t :: u :: us) = t ++ (sep ++ sep.intercalate (u :: us)) := by
            simp [List.intercalate]
          rw [hcons, hsep, ih]
          rfl

theorem cutComment_eq_self {t : List Char} (h : '/' ∉ t) : cutComment t = t := by
  fun_induction cutComment t with
  | case1 => exact absurd List.mem_cons_self h
  | case2 c t _ ih => rw [ih fun hm => h (List.mem_cons_of_mem _ hm)]
  | case3 => rfl

/-- A line that is left alone: tidy, in one piece and without a comment. -/
structure IsCode (l : List Char) : Prop where
  tidy : IsTidy l
  inline : '\n' ∉ l
  bare : cutComment l = l

theorem IsCode.trim_cutComment {l : List Char} (h : IsCode l) : trim (cutComment l) = l := by
  rw [h.bare, h.tidy.trim_eq]

theorem codeLines_eq_self {ls : List (List Char)} (h : ∀ l ∈ ls, IsCode l) : codeLines ls = ls := by
  have hmap : ls.map (fun l => trim (cutComment l)) = ls := by
    conv => rhs; rw [← List.map_id ls]
    exact List.map_congr_left fun l hl => (h l hl).trim_cutComment
  rw [codeLines, hmap]
  exact List.filter_eq_self.mpr fun l hl => by simpa using (h l hl).tidy.ne_nil

theorem codeOf_line {l : List Char} (h : IsCode l) : codeOf l = [l] := by
  rw [codeOf, lines, List.splitOn_eq_singleton h.inline]
  exact codeLines_eq_self (by simpa using h)

theorem codeOf_indented {l : List Char} (h : IsCode l) : codeOf (' ' :: ' ' :: l) = [l] := by
  have htrim : trim (cutComment (' ' :: ' ' :: l)) = l := by
    have hcut : cutComment (' ' :: ' ' :: l) = ' ' :: ' ' :: cutComment l := rfl
    rw [hcut, h.bare, trim_blank (by decide), trim_blank (by decide), h.tidy.trim_eq]
  rw [codeOf, lines, List.splitOn_eq_singleton (by simpa using h.inline)]
  simp [codeLines, htrim, h.tidy.ne_nil]

/-! ## The lines of statements -/

/-- The line of a statement. -/
def Stmt.line (s : Stmt) : List Char := s.bare.toList ++ [';']

/-- The first line of a function. -/
def headerLine (name : String) : List Char := sentence ["FUNCTION".toList, name.toList ++ [':']]

/-- The last line of a function. -/
def endLine : List Char := "END".toList

theorem Stmt.IsSimple.mem_bare {s : Stmt} (h : s.IsSimple) {c : Char} (hc : c ∈ s.bare.toList) :
    c = ' ' ∨ isPlain c = true := by
  rw [h.bare_eq] at hc
  rcases mem_sentence hc with hc | ⟨w, hw, hc⟩
  · exact .inl hc
  · exact .inr ((h.isPlainWord w hw).plain c hc)

theorem Stmt.IsLine.mem_bare {s : Stmt} (h : s.IsLine) {c : Char} (hc : c ∈ s.bare.toList) :
    c = ' ' ∨ isPlain c = true := by
  have hlit (k : String) (hk : ∀ d ∈ k.toList, d = ' ' ∨ isPlain d = true) (hm : c ∈ k.toList) :=
    hk c hm
  rcases h.cases with hs | ⟨e, y, rfl, he, hy⟩ | ⟨e, y, n, rfl, he, hy, hn, -⟩
  · exact hs.mem_bare hc
  · simp only [Stmt.bare, String.toList_append, List.mem_append] at hc
    rcases hc with ((hc | hc) | hc) | hc
    · exact hlit _ (by decide) hc
    · exact .inr (he.isPlainWord.plain c hc)
    · exact hlit _ (by decide) hc
    · exact hy.mem_bare hc
  · simp only [Stmt.bare, String.toList_append, List.mem_append] at hc
    rcases hc with ((((hc | hc) | hc) | hc) | hc) | hc
    · exact hlit _ (by decide) hc
    · exact .inr (he.isPlainWord.plain c hc)
    · exact hlit _ (by decide) hc
    · exact hy.mem_bare hc
    · exact hlit _ (by decide) hc
    · exact hn.mem_bare hc

theorem Stmt.IsLine.notMem_bare {s : Stmt} (h : s.IsLine) {c : Char} (hne : c ≠ ' ')
    (hc : isPlain c = false) : c ∉ s.bare.toList := by
  intro hm
  rcases h.mem_bare hm with hm | hm
  · exact hne hm
  · rw [hm] at hc; cases hc

/-- A statement that does something starts with a character that is no blank. -/
theorem Stmt.IsLine.exists_bare_eq_cons {s : Stmt} (h : s.IsLine) (hne : s ≠ .noop) :
    ∃ c t, s.bare.toList = c :: t ∧ isBlank c = false := by
  rcases h.cases with hs | ⟨e, y, rfl, -⟩ | ⟨e, y, n, rfl, -⟩
  · have htidy := isTidy_sentence (hs.words_ne_nil hne) hs.isWord
    rw [hs.bare_eq]
    obtain ⟨c, t, ht⟩ := List.exists_cons_of_ne_nil htidy.ne_nil
    exact ⟨c, t, ht, htidy.front c t ht⟩
  · simp only [Stmt.bare, String.toList_append, List.append_assoc]
    exact ⟨'I', _, rfl, by decide⟩
  · simp only [Stmt.bare, String.toList_append, List.append_assoc]
    exact ⟨'I', _, rfl, by decide⟩

theorem Stmt.IsLine.isCode_line {s : Stmt} (h : s.IsLine) : IsCode s.line := by
  have hmem {c : Char} (hne : c ≠ ' ') (hsemi : c ≠ ';') (hc : isPlain c = false) : c ∉ s.line := by
    rw [Stmt.line, List.mem_append, List.mem_singleton, not_or]
    exact ⟨h.notMem_bare hne hc, hsemi⟩
  refine ⟨⟨by simp [Stmt.line], ?_, ?_⟩, hmem (by decide) (by decide) (by decide),
    cutComment_eq_self (hmem (by decide) (by decide) (by decide))⟩
  · by_cases hne : s = .noop
    · subst hne
      exact startsSolid_cons.mpr (by decide)
    · obtain ⟨c, t, ht, hc⟩ := h.exists_bare_eq_cons hne
      rw [Stmt.line, ht]
      exact startsSolid_cons.mpr hc
  · rw [Stmt.line, List.reverse_append]
    exact startsSolid_cons.mpr (by decide)

theorem isCode_sentence {ws : List (List Char)} (hne : ws ≠ []) (h : ∀ w ∈ ws, IsPlainWord w) :
    IsCode (sentence ws) :=
  ⟨isTidy_sentence hne fun w hw => (h w hw).isWord, notMem_sentence h (by decide) (by decide),
    cutComment_eq_self (notMem_sentence h (by decide) (by decide))⟩

theorem isCode_headerLine {name : String} (h : isLooseName name.toList = true) :
    IsCode (headerLine name) := by
  have hword := isPlainWord_of_isLooseName h
  have hcolon : IsPlainWord (name.toList ++ [':']) := by
    refine ⟨by simp, fun c hc => ?_⟩
    rcases List.mem_append.mp hc with hc | hc
    · exact hword.plain c hc
    · rw [List.mem_singleton.mp hc]; decide
  refine isCode_sentence (by simp) (List.forall_mem_cons.mpr ⟨⟨by decide, by decide⟩, ?_⟩)
  simpa using hcolon

theorem isCode_endLine : IsCode endLine :=
  ⟨IsWord.isTidy ⟨by decide, by decide⟩, by decide, cutComment_eq_self (by decide)⟩

/-! ## The lines of a program -/

theorem Stmt.IsLine.terminator_eq {s : Stmt} (h : s.IsLine) : s.terminator = ";" := by
  cases s with
  | function => exact False.elim h
  | _ => rfl

theorem Stmt.IsLine.text_eq {s : Stmt} (h : s.IsLine) : s.text.toList = s.line := by
  rw [Stmt.text, h.terminator_eq, String.toList_append, Stmt.line]
  rfl

theorem codeOf_bodyText {body : List Stmt} (h : ∀ s ∈ body, s.IsLine) (t : List Char) :
    codeOf ((Stmt.bodyText body).toList ++ t) = body.map Stmt.line ++ codeOf t := by
  induction body with
  | nil => rfl
  | cons s body ih =>
      have hs := h s List.mem_cons_self
      have htext : (Stmt.bodyText (s :: body)).toList ++ t =
          (' ' :: ' ' :: s.line) ++ '\n' :: ((Stmt.bodyText body).toList ++ t) := by
        simp [Stmt.bodyText, hs.terminator_eq, Stmt.line]
      rw [htext, codeOf_append, codeOf_indented hs.isCode_line,
        ih fun u hu => h u (List.mem_cons_of_mem _ hu)]
      rfl

/-- The lines of a function. -/
def blockLines (name : String) (body : List Stmt) : List (List Char) :=
  headerLine name :: (body.map Stmt.line ++ [endLine])

theorem codeOf_function {name : String} {body : List Stmt} (hname : isLooseName name.toList = true)
    (hbody : ∀ s ∈ body, s.IsLine) :
    codeOf (Stmt.function name body).text.toList = blockLines name body := by
  have htext : (Stmt.function name body).text.toList =
      headerLine name ++ '\n' :: ((Stmt.bodyText body).toList ++ endLine) := by
    have hfront : "FUNCTION ".toList = "FUNCTION".toList ++ [' '] := by decide
    have hcolon : ":\n".toList = [':', '\n'] := by decide
    simp only [Stmt.text, Stmt.bare, Stmt.terminator, String.append_empty, String.toList_append,
      headerLine, sentence_cons_cons, sentence_singleton, endLine, hfront, hcolon]
    generalize "FUNCTION".toList = k
    simp
  rw [htext, codeOf_append, codeOf_line (isCode_headerLine hname), codeOf_bodyText hbody,
    codeOf_line isCode_endLine]
  rfl

def Program.lines (p : Program) : List (List Char) :=
  p.functions.entries.flatMap (fun e => blockLines e.1 e.2) ++ p.main.map Stmt.line

theorem codeOf_joined (ts : List String) (sep : String) (hsep : sep = "\n" ∨ sep = "\n\n") :
    codeOf (sep.intercalate ts).toList = ts.flatMap fun t => codeOf t.toList := by
  rw [String.toList_intercalate, codeOf_intercalate, List.flatMap_map]
  intro t u
  rcases hsep with rfl | rfl
  · exact codeOf_append t u
  · exact (codeOf_append t ('\n' :: u)).trans (congrArg _ (codeOf_append [] u))

theorem flatMap_eq_of_mem {α β : Type} {f g : α → List β} {l : List α} (h : ∀ a ∈ l, f a = g a) :
    l.flatMap f = l.flatMap g := by
  rw [List.flatMap_def, List.flatMap_def, List.map_congr_left h]

theorem Program.WellFormed.codeOf_text {p : Program} (h : p.WellFormed) :
    codeOf p.text.toList = p.lines := by
  let blocks := p.functions.entries.map fun e => (Stmt.function e.1 e.2).text
  have hblocks : blocks.flatMap (fun t => codeOf t.toList) =
      p.functions.entries.flatMap fun e => blockLines e.1 e.2 := by
    rw [List.flatMap_map]
    exact flatMap_eq_of_mem fun e he => codeOf_function (h.names e he) (h.bodies e he)
  have hmain : (p.main.map Stmt.text).flatMap (fun t => codeOf t.toList) = p.main.map Stmt.line := by
    rw [List.flatMap_map, List.map_eq_flatMap]
    exact flatMap_eq_of_mem fun s hs => by
      rw [(h.main s hs).text_eq, codeOf_line (h.main s hs).isCode_line]
  have htext : p.text = "\n\n".intercalate ((if blocks = [] then [] else ["\n\n".intercalate blocks]) ++
      if p.main.map Stmt.text = [] then [] else ["\n".intercalate (p.main.map Stmt.text)]) := rfl
  rw [htext, codeOf_joined _ _ (.inr rfl), List.flatMap_append, Program.lines, ← hblocks, ← hmain]
  congr 1
  · split
    · rename_i hnil; rw [hnil]
    · rw [List.flatMap_singleton, codeOf_joined _ _ (.inr rfl)]
  · split
    · rename_i hnil; rw [hnil]
    · rw [List.flatMap_singleton, codeOf_joined _ _ (.inl rfl)]

/-! ## Lines that open and close blocks -/

/-- The statement assigns to a variable with this name in any letter case. -/
def Stmt.assigns (word : String) : Stmt → Bool
  | .assign name _ => name.toList.map Char.toUpper == word.toList
  | _ => false

theorem isKeyword_of_isName {k name : List Char} (h : isName name = true) :
    isKeyword k name = (name.map Char.toUpper == k) := by
  have hmap : name.map capital = name.map Char.toUpper :=
    List.map_congr_left fun c hc => capital_of_isNameChar (isNameChar_of_isName h c hc)
  rw [isKeyword, hmap, Bool.eq_iff_iff, decide_eq_true_iff, beq_iff_eq]

theorem isWordChar_of_isNameChar {c : Char} (h : isNameChar c = true) : isWordChar c = true := by
  have := toNat_of_isNameChar h
  unfold isWordChar
  rw [if_pos (by omega)]
  exact h

theorem opensBlock_word {w t : List Char} (hw : IsWord w) :
    opensBlock (w ++ ' ' :: t) = isKeyword "FUNCTION".toList w := by
  unfold opensBlock
  cases hkw : isKeyword "FUNCTION".toList w with
  | true => rw [afterKeyword?_append _ hkw]; rfl
  | false =>
      split
      · rename_i c r hr
        rcases afterKeyword?_word (by decide) (startsBlank_cons.mpr (by decide)) hr with
          ⟨h, -⟩ | ⟨u, v, -, hv, rfl, hrest⟩
        · rw [h] at hkw; cases hkw
        · obtain ⟨d, v, rfl⟩ := List.exists_cons_of_ne_nil hv
          obtain ⟨rfl, -⟩ := List.cons.inj hrest
          exact hw.solid c (by simp)
      · rfl

theorem closesBlock_word {w t : List Char} (hw : ∀ c ∈ w, isNameChar c = true) :
    closesBlock (w ++ ' ' :: t) = isKeyword "END".toList w := by
  unfold closesBlock
  cases hkw : isKeyword "END".toList w with
  | true => rw [afterKeyword?_append _ hkw]; exact (by decide : (!isWordChar ' ') = true)
  | false =>
      split
      · rename_i c r hr
        rcases afterKeyword?_word (by decide) (startsBlank_cons.mpr (by decide)) hr with
          ⟨h, -⟩ | ⟨u, v, -, hv, rfl, hrest⟩
        · rw [h] at hkw; cases hkw
        · obtain ⟨d, v, rfl⟩ := List.exists_cons_of_ne_nil hv
          obtain ⟨rfl, -⟩ := List.cons.inj hrest
          rw [isWordChar_of_isNameChar (hw c (by simp))]
          rfl
      · rename_i hr
        rcases afterKeyword?_word (by decide) (startsBlank_cons.mpr (by decide)) hr with
          ⟨-, h⟩ | ⟨u, v, -, hv, rfl, hrest⟩
        · cases h
        · obtain ⟨d, v, rfl⟩ := List.exists_cons_of_ne_nil hv
          cases hrest
      · rfl

theorem opensBlock_of_head {c : Char} {t : List Char} (ht : t.head? = some c)
    (hc : capital c ≠ 'F') : opensBlock t = false := by
  cases h : opensBlock t with
  | false => rfl
  | true =>
      obtain ⟨d, r, rfl, hd⟩ := exists_cons_of_opensBlock h
      cases ht
      exact absurd hd hc

theorem closesBlock_of_head {c : Char} {t : List Char} (ht : t.head? = some c)
    (hc : capital c ≠ 'E') : closesBlock t = false := by
  obtain ⟨r, rfl⟩ := List.head?_eq_some_iff.mp ht
  simp [closesBlock, afterKeyword?, hc]

/-- The characters that a line can start with unless it is an assignment. -/
def lineHeads : List Char := ['M', 'T', 'S', 'A', 'C', 'I', ';']

theorem Stmt.IsLine.assign_or_head {s : Stmt} (h : s.IsLine) :
    (∃ name value, s = .assign name value) ∨ (∀ word, s.assigns word = false) ∧
      ∃ c ∈ lineHeads, s.line.head? = some c := by
  cases s with
  | assign name value => exact .inl ⟨name, value, rfl⟩
  | function => exact False.elim h
  | noop => exact .inr ⟨fun _ => rfl, ';', by decide, rfl⟩
  | scan => exact .inr ⟨fun _ => rfl, 'S', by decide, rfl⟩
  | attack => exact .inr ⟨fun _ => rfl, 'A', by decide, rfl⟩
  | move => exact .inr ⟨fun _ => rfl, 'M', by decide, by simp [Stmt.line, Stmt.bare]⟩
  | turn => exact .inr ⟨fun _ => rfl, 'T', by decide, by simp [Stmt.line, Stmt.bare]⟩
  | call => exact .inr ⟨fun _ => rfl, 'C', by decide, by simp [Stmt.line, Stmt.bare]⟩
  | ifThen => exact .inr ⟨fun _ => rfl, 'I', by decide, by simp [Stmt.line, Stmt.bare]⟩
  | ifElse => exact .inr ⟨fun _ => rfl, 'I', by decide, by simp [Stmt.line, Stmt.bare]⟩

theorem line_assign (name : String) (value : Expr) : (Stmt.assign name value).line =
    name.toList ++ ' ' :: ('=' :: ' ' :: (value.text.toList ++ [';'])) := by
  simp [Stmt.line, Stmt.bare]

theorem Stmt.IsLine.opensBlock_line {s : Stmt} (h : s.IsLine) :
    opensBlock s.line = s.assigns "FUNCTION" := by
  rcases h.assign_or_head with ⟨name, value, rfl⟩ | ⟨hs, c, hc, hhead⟩
  · rw [line_assign, opensBlock_word (isPlainWord_of_isName h.1).isWord, isKeyword_of_isName h.1]
    rfl
  · rw [hs]
    exact opensBlock_of_head hhead ((by decide : ∀ c ∈ lineHeads, capital c ≠ 'F') c hc)

theorem Stmt.IsLine.closesBlock_line {s : Stmt} (h : s.IsLine) :
    closesBlock s.line = s.assigns "END" := by
  rcases h.assign_or_head with ⟨name, value, rfl⟩ | ⟨hs, c, hc, hhead⟩
  · rw [line_assign, closesBlock_word (isNameChar_of_isName h.1), isKeyword_of_isName h.1]
    rfl
  · rw [hs]
    exact closesBlock_of_head hhead ((by decide : ∀ c ∈ lineHeads, capital c ≠ 'E') c hc)

theorem opensBlock_headerLine (name : String) : opensBlock (headerLine name) = true := by
  rw [headerLine, sentence_cons_cons, opensBlock_word ⟨by decide, by decide⟩]
  decide

/-! ## Reading the text of a line -/

theorem parts_noop : parts Stmt.noop.line = [] := by decide

theorem Stmt.IsLine.isTidy_trim {s : Stmt} (h : s.IsLine) (hne : s ≠ .noop) :
    IsTidy (trim s.bare.toList) := by
  refine Text.isTidy_trim ?_
  obtain ⟨c, t, ht, hc⟩ := h.exists_bare_eq_cons hne
  rw [ht, trim, trimStart_eq_self (startsSolid_cons.mpr hc), trimEnd_cons hc]
  exact List.cons_ne_nil _ _

theorem Stmt.IsLine.parts_line {s : Stmt} (h : s.IsLine) (hne : s ≠ .noop) :
    parts s.line = [trim s.bare.toList ++ [';']] := by
  have htidy := h.isTidy_trim hne
  rw [parts, Stmt.line,
    List.splitOn_append_cons_self_of_not_mem (h.notMem_bare (by decide) (by decide))]
  simp [List.splitOn_nil, htidy.ne_nil]

theorem block?_of_notMem {t : List Char} (h : '\n' ∉ t) : block? t = none := by
  rw [block?, lines, List.splitOn_eq_singleton h]

theorem declared?_of_isLine {s : Stmt} (h : s.IsLine) : s.declared? = none := by
  cases s with
  | function => exact False.elim h
  | _ => rfl

theorem Stmt.IsLine.read_part {s : Stmt} (h : s.IsLine) (hne : s ≠ .noop) :
    ∃ r, (∀ room, Stmt.read (room + 1) (trim s.bare.toList ++ [';']) = .ok r) ∧
      (r = s ↔ s.hasNoop = false) ∧ r.declared? = none := by
  have hmem {c : Char} (hc : c ≠ ' ') (hp : isPlain c = false) : c ∉ trim s.bare.toList :=
    fun hm => h.notMem_bare hc hp ((trim_sublist _).subset hm)
  have hline := hmem (c := '\n') (by decide) (by decide)
  have hbare := withoutTerminator_terminated (h.isTidy_trim hne)
  obtain ⟨r, hr, heq⟩ := h.readLine_bare hne
  refine ⟨r, fun room => ?_, heq, ?_⟩
  · rw [Stmt.read_of_not_block? (by rw [hbare]; exact block?_of_notMem hline), hbare, hr]
  · exact declared?_of_isLine (readLine_isLine hline (hmem (by decide) (by decide)) hr)

end TankArena.Script
