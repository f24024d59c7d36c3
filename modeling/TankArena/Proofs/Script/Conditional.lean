import TankArena.Proofs.Script.Plain

/-!
# Reading written lines

A written conditional is read back when both branches do something. Where a branch does nothing its
place in the text is empty, and the words around the gap are read in another way.
-/

namespace TankArena.Script

open Text

/-! ## Branches of a conditional -/

variable {test yes no : List Char}

theorem guarded_branch (test : List Char) : Guarded fun yes t =>
    (elseBranch? test yes t).or (atEnd (test, yes, none) t) := by
  intro yes c t hc
  have hnone : elseBranch? test yes (c :: t) = none :=
    blanks_of_startsSolid (startsSolid_cons.mpr hc)
  simp only [hnone, atEnd, Option.or_none]

theorem elseBranch?_word {v t : List Char} (hv : IsWord v) (ht : StartsBlank t) :
    elseBranch? test yes (' ' :: (v ++ t)) =
      if isKeyword "ELSE".toList v then blanks (longest fun no => atEnd (test, yes, some no)) t
      else none := by
  unfold elseBranch?
  rw [blanks_one (by decide) hv.startsSolid,
    afterKeyword?_bind_blanks (by decide) hv.solid ht]

theorem elseBranch?_else {v : List Char} (hv : IsWord v) (hkw : isKeyword "ELSE".toList v = true)
    (hno : IsTidy no) (hline : '\n' ∉ no) :
    elseBranch? test yes (' ' :: (v ++ ' ' :: no)) = some (test, yes, some no) := by
  rw [elseBranch?_word hv (startsBlank_cons.mpr (by decide)), if_pos hkw, blanks_one (by decide) hno.front,
    longest_atEnd hno.ne_nil hline]

theorem isWord_else : IsWord "ELSE".toList := ⟨by decide, by decide⟩

theorem exists_sentence_eq (v : List Char) (vs : List (List Char)) {r : List Char}
    (hr : StartsBlank r) : ∃ t, sentence (v :: vs) ++ r = v ++ t ∧ StartsBlank t := by
  cases vs with
  | nil => exact ⟨r, by rw [sentence_singleton], hr⟩
  | cons u us =>
      refine ⟨' ' :: (sentence (u :: us) ++ r), by rw [sentence_cons_cons]; simp, ?_⟩
      rintro c t ⟨⟩
      decide

/-- Words without ELSE after the first are the first branch up to ELSE. -/
theorem branches?_else {ws : List (List Char)} (hne : ws ≠ []) (hw : ∀ w ∈ ws, IsWord w)
    (helse : ∀ v ∈ ws.tail, isKeyword "ELSE".toList v = false) (hno : IsTidy no)
    (hline : '\n' ∉ no) :
    branches? test (sentence ws ++ ' ' :: ("ELSE".toList ++ ' ' :: no)) =
      some (test, sentence ws, some no) := by
  unfold branches?
  rw [shortest_sentence (guarded_branch test) hne hw,
    elseBranch?_else isWord_else (by decide) hno hline, Option.some_or, Option.some_or]
  intro us v vs heq hus
  obtain ⟨u, us, rfl⟩ := List.exists_cons_of_ne_nil hus
  have hv : v ∈ ws.tail := by rw [heq]; simp
  obtain ⟨t, ht, hblank⟩ := exists_sentence_eq v vs
    (r := ' ' :: ("ELSE".toList ++ ' ' :: no)) (startsBlank_cons.mpr (by decide))
  rw [ht, elseBranch?_word (hw v (List.mem_of_mem_tail hv)) hblank, helse v hv]
  rfl

/-- Words with no ELSE after the first except at their end are one branch. -/
theorem branches?_end {ws : List (List Char)} (hne : ws ≠ []) (hw : ∀ w ∈ ws, IsWord w)
    (helse : ∀ us v vs, ws = us ++ v :: vs → us ≠ [] → isKeyword "ELSE".toList v = true → vs = []) :
    branches? test (sentence ws) = some (test, sentence ws, none) := by
  have hfirst := shortest_sentence (guarded_branch test) hne hw []
  simp only [List.append_nil] at hfirst
  unfold branches?
  rw [hfirst]
  · rfl
  · intro us v vs heq hus
    have hv : v ∈ ws := by rw [heq]; simp
    obtain ⟨t, ht, hblank⟩ := exists_sentence_eq v vs (r := []) startsBlank_nil
    rw [List.append_nil] at ht
    rw [ht, elseBranch?_word (hw v hv) hblank]
    split
    · rename_i hkw
      -- The word ELSE is the last one, so no branch follows it.
      obtain rfl := helse us v vs heq hus hkw
      rw [sentence_singleton] at ht
      obtain rfl := List.self_eq_append_right.mp ht
      rfl
    · rfl

/-! ## The test of a conditional -/

/-- A conditional, of which the test and what follows THEN are given. -/
def conditionalText (test rest : List Char) : List Char :=
  "IF".toList ++ ' ' :: (test ++ ' ' :: ("THEN".toList ++ rest))

theorem guarded_test : Guarded fun test => blanks fun t =>
    (afterKeyword? "THEN".toList t).bind (blanks (branches? test)) := guarded_blanks _

theorem conditional?_of_branches? {rest : List Char} {a : List Char × List Char × Option (List Char)}
    (htest : IsWord test) (h : blanks (branches? test) rest = some a) :
    conditional? (conditionalText test rest) = some a := by
  rw [conditional?_eq, conditionalText, afterKeyword?_append _ (by decide), Option.bind_some,
    blanks_one (by decide) htest.startsSolid, shortest_word guarded_test htest,
    blanks_one (by decide) (IsWord.startsSolid ⟨by decide, by decide⟩),
    afterKeyword?_append _ (by decide), Option.bind_some, h, Option.some_or]

/-- Without THEN and something after it there is no conditional. -/
theorem conditional?_words {w : List Char} {ws : List (List Char)}
    (hkw : isKeyword "IF".toList w = true) (hne : ws ≠ []) (hw : ∀ w ∈ ws, IsWord w)
    (hthen : ∀ us v vs, ws = us ++ v :: vs → us ≠ [] → isKeyword "THEN".toList v = true → vs = []) :
    conditional? (w ++ ' ' :: sentence ws) = none := by
  have hfirst := shortest_sentence guarded_test hne hw []
  simp only [List.append_nil] at hfirst
  rw [conditional?_eq, afterKeyword?_append _ hkw, Option.bind_some,
    blanks_one (by decide) (isTidy_sentence hne hw).front, hfirst]
  · rfl
  · intro us v vs heq hus
    have hv : IsWord v := hw v (by rw [heq]; simp)
    obtain ⟨t, ht, hblank⟩ := exists_sentence_eq v vs (r := []) startsBlank_nil
    rw [List.append_nil] at ht
    rw [ht, blanks_one (by decide) hv.startsSolid,
      afterKeyword?_bind_blanks (by decide) hv.solid hblank]
    split
    · rename_i hkw
      obtain rfl := hthen us v vs heq hus hkw
      rw [sentence_singleton] at ht
      obtain rfl := List.self_eq_append_right.mp ht
      rfl
    · rfl

/-! ## What branches are read as -/

/-- Only a call has a word after its first that can be ELSE. -/
theorem Stmt.IsSimple.callsElse_of_mem {s : Stmt} (h : s.IsSimple) {v : List Char}
    (hv : v ∈ s.words.tail) (hkw : isKeyword "ELSE".toList v = true) :
    s.callsElse = true ∧ s.words = ["CALL".toList, v] := by
  cases s with
  | assign name value =>
      simp only [Stmt.words, List.tail_cons, List.mem_cons, List.not_mem_nil, or_false] at hv
      rcases hv with rfl | rfl
      · exact absurd hkw (by decide)
      · rw [value.isKeyword_text (by decide)] at hkw; cases hkw
  | move amount course =>
      simp only [Stmt.words, List.tail_cons, List.mem_cons, List.not_mem_nil, or_false] at hv
      rcases hv with rfl | rfl
      · rw [amount.isKeyword_text (by decide)] at hkw; cases hkw
      · cases course <;> exact absurd hkw (by decide)
  | turn side =>
      simp only [Stmt.words, List.tail_cons, List.mem_singleton] at hv
      subst hv
      cases side <;> exact absurd hkw (by decide)
  | call name =>
      simp only [Stmt.words, List.tail_cons, List.mem_singleton] at hv
      subst hv
      exact ⟨hkw, rfl⟩
  | _ => cases hv

theorem Stmt.IsSimple.else_last {s : Stmt} (h : s.IsSimple) {us vs : List (List Char)}
    {v : List Char} (heq : s.words = us ++ v :: vs) (hus : us ≠ [])
    (hkw : isKeyword "ELSE".toList v = true) : vs = [] := by
  obtain ⟨u, us, rfl⟩ := List.exists_cons_of_ne_nil hus
  have hwords := (h.callsElse_of_mem (by rw [heq]; simp) hkw).2
  rw [heq] at hwords
  cases us with
  | nil => exact (List.cons.inj (List.cons.inj hwords).2).2
  | cons => simp at hwords

theorem Stmt.IsSimple.isWord {s : Stmt} (h : s.IsSimple) : ∀ w ∈ s.words, IsWord w :=
  fun w hw => (h.isPlainWord w hw).isWord

theorem notMem_sentence {ws : List (List Char)} (h : ∀ w ∈ ws, IsPlainWord w) {c : Char}
    (hc : isPlain c = false) (hne : c ≠ ' ') : c ∉ sentence ws := by
  intro hm
  rcases mem_sentence hm with hm | ⟨w, hw, hm⟩
  · exact hne hm
  · rw [(h w hw).plain c hm] at hc
    cases hc

theorem readBranch_sentence {ws : List (List Char)} (hne : ws ≠ []) (h : ∀ w ∈ ws, IsPlainWord w) :
    readBranch (sentence ws) = readPlain (sentence ws) := by
  have htidy := isTidy_sentence hne fun w hw => (h w hw).isWord
  rw [readBranch, withoutTerminator_of_notMem (notMem_sentence h (by decide) (by decide)),
    htidy.trim_eq]

theorem Stmt.IsSimple.readBranch_words {s : Stmt} (h : s.IsSimple) (hne : s ≠ .noop) :
    readBranch (sentence s.words) = .ok s := by
  rw [readBranch_sentence (h.words_ne_nil hne) h.isPlainWord, ← h.bare_eq, h.readPlain_bare hne]

theorem move?_eq_some {t amount word : List Char} (h : move? t = some (amount, word)) :
    ∃ u, t = u ++ word ∧ isOneOf courseWords word = true := by
  obtain ⟨t₁, hmove, hrest⟩ := Option.bind_eq_some_iff.mp h
  obtain ⟨x, -, ht⟩ := afterKeyword?_eq_some hmove
  obtain ⟨b, t₂, ht₁, -, -, hrest⟩ := blanks_eq_some hrest
  obtain ⟨p, t₃, ht₂, -, hrest⟩ := longest_eq_some hrest
  obtain ⟨b', t₄, ht₃, -, -, hrest⟩ := blanks_eq_some hrest
  split at hrest
  · rename_i hc
    cases hrest
    exact ⟨x ++ (b ++ (amount ++ b')), by simp only [ht, ht₁, ht₂, ht₃, List.append_assoc], hc⟩
  · cases hrest

theorem turn?_eq_some {t word : List Char} (h : turn? t = some word) :
    ∃ u, t = u ++ word ∧ isOneOf sideWords word = true := by
  obtain ⟨hword, hside⟩ := Option.filter_eq_some_iff.mp h
  unfold afterWord? at hword
  split at hword
  · rename_i c r hk
    obtain ⟨x, -, rfl⟩ := afterKeyword?_eq_some hk
    split at hword
    · cases hword
      obtain ⟨b, hb, -⟩ := exists_trimStart_eq r
      refine ⟨x ++ c :: b, ?_, hside⟩
      rw [List.append_assoc, List.cons_append, ← hb]
    · cases hword
  · cases hword

theorem not_isOneOf_of_getLast? {u word : List Char} (h : (u ++ word).getLast? = some 'E') :
    isOneOf courseWords word = false := by
  rw [Bool.eq_false_iff]
  intro hone
  obtain ⟨k, hk, hkw⟩ := List.any_eq_true.mp hone
  rw [isKeyword_iff] at hkw
  have hlast : k.toList.getLast? = some 'E' := by
    cases word with
    | nil => exact absurd hone (by decide)
    | cons c word =>
        rw [List.getLast?_append, List.getLast?_eq_some_getLast (List.cons_ne_nil c word),
          Option.some_or, ← List.getLast?_eq_some_getLast] at h
        rw [← hkw, List.getLast?_map, h]
        rfl
  simp only [courseWords, List.mem_cons, List.not_mem_nil, or_false] at hk
  rcases hk with rfl | rfl | rfl | rfl <;> exact absurd hlast (by decide)

/-- A text that ends in the letter E is no move and no turn, so reading it cannot fail. -/
theorem readPlain_isOk {t : List Char} (h : t.getLast? = some 'E') : ∃ s, readPlain t = .ok s := by
  have hmove : move? t = none := by
    cases hm : move? t with
    | none => rfl
    | some a =>
        obtain ⟨u, rfl, hc⟩ := move?_eq_some hm
        rw [not_isOneOf_of_getLast? h] at hc
        cases hc
  have hturn : turn? t = none := by
    cases hm : turn? t with
    | none => rfl
    | some word =>
        obtain ⟨u, rfl, hs⟩ := turn?_eq_some hm
        have hc := not_isOneOf_of_getLast? h
        simp only [isOneOf, courseWords, sideWords, List.any_cons, List.any_nil, Bool.or_false,
          Bool.or_eq_true, Bool.or_eq_false_iff] at hs hc
        rcases hs with hs | hs
        · rw [hc.2.2.1] at hs; cases hs
        · rw [hc.2.2.2] at hs; cases hs
  simp only [readPlain, hmove, hturn]
  split
  · exact ⟨_, rfl⟩
  · split
    · exact ⟨_, rfl⟩
    · split
      · exact ⟨_, rfl⟩
      · split
        · exact ⟨_, rfl⟩
        · exact ⟨_, rfl⟩

/-! ## Lines -/

mutual
/-- The statement is one that does nothing, or holds one. -/
def Stmt.hasNoop : Stmt → Bool
  | .noop => true
  | .ifThen _ yes => yes.hasNoop
  | .ifElse _ yes no => yes.hasNoop || no.hasNoop
  | .function _ body => Stmt.hasNoopIn body
  | .assign .. | .move .. | .turn _ | .scan | .attack | .call _ => false

def Stmt.hasNoopIn : List Stmt → Bool
  | [] => false
  | s :: body => s.hasNoop || Stmt.hasNoopIn body
end

theorem Stmt.IsSimple.hasNoop_eq_false {s : Stmt} (h : s.IsSimple) :
    s.hasNoop = false ↔ s ≠ .noop := by
  cases s with
  | noop => simp [Stmt.hasNoop]
  | ifThen => exact h.elim
  | ifElse => exact h.elim
  | function => exact h.elim
  | _ => simp [Stmt.hasNoop]

theorem conditional?_of_head {c : Char} {t : List Char} (ht : t.head? = some c)
    (hc : capital c ≠ 'I') : conditional? t = none := by
  obtain ⟨r, rfl⟩ := List.head?_eq_some_iff.mp ht
  simp [conditional?_eq, afterKeyword?, hc]

/-- A statement that holds no other is not taken for a conditional, though its name may be IF. -/
theorem Stmt.IsSimple.conditional?_words {s : Stmt} (h : s.IsSimple) (hne : s ≠ .noop) :
    conditional? (sentence s.words) = none := by
  cases s with
  | assign name value =>
      have hwords : ∀ w ∈ [['='], value.text.toList], IsWord w := fun w hw =>
        h.isWord w (List.mem_cons_of_mem _ hw)
      rw [Stmt.words, sentence_cons_cons]
      cases hkw : isKeyword "IF".toList name.toList with
      | true =>
          refine Script.conditional?_words hkw (by simp) hwords fun us v vs heq hus hthen => ?_
          obtain ⟨u, us, rfl⟩ := List.exists_cons_of_ne_nil hus
          cases us with
          | nil => exact (List.cons.inj (List.cons.inj heq).2).2.symm
          | cons => simp at heq
      | false =>
          have hname := (isPlainWord_of_isName h.1).isWord
          rw [conditional?_eq, afterKeyword?_bind_blanks (by decide) hname.solid
            (startsBlank_cons.mpr (by decide)), hkw]
          rfl
  | move => rw [← h.bare_eq]; exact conditional?_of_head (c := 'M') (by simp [Stmt.bare]) (by decide)
  | turn => rw [← h.bare_eq]; exact conditional?_of_head (c := 'T') (by simp [Stmt.bare]) (by decide)
  | scan => rfl
  | attack => rfl
  | call => rw [← h.bare_eq]; exact conditional?_of_head (c := 'C') (by simp [Stmt.bare]) (by decide)
  | noop => exact absurd rfl hne
  | ifThen => exact h.elim
  | ifElse => exact h.elim
  | function => exact h.elim

theorem isTidy_if (m : List Char) {u : List Char} (h : IsTidy u) :
    IsTidy ("IF".toList ++ (m ++ u)) := (IsWord.isTidy ⟨by decide, by decide⟩).append h m

theorem readLine_ifThen {e : Expr} {y : Stmt} (he : e.Legible) (hy : y.IsSimple) (hne : y ≠ .noop) :
    readLine (conditionalText e.text.toList (' ' :: sentence y.words)) = .ok (.ifThen e y) := by
  have htidy := isTidy_sentence (hy.words_ne_nil hne) hy.isWord
  have hbranch : blanks (branches? e.text.toList) (' ' :: sentence y.words) =
      some (e.text.toList, sentence y.words, none) := by
    rw [blanks_one (by decide) htidy.front]
    exact branches?_end (hy.words_ne_nil hne) hy.isWord fun _ _ _ => hy.else_last
  rw [readLine, conditional?_of_branches? he.isPlainWord.isWord hbranch]
  simp only [hy.readBranch_words hne, he.ofChars_text]
  rfl

theorem readLine_ifElse {e : Expr} {y n : Stmt} (he : e.Legible) (hy : y.IsSimple) (hn : n.IsSimple)
    (hyne : y ≠ .noop) (hnne : n ≠ .noop) (helse : y.callsElse = false) :
    readLine (conditionalText e.text.toList
      (' ' :: (sentence y.words ++ ' ' :: ("ELSE".toList ++ ' ' :: sentence n.words)))) =
      .ok (.ifElse e y n) := by
  have hytidy := isTidy_sentence (hy.words_ne_nil hyne) hy.isWord
  have hntidy := isTidy_sentence (hn.words_ne_nil hnne) hn.isWord
  have hbranch : blanks (branches? e.text.toList)
      (' ' :: (sentence y.words ++ ' ' :: ("ELSE".toList ++ ' ' :: sentence n.words))) =
      some (e.text.toList, sentence y.words, some (sentence n.words)) := by
    rw [blanks_one (by decide) hytidy.startsSolid]
    refine branches?_else (hy.words_ne_nil hyne) hy.isWord (fun v hv => ?_) hntidy
      (notMem_sentence hn.isPlainWord (by decide) (by decide))
    rw [Bool.eq_false_iff]
    intro hkw
    rw [(hy.callsElse_of_mem hv hkw).1] at helse
    cases helse
  rw [readLine, conditional?_of_branches? he.isPlainWord.isWord hbranch]
  simp only [hy.readBranch_words hyne, hn.readBranch_words hnne, he.ofChars_text]
  rfl

/-- With nothing after THEN the line is no conditional, and nothing else either. -/
theorem readLine_ifThen_noop {e : Expr} (he : e.Legible) :
    readLine (conditionalText e.text.toList []) = .ok .noop := by
  have hword := he.isPlainWord.isWord
  have htext : conditionalText e.text.toList [] =
      "IF".toList ++ ' ' :: sentence [e.text.toList, "THEN".toList] := by
    simp [conditionalText, sentence_cons_cons, sentence_singleton]
  have hcond : conditional? (conditionalText e.text.toList []) = none := by
    rw [htext]
    refine conditional?_words (by decide) (by simp) ?_ ?_
    · simp only [List.forall_mem_cons]
      exact ⟨hword, ⟨by decide, by decide⟩, by simp⟩
    · intro us v vs heq hus _
      obtain ⟨u, us, rfl⟩ := List.exists_cons_of_ne_nil hus
      cases us with
      | nil => simp at heq; exact heq.2.2
      | cons => simp at heq
  have hassign : assignment? (conditionalText e.text.toList []) = none :=
    assignment?_eq_none (by decide) hword.startsSolid (e.text_append_ne _)
  rw [readLine, hcond]
  exact readPlain_noop (c := 'I') rfl hassign (by decide)

/-- The first word of a statement is ELSE only where it assigns to such a variable. -/
theorem Stmt.IsSimple.assign_of_head {s : Stmt} (h : s.IsSimple) {w : List Char}
    (hw : s.words.head? = some w) (hkw : isKeyword "ELSE".toList w = true) :
    ∃ value, s = .assign (String.ofList w) value := by
  cases s with
  | assign name value =>
      obtain rfl := Option.some.inj hw
      exact ⟨value, by rw [String.ofList_toList]⟩
  | ifThen => exact h.elim
  | ifElse => exact h.elim
  | function => exact h.elim
  | noop => cases hw
  | _ => obtain rfl := Option.some.inj hw; exact absurd hkw (by decide)

theorem Stmt.IsSimple.sentence_ne {s : Stmt} (h : s.IsSimple) (r : List Char) :
    sentence s.words ≠ '=' :: r := by
  rw [← h.bare_eq]
  intro heq
  cases s with
  | assign name value =>
      obtain ⟨hname, -⟩ := h
      simp only [Stmt.bare, String.toList_append] at heq
      cases hn : name.toList with
      | nil => rw [hn] at hname; cases hname
      | cons c t =>
          rw [hn] at heq hname
          obtain ⟨rfl, -⟩ := List.cons.inj heq
          cases hname
  | ifThen => exact h.elim
  | ifElse => exact h.elim
  | function => exact h.elim
  | noop => cases heq
  | move => simp [Stmt.bare] at heq
  | turn => simp [Stmt.bare] at heq
  | scan => cases heq
  | attack => cases heq
  | call => simp [Stmt.bare] at heq

theorem blanks_two {α : Type} {k : List Char → Option α} {t : List Char} {a : α} (ht : StartsSolid t)
    (h : k t = some a) : blanks k (' ' :: ' ' :: t) = some a := by
  have hblank : isBlank ' ' = true := by decide
  rw [blanks, if_pos hblank, blanks_one hblank ht, h, Option.some_or]

theorem readPlain_equals (t : List Char) : readPlain ('=' :: t) = .ok .noop := by
  refine readPlain_noop (c := '=') rfl ?_ (by decide)
  have hname : isNameChar '=' = false := by decide
  have hblank : isBlank '=' = false := by decide
  simp [assignment?, hname, trimStart, hblank, isName]

theorem Stmt.IsSimple.readPlain_else {n : Stmt} (hn : n.IsSimple) :
    readPlain (sentence ("ELSE".toList :: n.words)) = .ok .noop := by
  cases hw : n.words with
  | nil => rw [sentence_singleton]; rfl
  | cons w ws =>
      have htidy := isTidy_sentence (by simp [hw]) hn.isWord
      rw [sentence_cons_cons, ← hw]
      exact readPlain_noop (c := 'E') rfl
        (assignment?_eq_none (by decide) htidy.front hn.sentence_ne) (by decide)

theorem Stmt.IsSimple.isPlainWord_else {n : Stmt} (hn : n.IsSimple) :
    ∀ w ∈ "ELSE".toList :: n.words, IsPlainWord w := by
  simp only [List.forall_mem_cons]
  exact ⟨⟨by decide, by decide⟩, hn.isPlainWord⟩

/-- An assignment to ELSE alone: its name is taken for the keyword, and no statement is left. -/
theorem readLine_else_assign {e value : Expr} {w : List Char} (he : e.Legible)
    (hn : (Stmt.assign (String.ofList w) value).IsSimple) (hkw : isKeyword "ELSE".toList w = true) :
    readLine (conditionalText e.text.toList
      (' ' :: ' ' :: sentence ("ELSE".toList :: (Stmt.assign (String.ofList w) value).words))) =
        .ok (.ifElse e .noop .noop) := by
  have hwords := hn.isPlainWord_else
  have hsplit : "ELSE".toList :: (Stmt.assign (String.ofList w) value).words =
      ["ELSE".toList, w, ['='], value.text.toList] := by
    have hname : (String.ofList w).toList = w := String.toList_ofList
    rw [Stmt.words, hname]
  rw [hsplit] at hwords ⊢
  have hrest : ∀ u ∈ [['='], value.text.toList], IsPlainWord u := fun u hu =>
    hwords u (by simp only [List.mem_cons] at hu ⊢; exact .inr (.inr hu))
  have hsolid := (isTidy_sentence (by simp) fun u hu => (hwords u hu).isWord).front
  have hbranch : branches? e.text.toList
      (sentence ["ELSE".toList, w, ['='], value.text.toList]) =
      some (e.text.toList, "ELSE".toList, some (sentence [['='], value.text.toList])) := by
    have htidy := isTidy_sentence (by simp) fun u hu => (hrest u hu).isWord
    rw [sentence_cons_cons, sentence_cons_cons, branches?, shortest_word (guarded_branch _) isWord_else,
      elseBranch?_else (hwords w (by simp)).isWord hkw htidy
        (notMem_sentence hrest (by decide) (by decide)), Option.some_or, Option.some_or]
  have hyes : readBranch "ELSE".toList = .ok .noop := rfl
  have hno : readBranch (sentence [['='], value.text.toList]) = .ok .noop := by
    rw [readBranch_sentence (by simp) hrest, sentence_cons_cons]
    exact readPlain_equals _
  rw [readLine, conditional?_of_branches? he.isPlainWord.isWord (blanks_two hsolid hbranch)]
  simp only [hyes, hno, he.ofChars_text]
  rfl

/-- Without a first branch, ELSE is read as a part of it. -/
theorem readLine_ifElse_noop {e : Expr} {n : Stmt} (he : e.Legible) (hn : n.IsSimple) :
    ∃ r, readLine (conditionalText e.text.toList
      (' ' :: ' ' :: sentence ("ELSE".toList :: n.words))) = .ok r ∧ r ≠ .ifElse e .noop n := by
  by_cases hfirst : ∃ w, n.words.head? = some w ∧ isKeyword "ELSE".toList w = true
  · obtain ⟨w, hw, hkw⟩ := hfirst
    obtain ⟨value, rfl⟩ := hn.assign_of_head hw hkw
    exact ⟨.ifElse e .noop .noop, readLine_else_assign he hn hkw, by simp⟩
  · have hwords := hn.isPlainWord_else
    have hsolid := (isTidy_sentence (by simp) fun w hw => (hwords w hw).isWord).front
    have hbranch : branches? e.text.toList (sentence ("ELSE".toList :: n.words)) =
        some (e.text.toList, sentence ("ELSE".toList :: n.words), none) := by
      refine branches?_end (by simp) (fun w hw => (hwords w hw).isWord) fun us v vs heq hus hkw => ?_
      obtain ⟨u, us, rfl⟩ := List.exists_cons_of_ne_nil hus
      have hrest := (List.cons.inj heq).2
      cases us with
      | nil => exact absurd ⟨v, by rw [hrest]; rfl, hkw⟩ hfirst
      | cons u us => exact hn.else_last hrest (by simp) hkw
    refine ⟨.ifThen e .noop, ?_, by simp⟩
    rw [readLine, conditional?_of_branches? he.isPlainWord.isWord (blanks_two hsolid hbranch)]
    simp only [readBranch_sentence (List.cons_ne_nil _ _) hwords, hn.readPlain_else,
      he.ofChars_text]
    rfl

/-- Without a second branch, ELSE is read as a part of the first. -/
theorem readLine_else_noop {e : Expr} {y : Stmt} (he : e.Legible) (hy : y.IsSimple)
    (hne : y ≠ .noop) (helse : y.callsElse = false) :
    ∃ r, readLine (conditionalText e.text.toList
      (' ' :: sentence (y.words ++ ["ELSE".toList]))) = .ok r ∧ r ≠ .ifElse e y .noop := by
  have hwords : ∀ w ∈ y.words ++ ["ELSE".toList], IsPlainWord w := by
    intro w hw
    rcases List.mem_append.mp hw with hw | hw
    · exact hy.isPlainWord w hw
    · rw [List.mem_singleton.mp hw]; exact ⟨by decide, by decide⟩
  have hsolid := (isTidy_sentence (by simp) fun w hw => (hwords w hw).isWord).front
  have hbranch : branches? e.text.toList (sentence (y.words ++ ["ELSE".toList])) =
      some (e.text.toList, sentence (y.words ++ ["ELSE".toList]), none) := by
    refine branches?_end (by simp) (fun w hw => (hwords w hw).isWord) fun us v vs heq hus hkw => ?_
    rcases List.append_eq_append_iff.mp heq with ⟨ws, -, hws⟩ | ⟨ws, hws, hvs⟩
    · cases ws with
      | nil => exact (List.cons.inj hws).2.symm
      | cons w ws => simp at hws
    · cases ws with
      | nil => exact (List.cons.inj hvs).2
      | cons w ws =>
          obtain ⟨rfl, -⟩ := List.cons.inj hvs
          obtain ⟨u, us, rfl⟩ := List.exists_cons_of_ne_nil hus
          rw [(hy.callsElse_of_mem (by rw [hws]; simp) hkw).1] at helse
          cases helse
  obtain ⟨s, hs⟩ := readPlain_isOk (t := sentence (y.words ++ ["ELSE".toList])) (by
    rw [sentence_append (hy.words_ne_nil hne) (by simp), sentence_singleton]
    simp)
  refine ⟨.ifThen e s, ?_, by simp⟩
  rw [readLine, conditional?_of_branches? he.isPlainWord.isWord
    ((blanks_one (by decide) hsolid).trans hbranch)]
  simp only [readBranch_sentence (by simp) hwords, hs, he.ofChars_text]
  rfl

theorem Stmt.IsSimple.readLine_bare {s : Stmt} (h : s.IsSimple) (hne : s ≠ .noop) :
    ∃ r, readLine (trim s.bare.toList) = .ok r ∧ (r = s ↔ s.hasNoop = false) := by
  have htidy := isTidy_sentence (h.words_ne_nil hne) h.isWord
  refine ⟨s, ?_, by simp [h.hasNoop_eq_false, hne]⟩
  rw [h.bare_eq, htidy.trim_eq, readLine, h.conditional?_words hne]
  simp only [← h.bare_eq, h.readPlain_bare hne]

theorem readLine_ifThen_bare {e : Expr} {y : Stmt} (he : e.Legible) (hy : y.IsSimple) :
    ∃ r, readLine (trim (Stmt.ifThen e y).bare.toList) = .ok r ∧
      (r = .ifThen e y ↔ y.hasNoop = false) := by
  have hbare : (Stmt.ifThen e y).bare.toList =
      conditionalText e.text.toList (' ' :: sentence y.words) := by
    simp [Stmt.bare, hy.bare_eq, conditionalText]
  rw [hbare, hy.hasNoop_eq_false]
  by_cases hne : y = .noop
  · subst hne
    have htidy : IsTidy (conditionalText e.text.toList []) := by
      have := isTidy_if (' ' :: (e.text.toList ++ [' ']))
        (IsWord.isTidy (w := "THEN".toList) ⟨by decide, by decide⟩)
      simpa [conditionalText] using this
    have htrim : trim (conditionalText e.text.toList [' ']) = conditionalText e.text.toList [] := by
      rw [← htidy.trim_blank]
      simp [conditionalText]
    refine ⟨.noop, ?_, by simp⟩
    exact (congrArg readLine htrim).trans (readLine_ifThen_noop he)
  · have htidy : IsTidy (conditionalText e.text.toList (' ' :: sentence y.words)) := by
      have := isTidy_if (' ' :: (e.text.toList ++ " THEN ".toList))
        (isTidy_sentence (hy.words_ne_nil hne) hy.isWord)
      simpa [conditionalText] using this
    rw [htidy.trim_eq]
    exact ⟨_, readLine_ifThen he hy hne, by simpa using hne⟩

theorem trim_else (m : List Char) {ws : List (List Char)} (h : ∀ w ∈ ws, IsWord w) :
    trim ("IF".toList ++ (m ++ ("ELSE".toList ++ ' ' :: sentence ws))) =
      "IF".toList ++ (m ++ sentence ("ELSE".toList :: ws)) := by
  cases ws with
  | nil =>
      have htidy := isTidy_if m isWord_else.isTidy
      rw [sentence_singleton, ← htidy.trim_blank]
      simp [sentence, List.intercalate]
  | cons w ws =>
      have htidy := isTidy_if m (isTidy_sentence (by simp)
        (List.forall_mem_cons.mpr ⟨isWord_else, h⟩))
      rw [← sentence_cons_cons, htidy.trim_eq]

theorem readLine_ifElse_bare {e : Expr} {y n : Stmt} (he : e.Legible) (hy : y.IsSimple)
    (hn : n.IsSimple) (helse : y.callsElse = false) :
    ∃ r, readLine (trim (Stmt.ifElse e y n).bare.toList) = .ok r ∧
      (r = .ifElse e y n ↔ y.hasNoop = false ∧ n.hasNoop = false) := by
  have hbare : (Stmt.ifElse e y n).bare.toList = "IF".toList ++
      (' ' :: (e.text.toList ++ (" THEN ".toList ++ (sentence y.words ++ [' ']))) ++
        ("ELSE".toList ++ ' ' :: sentence n.words)) := by
    simp [Stmt.bare, hy.bare_eq, hn.bare_eq]
  rw [hbare, trim_else _ hn.isWord, hy.hasNoop_eq_false, hn.hasNoop_eq_false]
  by_cases hyne : y = .noop
  · subst hyne
    obtain ⟨r, hr, hrne⟩ := readLine_ifElse_noop he hn
    refine ⟨r, ?_, by simp [hrne]⟩
    rw [← hr]
    simp [conditionalText, Stmt.words, sentence, List.intercalate]
  · by_cases hnne : n = .noop
    · subst hnne
      obtain ⟨r, hr, hrne⟩ := readLine_else_noop he hy hyne helse
      refine ⟨r, ?_, by simp [hrne]⟩
      rw [← hr, sentence_append (hy.words_ne_nil hyne) (by simp)]
      simp [conditionalText, Stmt.words]
    · obtain ⟨w, ws, hws⟩ := List.exists_cons_of_ne_nil (hn.words_ne_nil hnne)
      refine ⟨.ifElse e y n, ?_, by simp [hyne, hnne]⟩
      rw [← readLine_ifElse he hy hn hyne hnne helse, hws, sentence_cons_cons]
      simp [conditionalText]

/-- A written line is read, and as the statement that was written unless a branch does nothing. -/
theorem Stmt.IsLine.readLine_bare {s : Stmt} (h : s.IsLine) (hne : s ≠ .noop) :
    ∃ r, readLine (trim s.bare.toList) = .ok r ∧ (r = s ↔ s.hasNoop = false) := by
  rcases h.cases with hs | ⟨e, y, rfl, he, hy⟩ | ⟨e, y, n, rfl, he, hy, hn, helse⟩
  · exact hs.readLine_bare hne
  · exact readLine_ifThen_bare he hy
  · simp only [Stmt.hasNoop, Bool.or_eq_false_iff]
    exact readLine_ifElse_bare he hy hn helse

end TankArena.Script
