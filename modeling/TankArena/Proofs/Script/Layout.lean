import TankArena.Proofs.Script.Blocks

/-!
# Layout

A script may be laid out in any way: comments after its lines, blanks around them and lines with
nothing else between them change none of its statement texts, inside and outside of blocks.
-/

namespace TankArena.Script

open Text

/-! ## Edits -/

/-- Blanks without the end of a line among them. -/
def IsPadding (b : List Char) : Prop := ∀ c ∈ b, isBlank c = true ∧ c ≠ '\n'

instance : DecidablePred IsPadding := fun b => decidableForallMem _ b

/-- The second line is the first with comments after it and blanks around it. -/
inductive Decorated (l : List Char) : List Char → Prop
  | refl : Decorated l l
  | comment {m c text} : Decorated l m → IsPadding [c] → '\n' ∉ text →
      Decorated l (m ++ c :: '/' :: '/' :: text)
  | before {m b} : Decorated l m → IsPadding b → Decorated l (b ++ m)
  | after {m b} : Decorated l m → IsPadding b → Decorated l (m ++ b)

/-- A line of blanks, or of blanks and a comment. -/
inductive IsIdle : List Char → Prop
  | blank {b} : IsPadding b → IsIdle b
  | comment {b text} : IsPadding b → '\n' ∉ text → IsIdle (b ++ '/' :: '/' :: text)

/-- The same lines, each of them decorated, with idle lines anywhere between them. -/
inductive Relaid : List (List Char) → List (List Char) → Prop
  | nil : Relaid [] []
  | line {l m ls ms} : Decorated l m → Relaid ls ms → Relaid (l :: ls) (m :: ms)
  | insert {m ls ms} : IsIdle m → Relaid ls ms → Relaid ls (m :: ms)

/-! ## What is left of an edited line -/

variable {l m b : List Char}

theorem IsPadding.isBlank (h : IsPadding b) : ∀ c ∈ b, isBlank c = true := fun c hc => (h c hc).1

theorem IsPadding.slash_notMem (h : IsPadding b) : '/' ∉ b := fun hm =>
  absurd (h.isBlank _ hm) (by decide)

theorem cutComment_cons {c : Char} (h : c ≠ '/') (t : List Char) :
    cutComment (c :: t) = c :: cutComment t := by
  rw [cutComment]
  rintro r rfl
  exact absurd rfl h

theorem cutComment_append (h : '/' ∉ b) (t : List Char) :
    cutComment (b ++ t) = b ++ cutComment t := by
  induction b with
  | nil => rfl
  | cons c b ih =>
      rw [List.mem_cons, not_or] at h
      rw [List.cons_append, cutComment_cons (Ne.symm h.1), ih h.2, List.cons_append]

/-- A line with more after it is cut where it was, or in what follows it. -/
theorem cutComment_append_cases (m : List Char) :
    (∀ c t, c ≠ '/' → cutComment (m ++ c :: t) = cutComment m) ∨
    cutComment m = m ∧ ∀ c t, c ≠ '/' → cutComment (m ++ c :: t) = m ++ c :: cutComment t := by
  fun_induction cutComment m with
  | case1 m => exact .inl fun _ _ _ => rfl
  | case2 d m hne ih =>
      have hcons (c : Char) (t : List Char) (hc : c ≠ '/') :
          cutComment (d :: m ++ c :: t) = d :: cutComment (m ++ c :: t) := by
        rw [List.cons_append, cutComment]
        -- A slash at the end of the line is followed by no other.
        rintro r rfl heq
        cases m with
        | nil => exact hc (List.cons.inj heq).1
        | cons e m => exact hne m rfl (by rw [(List.cons.inj heq).1])
      rcases ih with h | ⟨heq, h⟩
      · exact .inl fun c t hc => by rw [hcons c t hc, h c t hc]
      · exact .inr ⟨by rw [heq], fun c t hc => by rw [hcons c t hc, h c t hc]; rfl⟩
  | case3 => exact .inr ⟨rfl, fun c t hc => cutComment_cons hc t⟩

theorem trim_cutComment_append (hb : IsPadding b) (m : List Char) :
    trim (cutComment (m ++ b)) = trim (cutComment m) := by
  cases b with
  | nil => rw [List.append_nil]
  | cons c b =>
      have hne : c ≠ '/' := fun h => hb.slash_notMem (h ▸ List.mem_cons_self)
      rcases cutComment_append_cases m with h | ⟨heq, h⟩
      · rw [h c b hne]
      · rw [h c b hne, ← cutComment_cons hne, cutComment_eq_self hb.slash_notMem, heq,
          trim_append_blanks hb.isBlank]

theorem Decorated.trim_cutComment (h : Decorated l m) :
    trim (cutComment m) = trim (cutComment l) := by
  induction h with
  | refl => rfl
  | @comment m c text _ hc _ ih =>
      have hne : c ≠ '/' := fun h => hc.slash_notMem (h ▸ List.mem_cons_self)
      rcases cutComment_append_cases m with h | ⟨heq, h⟩
      · rw [h c _ hne, ih]
      · rw [h c _ hne, ← ih, heq]
        exact trim_append_blanks hc.isBlank m
  | before _ hb ih => rw [cutComment_append hb.slash_notMem, trim_blanks_append hb.isBlank, ih]
  | after _ hb ih => rw [trim_cutComment_append hb, ih]

theorem IsIdle.trim_cutComment (h : IsIdle m) : trim (cutComment m) = [] := by
  have htrim {b : List Char} (hb : IsPadding b) : trim (b ++ []) = [] := trim_blanks_append hb.isBlank []
  cases h with
  | blank hb =>
      rw [cutComment_eq_self hb.slash_notMem, ← List.append_nil m]
      exact htrim hb
  | comment hb _ =>
      rw [cutComment_append hb.slash_notMem]
      exact htrim hb

/-! ## Scripts -/

theorem Relaid.codeLines_eq {ls ms : List (List Char)} (h : Relaid ls ms) :
    codeLines ms = codeLines ls := by
  induction h with
  | nil => rfl
  | line hl _ ih =>
      unfold codeLines at ih ⊢
      rw [List.map_cons, List.map_cons, List.filter_cons, List.filter_cons, hl.trim_cutComment, ih]
  | insert hm _ ih =>
      unfold codeLines at ih ⊢
      rw [List.map_cons, List.filter_cons_of_neg (by simp [hm.trim_cutComment]), ih]

/-- A script that is laid out in another way has the same statement texts and is the same program, or
fails for the same reason. -/
theorem parse_of_relaid {source edited : String}
    (h : Relaid (lines source.toList) (lines edited.toList)) (room : Nat) :
    tokenize edited = tokenize source ∧
      Program.parse room edited = Program.parse room source := by
  have htokens : tokensOf (lines edited.toList) = tokensOf (lines source.toList) :=
    congrArg cutOutside h.codeLines_eq
  refine ⟨congrArg (List.map String.ofList) htokens, ?_⟩
  unfold Program.parse Program.ofChars
  rw [htokens]

/-- A comment that would close the block, and one after a line that ends in a slash. -/
theorem parse_of_relaid_block :
    let source := "FUNCTION F:\nA = 4/\nEND"
    let edited := "FUNCTION F:\n//END\n\u3000A = 4/\t///END\nEND"
    Relaid (lines source.toList) (lines edited.toList) ∧
    tokenize edited = tokenize source ∧ Program.parse 2 edited = Program.parse 2 source := by
  intro source edited
  have hsource : lines source.toList =
      ["FUNCTION F:".toList, "A = 4/".toList, "END".toList] := by decide +kernel
  have hedited : lines edited.toList =
      ["FUNCTION F:".toList, [] ++ '/' :: '/' :: "END".toList,
        (['\u3000'] ++ "A = 4/".toList) ++ '\t' :: '/' :: '/' :: "/END".toList,
        "END".toList] := by decide +kernel
  have h : Relaid (lines source.toList) (lines edited.toList) := by
    rw [hsource, hedited]
    refine .line .refl (.insert (.comment (by decide) (by decide)) (.line ?_ (.line .refl .nil)))
    exact .comment (.before .refl (by decide)) (by decide) (by decide)
  exact ⟨h, parse_of_relaid h 2⟩

end TankArena.Script
