import TankArena.Proofs.Script.Misspelling

/-!
# Where reading a script fails

Reading fails at a direction that is recognised and not found, at whatever depth its statement stands,
and at a text that is nested deeper than there is room for. A failure inside a block or a branch fails
the whole script. Nothing else fails.
-/

namespace TankArena.Script

open Text

variable {c : Char} {room : Nat} {t token text : List Char} {e : ReadError}

/-! ## Plain statements inside a statement text -/

/-- The plain statements in a statement text: the text itself, a branch of it if it is a conditional,
and those in the texts inside it if it is a function block. -/
inductive Holds : List Char → List Char → Prop
  | plain {token : List Char} : block? (withoutTerminator token) = none →
      conditional? (withoutTerminator token) = none → Holds token (withoutTerminator token)
  | branch {token test yes branch : List Char} {no : Option (List Char)} :
      block? (withoutTerminator token) = none →
      conditional? (withoutTerminator token) = some (test, yes, no) → branch ∈ yes :: no.toList →
      Holds token (withoutTerminator branch)
  | inner {token name t text : List Char} {inner : List (List Char)} :
      block? (withoutTerminator token) = some (name, inner) → t ∈ tokensOf inner →
      Holds t text → Holds token text

/-- A conditional is read branch by branch. -/
theorem readLine_of_conditional? {test yes : List Char} {no : Option (List Char)}
    (h : conditional? t = some (test, yes, no)) :
    ∃ join, readLine t = ((yes :: no.toList).mapM readBranch).map join := by
  cases no with
  | none =>
      refine ⟨fun bs => .ifThen (.ofChars test) (bs.headD .noop), ?_⟩
      simp only [readLine, h, Option.toList_none, List.mapM_cons, List.mapM_nil]
      cases readBranch yes <;> rfl
  | some no =>
      refine ⟨fun bs => .ifElse (.ofChars test) (bs.headD .noop) (bs.tail.headD .noop), ?_⟩
      simp only [readLine, h, Option.toList_some, List.mapM_cons, List.mapM_nil]
      cases readBranch yes with
      | error e => rfl
      | ok y => cases readBranch no <;> rfl

/-- A statement on one line fails at a plain statement in it. -/
theorem exists_holds_of_readLine_eq_error (hb : block? (withoutTerminator token) = none)
    (h : readLine (withoutTerminator token) = .error e) :
    ∃ text, Holds token text ∧ readPlain text = .error e := by
  cases hc : conditional? (withoutTerminator token) with
  | none =>
      simp only [readLine, hc] at h
      exact ⟨_, .plain hb hc, h⟩
  | some a =>
      obtain ⟨test, yes, no⟩ := a
      obtain ⟨join, hline⟩ := readLine_of_conditional? hc
      rw [hline] at h
      obtain ⟨branch, hmem, hread⟩ := exists_of_map_mapM_eq_error h
      exact ⟨_, .branch hb hc hmem, hread⟩

/-- A statement is read only if every plain statement in it is. -/
theorem Holds.exists_readPlain (h : Holds token text) {s : Stmt}
    (hs : Stmt.read room token = .ok s) : ∃ u, readPlain text = .ok u := by
  induction h generalizing room s with
  | plain hb hc =>
      cases room with
      | zero => cases hs
      | succ room =>
          rw [Stmt.read_of_not_block? hb] at hs
          simp only [readLine, hc] at hs
          exact ⟨s, hs⟩
  | branch hb hc hmem =>
      cases room with
      | zero => cases hs
      | succ room =>
          obtain ⟨join, hline⟩ := readLine_of_conditional? hc
          rw [Stmt.read_of_not_block? hb, hline] at hs
          exact exists_of_map_mapM_eq_ok hs hmem
  | inner hb hmem _ ih =>
      cases room with
      | zero => cases hs
      | succ room =>
          rw [Stmt.read_of_block? hb] at hs
          obtain ⟨u, hu⟩ := exists_of_map_mapM_eq_ok hs hmem
          exact ih hu

theorem Holds.mem (h : Holds token text) (hc : c ∉ cutMarks) (hm : c ∈ text) : c ∈ token := by
  induction h with
  | plain => exact (withoutTerminator_sublist _).subset hm
  | branch _ hcond hmem =>
      have hbranch := (withoutTerminator_sublist _).subset hm
      exact (withoutTerminator_sublist _).subset (branch_subset hcond hmem hbranch)
  | inner hb hmem _ ih =>
      have hinner := mem_of_mem_tokensOf hc hmem (ih hm)
      exact (withoutTerminator_sublist _).subset (mem_of_mem_lines (block?_eq_some hb).2 hinner)

/-! ## Statements -/

/-- A plain statement in the text has a direction written with a lookalike, and looking it up gives
the error. -/
def FailsAt (token : List Char) (e : ReadError) : Prop :=
  ∃ text word, Holds token text ∧ Misdirected text word e ∧ ∃ c ∈ lookalikes, c ∈ word.map upper

theorem FailsAt.of_inside (h : FailsAt t e) (hinside : ReadsInside token t) : FailsAt token e := by
  obtain ⟨text, word, hholds, hmis⟩ := h
  obtain ⟨name, inner, hb, hmem⟩ := hinside
  exact ⟨text, word, .inner hb hmem hholds, hmis⟩

/-- By induction on the room: a block fails at a text inside it. -/
theorem failsAt_or_tooDeep (h : Stmt.read room token = .error e) :
    FailsAt token e ∨ (e = .tooDeep ∧ TooDeep room token) := by
  induction room generalizing token with
  | zero =>
      cases h
      exact .inr ⟨rfl, .noRoom⟩
  | succ room ih =>
      cases hb : block? (withoutTerminator token) with
      | none =>
          rw [Stmt.read_of_not_block? hb] at h
          obtain ⟨text, hholds, hread⟩ := exists_holds_of_readLine_eq_error hb h
          obtain ⟨word, hmis⟩ := readPlain_eq_error_iff.mp hread
          obtain ⟨c, hl, -, hupper⟩ := hmis.exists_lookalike
          exact .inl ⟨text, word, hholds, hmis, c, hl, hupper⟩
      | some b =>
          obtain ⟨name, inner⟩ := b
          rw [Stmt.read_of_block? hb] at h
          obtain ⟨t, hmem, ht⟩ := exists_of_map_mapM_eq_error h
          have hinside : ReadsInside token t := ⟨name, inner, hb, hmem⟩
          exact (ih ht).imp (·.of_inside hinside) fun ⟨he, hdeep⟩ => ⟨he, .inner hinside hdeep⟩

theorem FailsAt.ne_tooDeep (h : FailsAt token e) : e ≠ .tooDeep := by
  obtain ⟨text, word, -, hmis, -⟩ := h
  cases hmis <;> rintro ⟨⟩

theorem tooDeep_of_read_eq (h : Stmt.read room token = .error .tooDeep) : TooDeep room token :=
  (failsAt_or_tooDeep h).elim (fun hfails => absurd rfl hfails.ne_tooDeep) And.right

theorem FailsAt.exists_read_eq_error (h : FailsAt token e) (room : Nat) :
    ∃ e', Stmt.read room token = .error e' := by
  obtain ⟨text, word, hholds, hmis, -⟩ := h
  cases hread : Stmt.read room token with
  | error e' => exact ⟨e', rfl⟩
  | ok s =>
      obtain ⟨u, hu⟩ := hholds.exists_readPlain hread
      rw [readPlain_eq_error_iff.mpr ⟨word, hmis⟩] at hu
      cases hu

theorem TooDeep.exists_read_eq_error (h : TooDeep room token) :
    ∃ e, Stmt.read room token = .error e := by
  induction h with
  | noRoom => exact ⟨_, rfl⟩
  | @inner room token t hinside _ ih =>
      obtain ⟨name, inner, hb, hmem⟩ := hinside
      obtain ⟨e, he⟩ := ih
      cases hread : Stmt.read (room + 1) token with
      | error e' => exact ⟨e', rfl⟩
      | ok s =>
          rw [Stmt.read_of_block? hb] at hread
          obtain ⟨u, hu⟩ := exists_of_map_mapM_eq_ok hread hmem
          rw [he] at hu
          cases hu

theorem exists_read_eq_error_iff : (∃ e, Stmt.read room token = .error e) ↔
    (∃ e, FailsAt token e) ∨ TooDeep room token := by
  constructor
  · rintro ⟨e, he⟩
    exact (failsAt_or_tooDeep he).imp (fun h => ⟨e, h⟩) And.right
  · rintro (⟨e, h⟩ | h)
    · exact h.exists_read_eq_error room
    · exact h.exists_read_eq_error

theorem lookalike_notMem_cutMarks : ∀ c ∈ lookalikes, c ∉ cutMarks := by decide

theorem FailsAt.exists_lookalike (h : FailsAt token e) : ∃ c ∈ lookalikes, c ∈ token := by
  obtain ⟨text, word, hholds, hmis, -⟩ := h
  obtain ⟨c, hl, hc, -⟩ := hmis.exists_lookalike
  exact ⟨c, hl, hholds.mem (lookalike_notMem_cutMarks c hl) hc⟩

theorem parse_eq_error_iff_read {source : String} : Stmt.parse room source = .error e ↔
    trim source.toList ≠ [] ∧ Stmt.read room source.toList = .error e := by
  unfold Stmt.parse
  split
  · rename_i hblank
    exact ⟨fun h => (by cases h), fun h => absurd hblank h.1⟩
  · rename_i hne
    exact map_eq_error_iff.trans (iff_and_self.mpr fun _ => hne)

/-! ## Programs -/

theorem exists_of_parse_eq_error {source : String} (h : Program.parse room source = .error e) :
    ∃ token ∈ tokensOf (lines source.toList),
      FailsAt token e ∨ (e = .tooDeep ∧ TooDeep room token) := by
  obtain ⟨token, hmem, hread⟩ := exists_of_map_mapM_eq_error h
  exact ⟨token, hmem, failsAt_or_tooDeep hread⟩

theorem FailsAt.exists_lookalike_of_mem {source : List Char} (h : FailsAt token e)
    (hmem : token ∈ tokensOf (lines source)) : ∃ c ∈ lookalikes, c ∈ source := by
  obtain ⟨c, hl, hc⟩ := h.exists_lookalike
  have hlines := mem_of_mem_tokensOf (lookalike_notMem_cutMarks c hl) hmem hc
  exact ⟨c, hl, mem_of_mem_lines (fun l hl => hl) hlines⟩

/-- A script cannot be read if some statement in it fails or is nested too deep, and not otherwise. -/
theorem exists_parse_eq_error_iff {source : String} :
    (∃ e, Program.parse room source = .error e) ↔ ∃ token ∈ tokensOf (lines source.toList),
      (∃ e, FailsAt token e) ∨ TooDeep room token := by
  constructor
  · rintro ⟨e, he⟩
    obtain ⟨token, hmem, h⟩ := exists_of_parse_eq_error he
    exact ⟨token, hmem, h.imp (fun h => ⟨e, h⟩) And.right⟩
  · rintro ⟨token, hmem, h⟩
    obtain ⟨e', hread⟩ := exists_read_eq_error_iff.mpr h
    cases hp : Program.parse room source with
    | error e => exact ⟨e, rfl⟩
    | ok p =>
        obtain ⟨s, hs⟩ := exists_of_map_mapM_eq_ok hp hmem
        rw [hread] at hs
        cases hs

theorem FailsAt.not_of_clean {source : List Char} (hclean : ∀ c ∈ lookalikes, c ∉ source)
    (hmem : token ∈ tokensOf (lines source)) : ¬FailsAt token e := fun h => by
  obtain ⟨c, hl, hc⟩ := h.exists_lookalike_of_mem hmem
  exact hclean c hl hc

/-- Without the two letters the depth alone decides whether a script is read. -/
theorem parse_of_clean (room : Nat) {source : String}
    (hclean : ∀ c ∈ lookalikes, c ∉ source.toList) :
    (∃ p, Program.parse room source = .ok p) ∧
        (∀ token ∈ tokensOf (lines source.toList), ¬TooDeep room token) ∨
      Program.parse room source = .error .tooDeep ∧
        ∃ token ∈ tokensOf (lines source.toList), TooDeep room token := by
  cases hp : Program.parse room source with
  | ok p =>
      refine .inl ⟨⟨p, rfl⟩, fun token hmem hdeep => ?_⟩
      obtain ⟨e, he⟩ := exists_parse_eq_error_iff.mpr ⟨token, hmem, .inr hdeep⟩
      rw [hp] at he
      cases he
  | error e =>
      obtain ⟨token, hmem, hfails | ⟨rfl, hdeep⟩⟩ := exists_of_parse_eq_error hp
      · exact absurd hfails (FailsAt.not_of_clean hclean hmem)
      · exact .inr ⟨rfl, token, hmem, hdeep⟩

theorem parse_statement_of_clean (room : Nat) {source : String}
    (hclean : ∀ c ∈ lookalikes, c ∉ source.toList) :
    (∃ s, Stmt.parse room source = .ok s) ∧
        (trim source.toList ≠ [] → ¬TooDeep room source.toList) ∨
      Stmt.parse room source = .error .tooDeep ∧
        trim source.toList ≠ [] ∧ TooDeep room source.toList := by
  cases hs : Stmt.parse room source with
  | ok s =>
      refine .inl ⟨⟨s, rfl⟩, fun hne hdeep => ?_⟩
      obtain ⟨e, he⟩ := hdeep.exists_read_eq_error
      rw [parse_eq_error_iff_read.mpr ⟨hne, he⟩] at hs
      cases hs
  | error e =>
      obtain ⟨hne, hread⟩ := parse_eq_error_iff_read.mp hs
      rcases failsAt_or_tooDeep hread with hfails | ⟨rfl, hdeep⟩
      · obtain ⟨c, hl, hc⟩ := hfails.exists_lookalike
        exact absurd hc (hclean c hl)
      · exact .inr ⟨rfl, hne, hdeep⟩

/-- Reading a script or a statement text fails exactly at a direction written with a dotted I or a
Kelvin sign and at a text nested deeper than there is room for, and the error tells which. Without
those letters the depth alone decides. -/
theorem parse_fails_iff (room : Nat) (source : String) :
    ((∃ e, Program.parse room source = .error e) ↔ ∃ token ∈ tokensOf (lines source.toList),
      (∃ e, FailsAt token e) ∨ TooDeep room token) ∧
    (∀ e, Program.parse room source = .error e → ∃ token ∈ tokensOf (lines source.toList),
      FailsAt token e ∨ (e = .tooDeep ∧ TooDeep room token)) ∧
    ((∀ c ∈ lookalikes, c ∉ source.toList) →
      (∃ p, Program.parse room source = .ok p) ∧
          (∀ token ∈ tokensOf (lines source.toList), ¬TooDeep room token) ∨
        Program.parse room source = .error .tooDeep ∧
          ∃ token ∈ tokensOf (lines source.toList), TooDeep room token) ∧
    ((∃ e, Stmt.parse room source = .error e) ↔ trim source.toList ≠ [] ∧
      ((∃ e, FailsAt source.toList e) ∨ TooDeep room source.toList)) ∧
    (∀ e, Stmt.parse room source = .error e →
      FailsAt source.toList e ∨ (e = .tooDeep ∧ TooDeep room source.toList)) ∧
    ((∀ c ∈ lookalikes, c ∉ source.toList) →
      (∃ s, Stmt.parse room source = .ok s) ∧
          (trim source.toList ≠ [] → ¬TooDeep room source.toList) ∨
        Stmt.parse room source = .error .tooDeep ∧
          trim source.toList ≠ [] ∧ TooDeep room source.toList) := by
  refine ⟨exists_parse_eq_error_iff, fun e => exists_of_parse_eq_error, parse_of_clean room, ?_,
    fun e h => failsAt_or_tooDeep (parse_eq_error_iff_read.mp h).2, parse_statement_of_clean room⟩
  constructor
  · rintro ⟨e, he⟩
    obtain ⟨hne, hread⟩ := parse_eq_error_iff_read.mp he
    exact ⟨hne, exists_read_eq_error_iff.mp ⟨e, hread⟩⟩
  · rintro ⟨hne, h⟩
    obtain ⟨e, hread⟩ := exists_read_eq_error_iff.mpr h
    exact ⟨e, parse_eq_error_iff_read.mpr ⟨hne, hread⟩⟩

/-- A declaration inside a function declares nothing, but its body is read all the same: a direction
in it may fail, and four headers inside one another do not fit where there is room for three. -/
theorem parse_fails_iff_nested :
    let misspelt := "FUNCTION A:\nFUNCTION B:\nIF 1 THEN ATTACK ELSE MOVE 1 BAC\u212AWARD;"
    let headers := "FUNCTION A:\nFUNCTION A:\nFUNCTION A:\nFUNCTION A:"
    (∃ token ∈ tokensOf (lines misspelt.toList), FailsAt token (.course "BAC\u212AWARD")) ∧
    Program.parse 3 headers = .error .tooDeep ∧
    (∃ token ∈ tokensOf (lines headers.toList), TooDeep 3 token) ∧
    ∃ p, Program.parse 4 headers = .ok p := by
  intro misspelt headers
  have hmisspelt : Program.parse 3 misspelt = .error (.course "BAC\u212AWARD") := by decide +kernel
  have hclean : ∀ c ∈ lookalikes, c ∉ headers.toList := by decide
  obtain ⟨token, hmem, hfails | ⟨hdeep, -⟩⟩ := (parse_fails_iff 3 misspelt).2.1 _ hmisspelt
  · refine ⟨⟨token, hmem, hfails⟩, ?_⟩
    have hthree : Program.parse 3 headers = .error .tooDeep := by decide +kernel
    have hfour : Program.parse 4 headers ≠ .error .tooDeep := by decide +kernel
    rcases (parse_fails_iff 3 headers).2.2.1 hclean with ⟨⟨p, hp⟩, -⟩ | ⟨-, hdeep⟩
    · rw [hp] at hthree
      cases hthree
    · rcases (parse_fails_iff 4 headers).2.2.1 hclean with ⟨hp, -⟩ | ⟨hp, -⟩
      · exact ⟨hthree, hdeep, hp⟩
      · exact absurd hp hfour
  · cases hdeep

end TankArena.Script
