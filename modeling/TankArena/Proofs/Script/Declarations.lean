import TankArena.Proofs.Script.Blocks

/-!
# What a script declares

Every program that was read has the same shape: statements with legible parts, conditionals with
simple branches, and no declaration outside of the table. The table holds exactly the names in the
well-formed headers of blocks that are opened outside of any other block.
-/

namespace TankArena.Script

open Text

/-! ## Statements in a program -/

def Stmt.branches : Stmt → List Stmt
  | .ifThen _ yes => [yes]
  | .ifElse _ yes no => [yes, no]
  | _ => []

/-- The expressions of a statement, without those in its branches. -/
def Stmt.exprs : Stmt → List Expr
  | .assign _ value => [value]
  | .move amount _ => [amount]
  | .ifThen test _ => [test]
  | .ifElse test _ _ => [test]
  | _ => []

/-- The statement stands in the main sequence, in a function or in a branch. -/
inductive Stmt.OccursIn (p : Program) : Stmt → Prop
  | main {s} : s ∈ p.main → OccursIn p s
  | body {e s} : e ∈ p.functions.entries → s ∈ e.2 → OccursIn p s
  | branch {s b} : OccursIn p s → b ∈ s.branches → OccursIn p b

variable {p : Program} {s b : Stmt} {name : String}

theorem Stmt.IsLine.isSimple_of_mem_branches (h : s.IsLine) (hb : b ∈ s.branches) : b.IsSimple := by
  rcases h.cases with hs | ⟨e, y, rfl, -, hy⟩ | ⟨e, y, n, rfl, -, hy, hn, -⟩
  · cases s with
    | ifThen => exact hs.elim
    | ifElse => exact hs.elim
    | _ => cases hb
  · rw [List.mem_singleton.mp hb]
    exact hy
  · rcases List.mem_cons.mp hb with rfl | hb
    · exact hy
    · rw [List.mem_singleton.mp hb]
      exact hn

theorem Stmt.IsSimple.branches_eq_nil (h : s.IsSimple) : s.branches = [] := by
  cases s with
  | ifThen => exact h.elim
  | ifElse => exact h.elim
  | _ => rfl

theorem Stmt.IsLine.legible_of_mem_exprs (h : s.IsLine) {e : Expr} (he : e ∈ s.exprs) :
    e.Legible := by
  cases s with
  | assign => rw [List.mem_singleton.mp he]; exact h.2
  | move => rw [List.mem_singleton.mp he]; exact h
  | ifThen => rw [List.mem_singleton.mp he]; exact h.1
  | ifElse => rw [List.mem_singleton.mp he]; exact h.1
  | _ => cases he

theorem Program.WellFormed.isLine_of_occursIn (h : p.WellFormed) (hs : s.OccursIn p) : s.IsLine := by
  induction hs with
  | main hs => exact h.main _ hs
  | body he hs => exact h.bodies _ he _ hs
  | branch _ hb ih => exact (ih.isSimple_of_mem_branches hb).isLine

/-! ## Declared names -/

theorem mem_keys_ofStmts_iff {rs : List Stmt} :
    name ∈ (Program.ofStmts rs).functions.keys ↔ ∃ body, .function name body ∈ rs := by
  simp only [Program.ofStmts, Table.mem_keys_ofList_iff, List.mem_map, List.mem_filterMap]
  constructor
  · rintro ⟨⟨n, body⟩, ⟨s, hs, hd⟩, rfl⟩
    cases s with
    | function => cases hd; exact ⟨body, hs⟩
    | _ => cases hd
  · rintro ⟨body, hs⟩
    exact ⟨(name, body), ⟨_, hs, rfl⟩, rfl⟩

/-- A statement text is a part of a line, or a block that is opened outside of any other. -/
theorem mem_cutOutside_cases {ls : List (List Char)} {t : List Char} (ht : t ∈ cutOutside ls) :
    (∃ l ∈ ls, t ∈ parts l) ∨ ∃ before header body after, ls = before ++ header :: after ∧
      BlocksClosed before ∧ opensBlock header = true ∧ body ⊆ after ∧ t = blockText header body := by
  induction ls using blocks_induction with
  | nil => simp [cutOutside] at ht
  | line l ls hl ih =>
      rw [cutOutside, if_neg (by simp [hl]), List.mem_append] at ht
      rcases ht with ht | ht
      · exact .inl ⟨l, List.mem_cons_self, ht⟩
      · rcases ih ht with ⟨m, hm, ht⟩ | ⟨before, header, body, after, rfl, hclosed, h⟩
        · exact .inl ⟨m, List.mem_cons_of_mem _ hm, ht⟩
        · exact .inr ⟨l :: before, header, body, after, rfl, .line hl hclosed, h⟩
  | block h b e ls hopen hb he ih =>
      rw [cutOutside_block hopen hb he, List.mem_cons] at ht
      rcases ht with rfl | ht
      · exact .inr ⟨[], h, b, _, rfl, .nil, hopen, List.subset_append_left _ _, rfl⟩
      · rcases ih ht with ⟨m, hm, ht⟩ | ⟨before, header, body, after, rfl, hclosed, hrest⟩
        · exact .inl ⟨m, by simp [hm], ht⟩
        · exact .inr ⟨h :: (b ++ e :: before), header, body, after, by simp,
            .block hopen hb he hclosed, hrest⟩
  | unclosed h b hopen hb =>
      rw [cutOutside_unclosed hopen hb, List.mem_singleton] at ht
      exact .inr ⟨[], h, b, b, rfl, .nil, hopen, List.Subset.refl b, ht⟩

variable {room : Nat}

theorem declared?_of_mem_parts {l t : List Char} (hl : '\n' ∉ l) (ht : t ∈ parts l)
    (hs : Stmt.read room t = .ok s) : s.declared? = none := by
  obtain ⟨room, rfl⟩ := Nat.exists_eq_add_one.mpr (room_pos_of_read hs)
  have hline := newline_notMem_of_mem_parts hl ht
  have hblock : block? (withoutTerminator t) = none :=
    block?_of_notMem fun hm => hline ((withoutTerminator_sublist t).subset hm)
  rw [Stmt.read_of_not_block? hblock] at hs
  exact declared?_of_isLine ((isToken_of_mem_parts hl ht).readLine_isLine hs)

theorem opensBlock_of_headerName? {header n : List Char} (h : headerName? header = some n) :
    opensBlock header = true := by
  obtain ⟨r, hr, -⟩ := Option.bind_eq_some_iff.mp h
  unfold afterWord? at hr
  split at hr
  · rename_i c t hc
    split at hr
    · rename_i hblank
      simp only [opensBlock, hc, hblank]
    · cases hr
  · cases hr

/-- A function was read for every well-formed header outside of the blocks before it, and for no
other line. -/
theorem Reads.declares_iff {source : List Char} {rs : List Stmt} (h : Reads room (codeOf source) rs) :
    (∃ body, .function name body ∈ rs) ↔
      ∃ before header after, codeOf source = before ++ header :: after ∧ BlocksClosed before ∧
        headerName? header = some name.toList := by
  have hcode : ∀ l ∈ codeOf source, IsCode l := fun l hl => isCode_of_mem_codeOf hl
  constructor
  · rintro ⟨body, hmem⟩
    obtain ⟨t, ht, hread⟩ := exists_of_mem_mapM h hmem
    rcases mem_cutOutside_cases ht with ⟨l, hl, hpart⟩ |
      ⟨before, header, ls, after, hlines, hclosed, hopen, hsub, rfl⟩
    · have hnone := declared?_of_mem_parts (hcode l hl).inline hpart hread
      cases hnone
    · obtain ⟨room, rfl⟩ := Nat.exists_eq_add_one.mpr (room_pos_of_read hread)
      refine ⟨before, header, after, hlines, hclosed, ?_⟩
      rw [hlines] at hcode
      obtain ⟨hheader, hafter⟩ := List.forall_mem_cons.mp (List.forall_mem_append.mp hcode).2
      have hls : ∀ l ∈ ls, IsCode l := fun l hl => hafter l (hsub hl)
      cases hname : headerName? header with
      | none =>
          obtain ⟨s, hs, hnone⟩ := exists_read_block hheader hls hopen hname
          rw [hs] at hread
          cases hread
          cases hnone
      | some n =>
          rw [read_block hheader hls hname] at hread
          cases hrs : (cutOutside ls).mapM (Stmt.read room) with
          | error e => rw [hrs] at hread; cases hread
          | ok rs =>
              rw [hrs] at hread
              cases hread
              rw [String.toList_ofList]
  · rintro ⟨before, header, after, hlines, hclosed, hname⟩
    rw [hlines] at hcode
    obtain ⟨hheader, hafter⟩ := List.forall_mem_cons.mp (List.forall_mem_append.mp hcode).2
    have htaken : ∀ l ∈ untilClose after, IsCode l := fun l hl =>
      hafter l ((List.takeWhile_sublist _).subset hl)
    unfold Reads at h
    rw [hlines, hclosed.cutOutside_append, cutOutside, if_pos (opensBlock_of_headerName? hname),
      cutInside_eq, List.reverse_nil, List.nil_append] at h
    obtain ⟨as, bs, -, hbs, rfl⟩ := mapM_append_eq_ok_iff.mp h
    obtain ⟨s, rest, hs, -, rfl⟩ := mapM_cons_eq_ok_iff.mp hbs
    obtain ⟨room, rfl⟩ := Nat.exists_eq_add_one.mpr (room_pos_of_read hs)
    rw [read_block hheader htaken hname] at hs
    cases hbody : (cutOutside (untilClose after)).mapM (Stmt.read room) with
    | error e => rw [hbody] at hs; cases hs
    | ok body =>
        rw [hbody] at hs
        cases hs
        refine ⟨body.map Stmt.inFunction, List.mem_append_right _ ?_⟩
        rw [String.ofList_toList]
        exact List.mem_cons_self

/-- The shape of every program that was read: no declaration occurs in it, a branch has no branches
of its own, all names and numbers are legible, and no first branch of two is a call of a function
named ELSE. The names in its table are those of the well-formed headers outside of other blocks. -/
theorem parse_shape {source : String} (h : Program.parse room source = .ok p) :
    (∀ s : Stmt, s.OccursIn p → s.declared? = none ∧ ∀ b ∈ s.branches, b.branches = []) ∧
    (∀ name value, (Stmt.assign name value).OccursIn p → isName name.toList = true) ∧
    (∀ (s : Stmt) name, s.OccursIn p → .variable name ∈ s.exprs → isName name.toList = true) ∧
    (∀ (s : Stmt) n, s.OccursIn p → .literal n ∈ s.exprs → (Nat.toDigits 10 n.natAbs).length ≤ 4300) ∧
    (∀ name, (Stmt.call name).OccursIn p → isLooseName name.toList = true) ∧
    (∀ test name no, (Stmt.ifElse test (.call name) no).OccursIn p →
      isKeyword "ELSE".toList name.toList = false) ∧
    (∀ name ∈ p.functions.keys, isLooseName name.toList = true) ∧
    ∀ name, name ∈ p.functions.keys ↔
      ∃ before header after, codeOf source.toList = before ++ header :: after ∧
        BlocksClosed before ∧ headerName? header = some name.toList := by
  have hwf := Program.parse_wellFormed h
  obtain ⟨rs, hrs, rfl⟩ := parse_eq_ok_iff.mp h
  refine ⟨fun s hs => ?_, fun name value hs => (hwf.isLine_of_occursIn hs).1, fun s name hs he => ?_,
    fun s n hs he => ?_, fun name hs => hwf.isLine_of_occursIn hs, fun test name no hs => ?_,
    fun name hname => ?_, fun name => mem_keys_ofStmts_iff.trans hrs.declares_iff⟩
  · have hline := hwf.isLine_of_occursIn hs
    exact ⟨declared?_of_isLine hline, fun b hb => (hline.isSimple_of_mem_branches hb).branches_eq_nil⟩
  · exact (hwf.isLine_of_occursIn hs).legible_of_mem_exprs he
  · have hlegible := (hwf.isLine_of_occursIn hs).legible_of_mem_exprs he
    exact of_decide_eq_true hlegible
  · exact (hwf.isLine_of_occursIn hs).2.2.2
  · obtain ⟨e, he, rfl⟩ := List.mem_map.mp hname
    exact hwf.names e he

/-- A header inside of a block declares nothing, a block without a name can be an assignment, and a
function may be named ELSE where nothing follows the call. -/
theorem parse_shape_nested :
    let source := "FUNCTION F:\nFUNCTION Inner:\nATTACK;\nEND\nIF $A THEN CALL ELSE;\nFUNCTION =\nEND"
    ∃ p, Program.parse 3 source = .ok p ∧
      p.main = [.ifThen (.variable "A") (.call "ELSE"), .assign "FUNCTION" (.literal 0)] ∧
      "F" ∈ p.functions.keys ∧
      ¬ ∃ before header after, codeOf source.toList = before ++ header :: after ∧
        BlocksClosed before ∧ headerName? header = some "Inner".toList := by
  intro source
  have hp : Program.parse 3 source =
      .ok { main := [.ifThen (.variable "A") (.call "ELSE"), .assign "FUNCTION" (.literal 0)],
            functions := .ofList [("F", [.noop])] } :=
    parse_eq_ok_of_toOption (by decide +kernel)
  have hnames := (parse_shape hp).2.2.2.2.2.2.2
  refine ⟨_, hp, rfl, by decide, ?_⟩
  rw [← hnames "Inner"]
  decide

end TankArena.Script
