import TankArena.Proofs.Table
import TankArena.Proofs.Text.Decimal
import TankArena.Proofs.Text.Search
import TankArena.Script.Program

/-!
# What reading a script can give

A statement that was read has legible parts: numbers that can be written, variables and functions
with proper names. Branches of a conditional hold no other statement, and a branch before ELSE is
never a call of a function named ELSE, since the reader takes that word for the other branch.
-/

namespace TankArena.Script

open Text

/-! ## Shapes -/

def Expr.Legible : Expr → Prop
  | .literal value => isWritable value = true
  | .variable name => isName name.toList = true

/-- A statement that holds no other and has legible parts. -/
def Stmt.IsSimple : Stmt → Prop
  | .assign name value => isName name.toList = true ∧ value.Legible
  | .move amount _ => amount.Legible
  | .call name => isLooseName name.toList = true
  | .turn _ | .scan | .attack | .noop => True
  | .ifThen .. | .ifElse .. | .function .. => False

def Stmt.callsElse : Stmt → Bool
  | .call name => isKeyword "ELSE".toList name.toList
  | _ => false

/-- A statement on one line: simple, or a conditional with simple branches. -/
def Stmt.IsLine : Stmt → Prop
  | .ifThen test yes => test.Legible ∧ yes.IsSimple
  | .ifElse test yes no => test.Legible ∧ yes.IsSimple ∧ no.IsSimple ∧ yes.callsElse = false
  | s => s.IsSimple

def Stmt.WellFormed : Stmt → Prop
  | .function name body => isLooseName name.toList = true ∧ ∀ s ∈ body, s.IsLine
  | s => s.IsLine

structure Program.WellFormed (p : Program) : Prop where
  main : ∀ s ∈ p.main, s.IsLine
  names : ∀ e ∈ p.functions.entries, isLooseName e.1.toList = true
  bodies : ∀ e ∈ p.functions.entries, ∀ s ∈ e.2, s.IsLine

theorem Stmt.IsSimple.isLine {s : Stmt} (h : s.IsSimple) : s.IsLine := by
  cases s with
  | ifThen => exact h.elim
  | ifElse => exact h.elim
  | _ => exact h

theorem Stmt.IsLine.cases {s : Stmt} (h : s.IsLine) : s.IsSimple ∨
    (∃ e y, s = .ifThen e y ∧ e.Legible ∧ y.IsSimple) ∨
    ∃ e y n, s = .ifElse e y n ∧ e.Legible ∧ y.IsSimple ∧ n.IsSimple ∧ y.callsElse = false := by
  cases s with
  | ifThen e y => exact .inr (.inl ⟨e, y, rfl, h⟩)
  | ifElse e y n => exact .inr (.inr ⟨e, y, n, rfl, h⟩)
  | _ => exact .inl h

theorem Stmt.IsLine.wellFormed {s : Stmt} (h : s.IsLine) : s.WellFormed := by
  cases s with
  | function => exact False.elim h
  | _ => exact h

/-! ## Statements that hold no other -/

theorem Expr.legible_ofChars (t : List Char) : (Expr.ofChars t).Legible := by
  unfold Expr.ofChars
  split
  · rename_i name h
    unfold variableName? at h
    split at h
    · split at h
      · rename_i hname
        cases h
        simpa [Expr.Legible] using hname
      · cases h
    · cases h
  · cases hn : integer? (trim t) with
    | none => exact (by decide : isWritable 0 = true)
    | some n => exact isWritable_of_integer? hn

theorem isName_of_assignment? {t name value : List Char} (h : assignment? t = some (name, value)) :
    isName name = true := by
  unfold assignment? at h
  split at h
  · dsimp only at h
    split at h
    · rename_i hc
      simp only [Bool.and_eq_true] at hc
      cases h
      exact hc.1.1
    · cases h
  · cases h

theorem readPlain_isSimple {t : List Char} {s : Stmt} (h : readPlain t = .ok s) : s.IsSimple := by
  unfold readPlain at h
  split at h
  · rename_i name value ha
    cases h
    exact ⟨by simpa using isName_of_assignment? ha, Expr.legible_ofChars value⟩
  · split at h
    · rename_i amount word _
      cases hw : Course.read word with
      | error e => rw [hw] at h; cases h
      | ok course => rw [hw] at h; cases h; exact Expr.legible_ofChars amount
    · split at h
      · rename_i word _
        cases hw : Side.read word with
        | error e => rw [hw] at h; cases h
        | ok side => rw [hw] at h; cases h; trivial
      · split at h
        · cases h; trivial
        · split at h
          · cases h; trivial
          · split at h
            · rename_i name hc
              cases h
              simpa [Stmt.IsSimple] using (Option.filter_eq_some_iff.mp hc).2
            · cases h; trivial

/-- The only statement that reads as a call is one. -/
theorem call?_of_readPlain {t : List Char} {name : String} (h : readPlain t = .ok (.call name)) :
    call? t = some name.toList := by
  unfold readPlain at h
  split at h
  · cases h
  · split at h
    · rename_i word _
      cases hw : Course.read word <;> rw [hw] at h <;> cases h
    · split at h
      · rename_i word _
        cases hw : Side.read word <;> rw [hw] at h <;> cases h
      · split at h
        · cases h
        · split at h
          · cases h
          · split at h
            · rename_i name hc
              cases h
              simpa using hc
            · cases h

/-! ## Conditionals -/

/-- The second branch of a conditional, of which the test and the first branch are known. -/
def elseBranch? (test yes : List Char) :
    List Char → Option (List Char × List Char × Option (List Char)) :=
  blanks fun t => (afterKeyword? "ELSE".toList t).bind <| blanks <| longest fun no =>
    atEnd (test, yes, some no)

/-- The branches of a conditional, of which the test is known. -/
def branches? (test : List Char) : List Char → Option (List Char × List Char × Option (List Char)) :=
  shortest fun yes t => (elseBranch? test yes t).or (atEnd (test, yes, none) t)

theorem conditional?_eq (t : List Char) : conditional? t =
    (afterKeyword? "IF".toList t).bind (blanks <| shortest fun test => blanks fun t =>
      (afterKeyword? "THEN".toList t).bind (blanks (branches? test))) := rfl

/-- A conditional was found: IF, the test, THEN and the branches, with blanks between them. -/
theorem conditional?_eq_some {t : List Char} {a : List Char × List Char × Option (List Char)}
    (h : conditional? t = some a) :
    ∃ x b test b' y b'' v, t = x ++ (b ++ (test ++ (b' ++ (y ++ (b'' ++ v))))) ∧
      (b ≠ [] ∧ ∀ c ∈ b, isBlank c = true) ∧ isKeyword "THEN".toList y = true ∧
      (b'' ≠ [] ∧ ∀ c ∈ b'', isBlank c = true) ∧ branches? test v = some a := by
  rw [conditional?_eq] at h
  obtain ⟨t₁, hif, hrest⟩ := Option.bind_eq_some_iff.mp h
  obtain ⟨x, -, ht⟩ := afterKeyword?_eq_some hif
  obtain ⟨b, t₂, ht₁, hb, hblank, hrest⟩ := blanks_eq_some hrest
  obtain ⟨test, t₃, ht₂, hrest, -⟩ := shortest_eq_some hrest
  obtain ⟨b', t₄, ht₃, -, -, hrest⟩ := blanks_eq_some hrest
  obtain ⟨t₅, hthen, hrest⟩ := Option.bind_eq_some_iff.mp hrest
  obtain ⟨y, hy, ht₄⟩ := afterKeyword?_eq_some hthen
  obtain ⟨b'', v, ht₅, hb'', hblank'', hrest⟩ := blanks_eq_some hrest
  refine ⟨x, b, test, b', y, b'', v, ?_, ⟨hb, hblank⟩, hy, ⟨hb'', hblank''⟩, hrest⟩
  simp only [ht, ht₁, ht₂, ht₃, ht₄, ht₅]

/-- The branches of a conditional are at the end of the text. -/
theorem branches?_of_conditional? {t test yes : List Char} {no : Option (List Char)}
    (h : conditional? t = some (test, yes, no)) :
    ∃ test' u v, t = u ++ v ∧ branches? test' v = some (test, yes, no) := by
  obtain ⟨x, b, test', b', y, b'', v, rfl, -, -, -, hv⟩ := conditional?_eq_some h
  exact ⟨test', x ++ (b ++ (test' ++ (b' ++ (y ++ b'')))), v, by simp only [List.append_assoc], hv⟩

theorem elseBranch?_eq_some {test yes t : List Char} {a : List Char × List Char × Option (List Char)}
    (h : elseBranch? test yes t = some a) :
    a.2.1 = yes ∧ ∃ b r, t = b ++ r ∧ b ≠ [] ∧ (∀ c ∈ b, isBlank c = true) ∧ r ≠ [] := by
  obtain ⟨b, r, rfl, hne, hb, h⟩ := blanks_eq_some h
  obtain ⟨r', hr, h⟩ := Option.bind_eq_some_iff.mp h
  obtain ⟨_, r'', rfl, -, -, h⟩ := blanks_eq_some h
  obtain ⟨no, end', rfl, -, h⟩ := longest_eq_some h
  cases end' with
  | cons => cases h
  | nil =>
      cases h
      refine ⟨rfl, b, r, rfl, hne, hb, ?_⟩
      rintro rfl
      cases hr

theorem elseBranch?_isSome {test yes b w b' r : List Char} (hb : b ≠ [])
    (hblank : ∀ c ∈ b, isBlank c = true) (hw : isKeyword "ELSE".toList w = true) (hb' : b' ≠ [])
    (hblank' : ∀ c ∈ b', isBlank c = true) (hr : r ≠ []) (hline : '\n' ∉ r) :
    (elseBranch? test yes (b ++ (w ++ (b' ++ r)))).isSome = true := by
  refine blanks_isSome hb hblank ?_
  rw [afterKeyword?_append _ hw, Option.bind_some]
  refine blanks_isSome hb' hblank' ?_
  rw [longest_atEnd hr hline]
  rfl

/-- A call is a keyword, blanks and a name, with blanks around. -/
theorem exists_append_of_call? {t name : List Char} (h : call? (trim t) = some name) :
    ∃ x b post, t = x ++ (b ++ (name ++ post)) ∧ x ≠ [] ∧ b ≠ [] ∧
      (∀ c ∈ b, isBlank c = true) ∧ ∀ c ∈ post, isBlank c = true := by
  obtain ⟨pre, post, ht, -, hpost⟩ := exists_trim_eq t
  have hcall := (Option.filter_eq_some_iff.mp h).1
  unfold afterWord? at hcall
  split at hcall
  · rename_i c u hu
    obtain ⟨x, hx, htrim⟩ := afterKeyword?_eq_some hu
    split at hcall
    · rename_i hc
      obtain ⟨b, hb, hblank⟩ := exists_trimStart_eq u
      rw [Option.some.inj hcall] at hb
      refine ⟨pre ++ x, c :: b, post, ?_, ?_, by simp, List.forall_mem_cons.mpr ⟨hc, hblank⟩, hpost⟩
      · rw [ht, htrim, hb]
        simp
      · rintro hnil
        rw [(List.append_eq_nil_iff.mp hnil).2] at hx
        cases hx
    · cases hcall
  · cases hcall

/-- The first branch was ended at the first ELSE that can end it, so it does not go on past one. -/
theorem branches?_callsElse {test test' t yes no : List Char} {name : String} (hline : '\n' ∉ t)
    (h : branches? test' t = some (test, yes, some no)) (hcall : call? (trim yes) = some name.toList) :
    isKeyword "ELSE".toList name.toList = false := by
  rw [Bool.eq_false_iff]
  intro helse
  obtain ⟨p, r, rfl, hk, hmin⟩ := shortest_eq_some h
  have hk : elseBranch? test' p r = some (test, yes, some no) := by
    rcases Option.or_eq_some_iff.mp hk with hk | ⟨-, hk⟩
    · exact hk
    · cases r <;> cases hk
  obtain ⟨rfl, b₂, rest, rfl, hb₂, hblank₂, hrest⟩ := elseBranch?_eq_some hk
  obtain ⟨x, b, post, hyes, hx, hb, hblank, hpost⟩ := exists_append_of_call? hcall
  -- The name is an ELSE as well, and the search would have stopped before it.
  have hsome : (elseBranch? test' x (b ++ (name.toList ++ (post ++ b₂ ++ rest)))).isSome = true := by
    refine elseBranch?_isSome hb hblank helse (by simp [hb₂]) ?_ hrest fun hm => hline (by simp [hm])
    exact List.forall_mem_append.mpr ⟨hpost, hblank₂⟩
  have hnone := hmin _ _ hyes hx (by simp [hb])
  simp only [List.append_assoc] at hnone hsome
  rw [(Option.or_eq_none_iff.mp hnone).1] at hsome
  cases hsome

theorem branches?_yes {test test' t yes : List Char} {no : Option (List Char)}
    (h : branches? test' t = some (test, yes, no)) : ∃ r, t = yes ++ r := by
  obtain ⟨p, r, rfl, hk, -⟩ := shortest_eq_some h
  rcases Option.or_eq_some_iff.mp hk with hk | ⟨-, hk⟩
  · obtain ⟨rfl, -⟩ := elseBranch?_eq_some hk
    exact ⟨r, rfl⟩
  · cases r with
    | nil => cases hk; exact ⟨[], rfl⟩
    | cons => cases hk

theorem withoutTerminator_of_notMem {t : List Char} (h : ';' ∉ t) : withoutTerminator t = trim t := by
  unfold withoutTerminator
  dsimp only
  split
  · rename_i hlast
    exact absurd ((trim_sublist t).subset (List.mem_of_getLast? hlast)) h
  · rfl

theorem readBranch_isSimple {t : List Char} {s : Stmt} (h : readBranch t = .ok s) : s.IsSimple :=
  readPlain_isSimple h

theorem readLine_isLine {t : List Char} {s : Stmt} (hline : '\n' ∉ t) (hsemi : ';' ∉ t)
    (h : readLine t = .ok s) : s.IsLine := by
  unfold readLine at h
  split at h
  · rename_i test yes no hc
    obtain ⟨test', u, v, rfl, hv⟩ := branches?_of_conditional? hc
    obtain ⟨r, rfl⟩ := branches?_yes hv
    simp only [List.mem_append, not_or] at hline hsemi
    cases hy : readBranch yes with
    | error e => rw [hy] at h; cases h
    | ok y =>
        cases hn : readBranch no with
        | error e => rw [hy, hn] at h; cases h
        | ok n =>
            rw [hy, hn] at h
            cases h
            refine ⟨Expr.legible_ofChars test, readBranch_isSimple hy, readBranch_isSimple hn, ?_⟩
            cases y with
            | call name =>
                rw [readBranch, withoutTerminator_of_notMem hsemi.2.1] at hy
                exact branches?_callsElse (by simp [hline]) hv (call?_of_readPlain hy)
            | _ => rfl
  · rename_i test yes hc
    cases hy : readBranch yes with
    | error e => rw [hy] at h; cases h
    | ok y =>
        rw [hy] at h
        cases h
        exact ⟨Expr.legible_ofChars test, readBranch_isSimple hy⟩
  · exact (readPlain_isSimple h).isLine

/-! ## Statement texts -/

theorem withoutTerminator_terminated {q : List Char} (h : IsTidy q) :
    withoutTerminator (q ++ [';']) = q := by
  have htidy : IsTidy (q ++ [';']) := h.append (u := [';']) ⟨by simp, by simp [StartsSolid, isBlank],
    by simp [StartsSolid, isBlank]⟩ []
  simp only [withoutTerminator, htidy.trim_eq, List.getLast?_append, List.getLast?_singleton,
    Option.some_or, ↓reduceIte, List.dropLast_concat, trimEnd_eq_self h.back]

theorem withoutTerminator_cons {c : Char} {t : List Char} (hc : isBlank c = false) (hne : c ≠ ';') :
    ∃ r, withoutTerminator (c :: t) = c :: r := by
  have htrim : trim (c :: t) = c :: trimEnd t := by
    rw [trim, trimStart_eq_self (startsSolid_cons.mpr hc), trimEnd_cons hc]
  simp only [withoutTerminator, htrim]
  split
  · rename_i hlast
    cases ht : trimEnd t with
    | nil =>
        rw [ht] at hlast
        exact absurd (Option.some.inj hlast) hne
    | cons d u => exact ⟨_, trimEnd_cons hc⟩
  · exact ⟨_, rfl⟩

/-- A statement text: what stands before a semicolon of a line, or a block. -/
inductive IsToken : List Char → Prop
  | line {q} : IsTidy q → ';' ∉ q → '\n' ∉ q → IsToken (q ++ [';'])
  | block {header body} : opensBlock header = true → IsToken (blockText header body)

theorem isToken_of_mem_parts {l t : List Char} (hl : '\n' ∉ l) (ht : t ∈ parts l) : IsToken t := by
  obtain ⟨q, hq, rfl⟩ := List.mem_map.mp ht
  obtain ⟨hq, hne⟩ := List.mem_filter.mp hq
  obtain ⟨u, hu, rfl⟩ := List.mem_map.mp hq
  have hmem := mem_splitOn hu
  have hsub := (trim_sublist u).subset
  exact .line (isTidy_trim (by simpa using hne)) (fun hm => (hmem _ (hsub hm)).1 rfl)
    fun hm => hl (hmem _ (hsub hm)).2

mutual
theorem isToken_of_mem_cutOutside {t : List Char} : (ls : List (List Char)) →
    (∀ l ∈ ls, '\n' ∉ l) → t ∈ cutOutside ls → IsToken t
  | [], _, ht => by simp [cutOutside] at ht
  | l :: ls, h, ht => by
      have hls : ∀ m ∈ ls, '\n' ∉ m := fun m hm => h m (List.mem_cons_of_mem _ hm)
      rw [cutOutside] at ht
      split at ht
      · rename_i hopen
        exact isToken_of_mem_cutInside l [] hopen ls hls ht
      · rcases List.mem_append.mp ht with ht | ht
        · exact isToken_of_mem_parts (h l List.mem_cons_self) ht
        · exact isToken_of_mem_cutOutside ls hls ht

theorem isToken_of_mem_cutInside {t : List Char} (header : List Char) (body : List (List Char))
    (hopen : opensBlock header = true) : (ls : List (List Char)) →
    (∀ l ∈ ls, '\n' ∉ l) → t ∈ cutInside header body ls → IsToken t
  | [], _, ht => by
      rw [cutInside, List.mem_singleton] at ht
      exact ht ▸ .block hopen
  | l :: ls, h, ht => by
      have hls : ∀ m ∈ ls, '\n' ∉ m := fun m hm => h m (List.mem_cons_of_mem _ hm)
      rw [cutInside] at ht
      split at ht
      · rcases List.mem_cons.mp ht with rfl | ht
        · exact .block hopen
        · exact isToken_of_mem_cutOutside ls hls ht
      · exact isToken_of_mem_cutInside header (l :: body) hopen ls hls ht
end

theorem isToken_of_mem_tokensOf {ls : List (List Char)} {t : List Char} (h : ∀ l ∈ ls, '\n' ∉ l)
    (ht : t ∈ tokensOf ls) : IsToken t :=
  isToken_of_mem_cutOutside _ (newline_notMem_of_mem_codeLines h) ht

/-- A block starts with the letter F. -/
theorem exists_cons_of_opensBlock {header : List Char} (h : opensBlock header = true) :
    ∃ c t, header = c :: t ∧ capital c = 'F' := by
  unfold opensBlock at h
  split at h
  · rename_i hk
    obtain ⟨x, hx, rfl⟩ := afterKeyword?_eq_some hk
    cases x with
    | nil => cases hx
    | cons c x => exact ⟨c, _, rfl, (List.cons.inj (isKeyword_iff.mp hx)).1⟩
  · cases h

theorem blockText_cons (c : Char) (t : List Char) (body : List (List Char)) :
    ∃ r, blockText (c :: t) body = c :: r := by
  cases body <;> exact ⟨_, rfl⟩

theorem isBlank_of_capital {c d : Char} (h : capital c = d) (hd : isBlank d = false) :
    isBlank c = false := by
  rw [Bool.eq_false_iff]
  intro hc
  rw [capital_of_isBlank hc] at h
  rw [h, hd] at hc
  cases hc

/-- A block that is not read as one is no conditional either. -/
theorem conditional?_block {header : List Char} (h : opensBlock header = true)
    (body : List (List Char)) : conditional? (withoutTerminator (blockText header body)) = none := by
  obtain ⟨c, t, rfl, hc⟩ := exists_cons_of_opensBlock h
  obtain ⟨r, hr⟩ := blockText_cons c t body
  have hsemi : c ≠ ';' := by rintro rfl; exact absurd hc (by decide)
  obtain ⟨u, hu⟩ := withoutTerminator_cons (t := r) (isBlank_of_capital hc (by decide)) hsemi
  rw [hr, hu, conditional?_eq]
  simp [afterKeyword?, hc]

theorem IsToken.readLine_isLine {t : List Char} {s : Stmt} (ht : IsToken t)
    (h : readLine (withoutTerminator t) = .ok s) : s.IsLine := by
  cases ht with
  | line htidy hsemi hline =>
      rw [withoutTerminator_terminated htidy] at h
      exact Script.readLine_isLine hline hsemi h
  | @block _ body hopen =>
      rw [readLine, conditional?_block hopen body] at h
      exact (readPlain_isSimple h).isLine

/-! ## Statements and programs -/

theorem mapM_cons_eq_ok_iff {α β ε : Type} {f : α → Except ε β} {a : α} {l : List α} {r : List β} :
    (a :: l).mapM f = .ok r ↔ ∃ b bs, f a = .ok b ∧ l.mapM f = .ok bs ∧ r = b :: bs := by
  rw [List.mapM_cons]
  cases f a with
  | error e => simp [bind, Except.bind]
  | ok b =>
      cases l.mapM f with
      | error e => simp [bind, Except.bind]
      | ok bs => simp [bind, Except.bind, pure, Except.pure, eq_comm]

theorem exists_of_mem_mapM {α β ε : Type} {f : α → Except ε β} {l : List α} {r : List β} {b : β}
    (h : l.mapM f = .ok r) (hb : b ∈ r) : ∃ a ∈ l, f a = .ok b := by
  induction l generalizing r with
  | nil => cases h; cases hb
  | cons a l ih =>
      obtain ⟨b', bs, ha, hl, rfl⟩ := mapM_cons_eq_ok_iff.mp h
      rcases List.mem_cons.mp hb with rfl | hb
      · exact ⟨a, List.mem_cons_self, ha⟩
      · obtain ⟨a', ha', hf⟩ := ih hl hb
        exact ⟨a', List.mem_cons_of_mem _ ha', hf⟩

variable {room : Nat}

theorem Stmt.read_of_block? {token name : List Char} {inner : List (List Char)}
    (h : block? (withoutTerminator token) = some (name, inner)) :
    Stmt.read (room + 1) token = ((tokensOf inner).mapM (Stmt.read room)).map fun body =>
      .function (String.ofList name) (body.map Stmt.inFunction) := by
  rw [Stmt.read, h]
  dsimp only
  cases (tokensOf inner).mapM (Stmt.read room) <;> rfl

theorem Stmt.read_of_not_block? {token : List Char} (h : block? (withoutTerminator token) = none) :
    Stmt.read (room + 1) token = readLine (withoutTerminator token) := by
  rw [Stmt.read, h]

/-- A block is a header line with a name, the inner lines and a closing line. -/
theorem lines_eq_of_block? {t name : List Char} {inner : List (List Char)}
    (h : block? t = some (name, inner)) : ∃ header last, lines t = header :: (inner ++ [last]) ∧
      headerName? (trim header) = some name ∧ closesBlock (trim last) = true := by
  rw [block?] at h
  split at h
  · next header second rest hl =>
    obtain ⟨name', hname, h⟩ := Option.bind_eq_some_iff.1 h
    split at h
    · next hlast =>
      cases h
      exact ⟨header, _, by rw [hl, List.dropLast_concat_getLast], hname, hlast⟩
    · cases h
  · cases h

theorem block?_eq_some {t name : List Char} {inner : List (List Char)}
    (h : block? t = some (name, inner)) :
    isLooseName name = true ∧ ∀ l ∈ inner, l ∈ lines t := by
  obtain ⟨header, last, hl, hname, -⟩ := lines_eq_of_block? h
  refine ⟨?_, fun l hm => by simp [hl, hm]⟩
  obtain ⟨r, -, hname⟩ := Option.bind_eq_some_iff.mp hname
  dsimp only at hname
  split at hname
  · split at hname
    · rename_i hc
      cases hname
      exact (Bool.and_eq_true_iff.mp hc).1
    · cases hname
  · cases hname

theorem Stmt.WellFormed.inFunction {s : Stmt} (h : s.WellFormed) : s.inFunction.IsLine := by
  cases s with
  | function => trivial
  | _ => exact h

/-- By induction on the room: a block is read through the texts inside it. -/
theorem Stmt.read_wellFormed {token : List Char} {s : Stmt} (ht : IsToken token)
    (h : Stmt.read room token = .ok s) : s.WellFormed := by
  induction room generalizing token s with
  | zero => cases h
  | succ room ih =>
      cases hb : block? (withoutTerminator token) with
      | none =>
          rw [Stmt.read_of_not_block? hb] at h
          exact (ht.readLine_isLine h).wellFormed
      | some b =>
          obtain ⟨name, inner⟩ := b
          obtain ⟨hname, hlines⟩ := block?_eq_some hb
          rw [Stmt.read_of_block? hb] at h
          cases hm : (tokensOf inner).mapM (Stmt.read room) with
          | error e => rw [hm] at h; cases h
          | ok body =>
              rw [hm] at h
              cases h
              refine ⟨by simpa using hname, fun u hu => ?_⟩
              obtain ⟨v, hv, rfl⟩ := List.mem_map.mp hu
              obtain ⟨t, hmem, hread⟩ := exists_of_mem_mapM hm hv
              have hline := fun l hl => newline_notMem_of_mem_lines (hlines l hl)
              exact (ih (isToken_of_mem_tokensOf hline hmem) hread).inFunction

theorem Stmt.WellFormed.isLine {s : Stmt} (h : s.WellFormed) (hs : s.declared?.isNone = true) :
    s.IsLine := by
  cases s with
  | function => cases hs
  | _ => exact h

theorem Program.wellFormed_ofStmts {stmts : List Stmt} (h : ∀ s ∈ stmts, s.WellFormed) :
    (Program.ofStmts stmts).WellFormed := by
  have hdecl : ∀ e ∈ (Program.ofStmts stmts).functions.entries,
      (Stmt.function e.1 e.2).WellFormed := by
    intro e he
    obtain ⟨s, hs, hd⟩ := List.mem_filterMap.mp (Table.mem_entries_ofList he)
    cases s with
    | function name body => cases hd; exact h _ hs
    | _ => cases hd
  refine ⟨fun s hs => ?_, fun e he => (hdecl e he).1, fun e he => (hdecl e he).2⟩
  obtain ⟨hs, hd⟩ := List.mem_filter.mp hs
  exact (h s hs).isLine hd

theorem Program.parse_wellFormed {source : String} {p : Program}
    (h : Program.parse room source = .ok p) : p.WellFormed := by
  unfold Program.parse Program.ofChars at h
  cases hm : (tokensOf (lines source.toList)).mapM (Stmt.read room) with
  | error e => rw [hm] at h; cases h
  | ok stmts =>
      rw [hm] at h
      cases h
      refine Program.wellFormed_ofStmts fun s hs => ?_
      obtain ⟨t, hmem, hread⟩ := exists_of_mem_mapM hm hs
      refine Stmt.read_wellFormed (isToken_of_mem_tokensOf (fun l hl => ?_) hmem) hread
      exact newline_notMem_of_mem_lines hl

theorem parse_eq_ok_of_toOption {source : String} {p : Program}
    (h : (Program.parse room source).toOption = some p) : Program.parse room source = .ok p := by
  cases hp : Program.parse room source with
  | error e => rw [hp] at h; cases h
  | ok q => rw [hp] at h; cases h; rfl

theorem exists_parse_eq_error {source : String} (h : (Program.parse room source).isOk = false) :
    ∃ e, Program.parse room source = .error e := by
  cases hp : Program.parse room source with
  | error e => exact ⟨e, rfl⟩
  | ok p => rw [hp] at h; cases h

end TankArena.Script
