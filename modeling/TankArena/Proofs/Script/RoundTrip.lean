import TankArena.Proofs.Script.Printing

/-!
# Reading back a written program

A program that was read can be written and read again. The result is the program itself unless it
holds a statement that does nothing, of which nothing is written, or an assignment whose line is
taken for the start or the end of a function.
-/

namespace TankArena.Script

open Text

/-! ## Cutting blocks -/

theorem cutInside_closed {header e : List Char} {u v : List (List Char)}
    (hu : ∀ l ∈ u, closesBlock l = false) (he : closesBlock e = true) (body : List (List Char)) :
    cutInside header body (u ++ e :: v) = blockText header (body.reverse ++ u) :: cutOutside v := by
  induction u generalizing body with
  | nil => rw [List.nil_append, cutInside, if_pos he, List.append_nil]
  | cons l u ih =>
      rw [List.cons_append, cutInside, if_neg (by simp [hu l List.mem_cons_self]),
        ih fun m hm => hu m (List.mem_cons_of_mem _ hm)]
      simp

theorem cutInside_open {header : List Char} {u : List (List Char)}
    (hu : ∀ l ∈ u, closesBlock l = false) (body : List (List Char)) :
    cutInside header body u = [blockText header (body.reverse ++ u)] := by
  induction u generalizing body with
  | nil => rw [cutInside, List.append_nil]
  | cons l u ih =>
      rw [cutInside, if_neg (by simp [hu l List.mem_cons_self]),
        ih fun m hm => hu m (List.mem_cons_of_mem _ hm)]
      simp

/-- The code lines are read as these statements. -/
def Reads (room : Nat) (ls : List (List Char)) (rs : List Stmt) : Prop :=
  (cutOutside ls).mapM (Stmt.read room) = .ok rs

variable {room : Nat} {ls : List (List Char)} {rs : List Stmt}

theorem Reads.nil : Reads room [] [] := by
  rw [Reads, cutOutside]
  rfl

theorem mapM_cons_ok {t : List Char} {ts : List (List Char)} {r : Stmt}
    (ht : Stmt.read room t = .ok r) (hts : ts.mapM (Stmt.read room) = .ok rs) :
    (t :: ts).mapM (Stmt.read room) = .ok (r :: rs) :=
  mapM_cons_eq_ok_iff.mpr ⟨r, rs, ht, hts, rfl⟩

theorem Reads.cons_noop (h : Reads room ls rs) : Reads room (Stmt.noop.line :: ls) rs := by
  rw [Reads, cutOutside, if_neg (by decide), parts_noop]
  exact h

theorem Reads.cons_line {s : Stmt} (hs : s.IsLine) (hne : s ≠ .noop)
    (hopen : s.assigns "FUNCTION" = false) :
    ∃ r, (∀ {ls rs}, Reads (room + 1) ls rs → Reads (room + 1) (s.line :: ls) (r :: rs)) ∧
      (r = s ↔ s.hasNoop = false) ∧ r.declared? = none := by
  obtain ⟨r, hr, heq, hdecl⟩ := hs.read_part hne
  refine ⟨r, fun h => ?_, heq, hdecl⟩
  rw [Reads, cutOutside, hs.opensBlock_line, hopen, if_neg (by simp), hs.parts_line hne]
  exact mapM_cons_ok (hr room) h

theorem read_end : Stmt.read (room + 1) (endLine ++ [';']) = .ok .noop := by
  have hbare : withoutTerminator (endLine ++ [';']) = endLine :=
    withoutTerminator_terminated isCode_endLine.tidy
  rw [Stmt.read_of_not_block? (by rw [hbare]; exact block?_of_notMem isCode_endLine.inline), hbare]
  rfl

theorem Reads.cons_end (h : Reads (room + 1) ls rs) :
    Reads (room + 1) (endLine :: ls) (.noop :: rs) := by
  have hparts : parts endLine = [endLine ++ [';']] := by decide
  rw [Reads, cutOutside, if_neg (by decide), hparts]
  exact mapM_cons_ok read_end h

theorem Reads.cons_block {header e : List Char} {u v : List (List Char)} {s : Stmt}
    (hopen : opensBlock header = true) (hu : ∀ l ∈ u, closesBlock l = false)
    (he : closesBlock e = true) (hs : Stmt.read room (blockText header u) = .ok s)
    (h : Reads room v rs) : Reads room (header :: (u ++ e :: v)) (s :: rs) := by
  rw [Reads, cutOutside, if_pos hopen, cutInside_closed hu he]
  exact mapM_cons_ok hs h

theorem Reads.open_block {header : List Char} {u : List (List Char)} {s : Stmt}
    (hopen : opensBlock header = true) (hu : ∀ l ∈ u, closesBlock l = false)
    (hs : Stmt.read room (blockText header u) = .ok s) : Reads room (header :: u) [s] := by
  rw [Reads, cutOutside, if_pos hopen, cutInside_open hu]
  exact mapM_cons_ok hs rfl

/-! ## Reading blocks -/

theorem exists_blockText_eq (header : List Char) (body : List (List Char)) :
    ∃ m, blockText header body = header ++ '\n' :: (m ++ endLine) := by
  induction body generalizing header with
  | nil => exact ⟨[], by simp [blockText, unlines, List.intercalate, endLine]⟩
  | cons l body ih =>
      obtain ⟨m, hm⟩ := ih l
      refine ⟨l ++ '\n' :: m, ?_⟩
      have hcons : blockText header (l :: body) = header ++ '\n' :: blockText l body := by
        simp [blockText, unlines, List.intercalate]
      rw [hcons, hm]
      simp

theorem withoutTerminator_blockText {header : List Char} (h : IsTidy header)
    (body : List (List Char)) :
    withoutTerminator (blockText header body) = blockText header body := by
  obtain ⟨m, hm⟩ := exists_blockText_eq header body
  have htidy : IsTidy (blockText header body) := by
    rw [hm]
    exact h.append isCode_endLine.tidy ('\n' :: m)
  have hlast : (blockText header body).getLast? = some 'D' := by
    rw [hm, ← List.cons_append, ← List.append_assoc, List.getLast?_append]
    rfl
  simp [withoutTerminator, htidy.trim_eq, hlast]

theorem block?_blockText {header : List Char} {body : List (List Char)} (hh : IsCode header)
    (hb : ∀ l ∈ body, '\n' ∉ l) :
    block? (blockText header body) = (headerName? header).map fun name => (name, body) := by
  have hlines : lines (blockText header body) = header :: (body ++ [endLine]) := by
    refine lines_unlines (by simp) fun l hl => ?_
    rw [List.cons_append, List.mem_cons, List.mem_append, List.mem_singleton] at hl
    rcases hl with rfl | hl | rfl
    · exact hh.inline
    · exact hb l hl
    · exact isCode_endLine.inline
  obtain ⟨second, rest, hrest⟩ := List.exists_cons_of_ne_nil (l := body ++ [endLine]) (by simp)
  have hlast : (second :: rest).getLast (by simp) = endLine := by simp [← hrest]
  have hinner : (second :: rest).dropLast = body := by simp [← hrest]
  have hclose : closesBlock (trim endLine) = true := by decide
  unfold block?
  rw [hlines, hrest]
  simp only [hlast, hinner, hclose, ↓reduceIte, hh.tidy.trim_eq]
  cases headerName? header <;> rfl

/-- A block with a well-formed header is read as a function, through the lines in it. -/
theorem read_block {header name : List Char} {body : List (List Char)} (hh : IsCode header)
    (hb : ∀ l ∈ body, IsCode l) (hname : headerName? header = some name) :
    Stmt.read (room + 1) (blockText header body) =
      ((cutOutside body).mapM (Stmt.read room)).map fun rs =>
        .function (String.ofList name) (rs.map Stmt.inFunction) := by
  have hblock : block? (withoutTerminator (blockText header body)) = some (name, body) := by
    rw [withoutTerminator_blockText hh.tidy, block?_blockText hh fun l hl => (hb l hl).inline, hname]
    rfl
  rw [Stmt.read_of_block? hblock, tokensOf, codeLines_eq_self hb]

/-- Any other block is read as one plain statement. -/
theorem read_block_of_no_name {header : List Char} {body : List (List Char)} (hh : IsCode header)
    (hb : ∀ l ∈ body, IsCode l) (hopen : opensBlock header = true)
    (hname : headerName? header = none) :
    Stmt.read (room + 1) (blockText header body) = readPlain (blockText header body) := by
  have hbare := withoutTerminator_blockText hh.tidy body
  have hblock : block? (blockText header body) = none := by
    rw [block?_blockText hh fun l hl => (hb l hl).inline, hname]
    rfl
  have hcond := conditional?_block hopen body
  rw [hbare] at hcond
  rw [Stmt.read_of_not_block? (by rw [hbare, hblock]), hbare, readLine, hcond]

theorem headerName?_headerLine {name : String} (h : isLooseName name.toList = true) :
    headerName? (headerLine name) = some name.toList := by
  have hword := (isPlainWord_of_isLooseName h).isWord
  have hchars := isLooseNameChar_of_isLooseName h
  have hblank : isBlank ' ' = true := by decide
  have hafter : afterWord? "FUNCTION" (headerLine name) = some (name.toList ++ [':']) := by
    rw [headerLine, sentence_cons_cons, sentence_singleton, afterWord?,
      afterKeyword?_append _ (by decide)]
    simp only [hblank, ↓reduceIte, trimStart_eq_self hword.startsSolid]
  have hcolon : isLooseNameChar ':' = false := by decide
  rw [headerName?, hafter, Option.bind_some, List.takeWhile_append_of_pos hchars,
    List.dropWhile_append_of_pos hchars, List.takeWhile_cons_of_neg (by simp [hcolon]),
    List.dropWhile_cons_of_neg (by simp [hcolon]),
    trimStart_eq_self (startsSolid_cons.mpr (by decide)), List.append_nil]
  simp [h]

/-- What follows the word FUNCTION in an assignment is no name. -/
theorem headerName?_assign {name : String} {value : Expr}
    (hkw : isKeyword "FUNCTION".toList name.toList = true) :
    headerName? (Stmt.assign name value).line = none := by
  have hblank : isBlank ' ' = true := by decide
  have hafter : afterWord? "FUNCTION" (Stmt.assign name value).line =
      some ('=' :: ' ' :: (value.text.toList ++ [';'])) := by
    rw [line_assign, afterWord?, afterKeyword?_append _ hkw]
    simp only [hblank, ↓reduceIte, trimStart_eq_self (startsSolid_cons.mpr
      (by decide : isBlank '=' = false))]
  have hequals : isLooseNameChar '=' = false := by decide
  rw [headerName?, hafter, Option.bind_some, List.takeWhile_cons_of_neg (by simp [hequals]),
    List.dropWhile_cons_of_neg (by simp [hequals]),
    trimStart_eq_self (startsSolid_cons.mpr (by decide))]
  rfl

theorem isCode_map_line {b : List Stmt} (h : ∀ s ∈ b, s.IsLine) :
    ∀ l ∈ b.map Stmt.line, IsCode l := by
  intro l hl
  obtain ⟨s, hs, rfl⟩ := List.mem_map.mp hl
  exact (h s hs).isCode_line

/-- A block is read as the function with the statements between its lines. -/
theorem read_function {name : String} {b : List Stmt} (hname : isLooseName name.toList = true)
    (hb : ∀ s ∈ b, s.IsLine) (h : Reads room (b.map Stmt.line) rs)
    (hdecl : ∀ r ∈ rs, r.declared? = none) :
    Stmt.read (room + 1) (blockText (headerLine name) (b.map Stmt.line)) =
      .ok (.function name rs) := by
  have hkeep : rs.map Stmt.inFunction = rs := by
    conv => rhs; rw [← List.map_id rs]
    refine List.map_congr_left fun r hr => ?_
    have := hdecl r hr
    cases r with
    | function => cases this
    | _ => rfl
  have hread : (cutOutside (b.map Stmt.line)).mapM (Stmt.read room) = .ok rs := h
  rw [read_block (isCode_headerLine hname) (isCode_map_line hb) (headerName?_headerLine hname),
    hread]
  simp only [Except.map, hkeep, String.ofList_toList]

/-- A block that starts with an assignment declares no function and does nothing. -/
theorem read_assign_block {s : Stmt} {body : List (List Char)} (hs : s.IsLine)
    (hassign : s.assigns "FUNCTION" = true) (hb : ∀ l ∈ body, IsCode l) :
    Stmt.read (room + 1) (blockText s.line body) = .ok .noop := by
  have hopen : opensBlock s.line = true := hs.opensBlock_line.trans hassign
  cases s with
  | assign name value =>
      have hkw : isKeyword "FUNCTION".toList name.toList = true :=
        (isKeyword_of_isName hs.1).trans hassign
      -- The value would go on over the end of the line.
      have hnone : assignment? (blockText (Stmt.assign name value).line body) = none := by
        obtain ⟨m, hm⟩ := exists_blockText_eq (Stmt.assign name value).line body
        have htext : blockText (Stmt.assign name value).line body = name.toList ++
            ' ' :: ('=' :: ' ' :: (value.text.toList ++ ';' :: '\n' :: (m ++ endLine))) := by
          rw [hm, line_assign]
          simp
        rw [htext, assignment?_word (isNameChar_of_isName hs.1) (startsBlank_cons.mpr (by decide)),
          trimStart_blank (by decide), trimStart_eq_self (startsSolid_cons.mpr (by decide))]
        simp only [trimStart_blank (show isBlank ' ' = true by decide),
          trimStart_eq_self hs.2.isPlainWord.isWord.startsSolid]
        simp
      obtain ⟨c, t, hc, hF⟩ := exists_cons_of_opensBlock hopen
      obtain ⟨r, hr⟩ := blockText_cons c t body
      rw [read_block_of_no_name hs.isCode_line hb hopen (headerName?_assign hkw)]
      refine readPlain_noop (c := c) (by rw [hc, hr]; rfl) hnone ?_
      rw [hF]
      decide
  | _ => cases hassign

/-! ## Reading a row of lines -/

/-- What reading the lines of some statements gives. A statement that does nothing is lost, and where
a line opens a block something is read that does nothing. -/
structure ReadsBack (b rs : List Stmt) : Prop where
  declared : ∀ r ∈ rs, r.declared? = none
  length : rs.length ≤ (b.filter (· ≠ .noop)).length
  opened : (∃ s ∈ b, s.assigns "FUNCTION" = true) → .noop ∈ rs
  same : .noop ∉ b → (∀ s ∈ b, s.assigns "FUNCTION" = false) → (rs = b ↔ Stmt.hasNoopIn b = false)

theorem ReadsBack.nil : ReadsBack [] [] := by
  refine ⟨by simp, by simp, ?_, fun _ _ => by simp [Stmt.hasNoopIn]⟩
  rintro ⟨s, hs, -⟩
  cases hs

theorem ReadsBack.cons_noop {b : List Stmt} (h : ReadsBack b rs) : ReadsBack (.noop :: b) rs := by
  refine ⟨h.declared, by simpa using h.length, ?_, fun hne => absurd List.mem_cons_self hne⟩
  rintro ⟨s, hs, hassign⟩
  rcases List.mem_cons.mp hs with rfl | hs
  · cases hassign
  · exact h.opened ⟨s, hs, hassign⟩

theorem ReadsBack.cons {b : List Stmt} {s r : Stmt} (h : ReadsBack b rs) (hne : s ≠ .noop)
    (hopen : s.assigns "FUNCTION" = false) (heq : r = s ↔ s.hasNoop = false)
    (hdecl : r.declared? = none) : ReadsBack (s :: b) (r :: rs) := by
  refine ⟨by simpa [hdecl] using h.declared, by simpa [hne] using h.length, ?_, ?_⟩
  · rintro ⟨u, hu, hassign⟩
    rcases List.mem_cons.mp hu with rfl | hu
    · rw [hopen] at hassign; cases hassign
    · exact List.mem_cons_of_mem _ (h.opened ⟨u, hu, hassign⟩)
  · intro hnoop hfun
    simp only [List.mem_cons, not_or] at hnoop
    rw [List.cons.injEq, heq, h.same hnoop.2 fun u hu => hfun u (List.mem_cons_of_mem _ hu),
      Stmt.hasNoopIn, Bool.or_eq_false_iff]

/-- A line that opens a block leaves of it and of the lines in it something that does nothing. -/
theorem ReadsBack.block {b u : List Stmt} {s : Stmt} (h : ReadsBack b rs) (hne : s ≠ .noop)
    (hopen : s.assigns "FUNCTION" = true) : ReadsBack (s :: (u ++ b)) (.noop :: rs) := by
  refine ⟨by simpa [Stmt.declared?] using h.declared, ?_, fun _ => List.mem_cons_self, ?_⟩
  · have := h.length
    rw [List.filter_cons_of_pos (by simpa using hne), List.filter_append, List.length_cons,
      List.length_cons, List.length_append]
    omega
  · intro _ hfun
    rw [hfun s List.mem_cons_self] at hopen
    cases hopen

theorem Stmt.hasNoopIn_of_mem {b : List Stmt} (h : Stmt.noop ∈ b) : Stmt.hasNoopIn b = true := by
  induction b with
  | nil => cases h
  | cons s b ih =>
      rw [Stmt.hasNoopIn, Bool.or_eq_true]
      rcases List.mem_cons.mp h with rfl | h
      · exact .inl rfl
      · exact .inr (ih h)

/-- The statements are read back as they were written unless one is lost or opens a block. -/
theorem ReadsBack.eq_iff {b : List Stmt} (h : ReadsBack b rs) :
    rs = b ↔ Stmt.hasNoopIn b = false ∧ ∀ s ∈ b, s.assigns "FUNCTION" = false := by
  constructor
  · rintro rfl
    have hnoop : .noop ∉ rs := by
      intro hm
      have hlt : (rs.filter (· ≠ .noop)).length < rs.length :=
        List.length_filter_lt_length_iff_exists.mpr ⟨.noop, hm, by simp⟩
      exact absurd h.length (by omega)
    have hfun : ∀ s ∈ rs, s.assigns "FUNCTION" = false := by
      intro s hs
      rw [Bool.eq_false_iff]
      exact fun hassign => hnoop (h.opened ⟨s, hs, hassign⟩)
    exact ⟨(h.same hnoop hfun).mp rfl, hfun⟩
  · rintro ⟨hnone, hfun⟩
    refine (h.same (fun hm => ?_) hfun).mpr hnone
    rw [Stmt.hasNoopIn_of_mem hm] at hnone
    cases hnone

theorem closesBlock_map_line {b : List Stmt} (hb : ∀ s ∈ b, s.IsLine)
    (h : ∀ s ∈ b, s.assigns "END" = false) : ∀ l ∈ b.map Stmt.line, closesBlock l = false := by
  intro l hl
  obtain ⟨s, hs, rfl⟩ := List.mem_map.mp hl
  rw [(hb s hs).closesBlock_line, h s hs]

/-- The statements before the first one that closes a block, and those after it. -/
theorem exists_closing {b : List Stmt} (h : ¬ ∀ s ∈ b, s.assigns "END" = false) :
    ∃ u e v, b = u ++ e :: v ∧ (∀ s ∈ u, s.assigns "END" = false) ∧ e.assigns "END" = true := by
  cases hf : b.find? (·.assigns "END") with
  | none => exact absurd (by simpa using hf) h
  | some e =>
      obtain ⟨he, u, v, rfl, hu⟩ := List.find?_eq_some_iff_append.mp hf
      exact ⟨u, e, v, rfl, by simpa using hu, he⟩

/-- A block that the lines open and do not close goes on into `tail`, of which `cut` is left. -/
def Swallows (room : Nat) (tail : List (List Char)) (cut : List Stmt) : Prop :=
  ∀ header u s, opensBlock header = true → (∀ l ∈ u, closesBlock l = false) →
    Stmt.read room (blockText header u) = .ok s → Reads room (header :: (u ++ tail)) (s :: cut)

/-- By induction on the number of statements: a block takes several at once. -/
theorem Reads.lines_append {tail : List (List Char)} {cut : List Stmt} (h : Reads (room + 1) tail rs)
    (hcut : Swallows (room + 1) tail cut) (b : List Stmt) (hb : ∀ s ∈ b, s.IsLine) :
    ∃ xs, (Reads (room + 1) (b.map Stmt.line ++ tail) (xs ++ rs) ∨
      Reads (room + 1) (b.map Stmt.line ++ tail) (xs ++ cut)) ∧ ReadsBack b xs := by
  induction hn : b.length using Nat.strongRecOn generalizing b with
  | ind n ih =>
      cases b with
      | nil => exact ⟨[], .inl h, ReadsBack.nil⟩
      | cons s b =>
          have hs := hb s List.mem_cons_self
          have hrest : ∀ u ∈ b, u.IsLine := fun u hu => hb u (List.mem_cons_of_mem _ hu)
          rw [List.length_cons] at hn
          by_cases hne : s = .noop
          · obtain ⟨xs, hr, hback⟩ := ih b.length (by omega) b hrest rfl
            subst hne
            exact ⟨xs, hr.imp Reads.cons_noop Reads.cons_noop, hback.cons_noop⟩
          cases hopen : s.assigns "FUNCTION" with
          | false =>
              obtain ⟨xs, hr, hback⟩ := ih b.length (by omega) b hrest rfl
              obtain ⟨r, hcons, heq, hdecl⟩ := Reads.cons_line hs hne hopen
              exact ⟨r :: xs, hr.imp hcons hcons, hback.cons hne hopen heq hdecl⟩
          | true =>
              have hblock : opensBlock s.line = true := hs.opensBlock_line.trans hopen
              by_cases hclose : ∀ u ∈ b, u.assigns "END" = false
              · have := ReadsBack.nil.block (u := b) hne hopen
                rw [List.append_nil] at this
                exact ⟨[.noop], .inr (hcut _ _ _ hblock (closesBlock_map_line hrest hclose)
                  (read_assign_block hs hopen (isCode_map_line hrest))), this⟩
              · obtain ⟨u, e, v, rfl, hu, he⟩ := exists_closing hclose
                have huline : ∀ x ∈ u, x.IsLine := fun x hx => hrest x (by simp [hx])
                have heline : e.IsLine := hrest e (by simp)
                rw [List.length_append, List.length_cons] at hn
                obtain ⟨xs, hr, hback⟩ := ih v.length (by omega) v
                  (fun x hx => hrest x (by simp [hx])) rfl
                have hcons {qs : List Stmt} (hq : Reads (room + 1) (v.map Stmt.line ++ tail) qs) :
                    Reads (room + 1) ((s :: (u ++ e :: v)).map Stmt.line ++ tail) (.noop :: qs) := by
                  have := hq.cons_block hblock (closesBlock_map_line huline hu)
                    (heline.closesBlock_line.trans he)
                    (read_assign_block hs hopen (isCode_map_line huline))
                  simpa using this
                have := hback.block (u := u ++ [e]) hne hopen
                rw [List.append_assoc, List.singleton_append] at this
                exact ⟨.noop :: xs, hr.imp hcons hcons, this⟩

theorem swallows_nil : Swallows room [] [] := by
  intro header u s hopen hu hs
  rw [List.append_nil]
  exact Reads.open_block hopen hu hs

theorem Reads.swallows_end {rest : List (List Char)} (h : Reads room rest rs) :
    Swallows room (endLine :: rest) rs := fun _ _ _ hopen hu hs =>
  h.cons_block hopen hu (by decide) hs

theorem exists_reads_lines (b : List Stmt) (hb : ∀ s ∈ b, s.IsLine) (hroom : b ≠ [] → 0 < room) :
    ∃ rs, Reads room (b.map Stmt.line) rs ∧ ReadsBack b rs := by
  cases room with
  | zero =>
      obtain rfl : b = [] := by
        by_contra hne
        exact absurd (hroom hne) (Nat.lt_irrefl 0)
      exact ⟨[], Reads.nil, ReadsBack.nil⟩
  | succ room =>
      obtain ⟨xs, hr, hback⟩ := Reads.nil.lines_append swallows_nil b hb
      rw [or_self, List.append_nil, List.append_nil] at hr
      exact ⟨xs, hr, hback⟩

/-! ## Reading functions and programs -/

/-- What is left of a function after a line that closed it too early, with the line that should have
closed it, declares nothing. -/
theorem Reads.leftover {rest : List (List Char)} (h : Reads (room + 1) rest rs) (b : List Stmt)
    (hb : ∀ s ∈ b, s.IsLine) : ∃ xs,
      Reads (room + 1) (b.map Stmt.line ++ endLine :: rest) (xs ++ rs) ∧
      ∀ x ∈ xs, x.declared? = none := by
  obtain ⟨xs, hr, hback⟩ := h.cons_end.lines_append h.swallows_end b hb
  rcases hr with hr | hr
  · refine ⟨xs ++ [.noop], by simpa using hr, fun x hx => ?_⟩
    rcases List.mem_append.mp hx with hx | hx
    · exact hback.declared x hx
    · rw [List.mem_singleton.mp hx]; rfl
  · exact ⟨xs, hr, hback.declared⟩

/-- Statements that are read back where they stand in the main sequence. -/
def KeptInMain (b : List Stmt) : Prop :=
  Stmt.hasNoopIn b = false ∧ ∀ s ∈ b, s.assigns "FUNCTION" = false

/-- Statements that are read back where they stand in a function. -/
def KeptInFunction (b : List Stmt) : Prop := KeptInMain b ∧ ∀ s ∈ b, s.assigns "END" = false

theorem Reads.function {rest : List (List Char)} (h : Reads (room + 1) rest rs) {name : String}
    {b : List Stmt} (hname : isLooseName name.toList = true) (hb : ∀ s ∈ b, s.IsLine)
    (hroom : b ≠ [] → 0 < room) :
    ∃ b' xs, Reads (room + 1) (blockLines name b ++ rest) (.function name b' :: (xs ++ rs)) ∧
      (∀ x ∈ xs, x.declared? = none) ∧ (b' = b ↔ KeptInFunction b) ∧
      (KeptInFunction b → xs = []) := by
  have hlines : blockLines name b ++ rest =
      headerLine name :: (b.map Stmt.line ++ endLine :: rest) := by simp [blockLines]
  rw [hlines]
  by_cases hclose : ∀ s ∈ b, s.assigns "END" = false
  · obtain ⟨b', hr, hback⟩ := exists_reads_lines b hb hroom
    refine ⟨b', [], ?_, by simp, ?_, fun _ => rfl⟩
    · exact h.cons_block (opensBlock_headerLine name) (closesBlock_map_line hb hclose) (by decide)
        (read_function hname hb hr hback.declared)
    · rw [hback.eq_iff]
      exact ⟨fun hk => ⟨hk, hclose⟩, fun hk => hk.1⟩
  · have hkept : ¬ KeptInFunction b := fun hk => hclose hk.2
    obtain ⟨u, e, v, rfl, hu, he⟩ := exists_closing hclose
    have huline : ∀ x ∈ u, x.IsLine := fun x hx => hb x (by simp [hx])
    have heline : e.IsLine := hb e (by simp)
    obtain ⟨b', hr, hback⟩ := exists_reads_lines u huline fun _ => hroom (by simp)
    obtain ⟨xs, hxs, hdecl⟩ := h.leftover v fun x hx => hb x (by simp [hx])
    refine ⟨b', xs, ?_, hdecl, ?_, fun hk => absurd hk hkept⟩
    · have := hxs.cons_block (opensBlock_headerLine name) (closesBlock_map_line huline hu)
        (heline.closesBlock_line.trans he) (read_function hname huline hr hback.declared)
      simpa using this
    · -- The function was cut short.
      refine iff_of_false (fun heq => ?_) hkept
      have hlen := hback.length
      have := List.length_filter_le (· ≠ .noop) u
      rw [heq, List.length_append, List.length_cons] at hlen
      omega

theorem filterMap_declared? {xs : List Stmt} (h : ∀ x ∈ xs, x.declared? = none) :
    xs.filterMap Stmt.declared? = [] := List.filterMap_eq_nil_iff.mpr h

theorem filter_declared? {xs : List Stmt} (h : ∀ x ∈ xs, x.declared? = none) :
    xs.filter (·.declared?.isNone) = xs :=
  List.filter_eq_self.mpr fun x hx => by simp [h x hx]

/-- The functions of a program, read back before the main sequence. -/
theorem Reads.functions {rest : List (List Char)} (h : Reads room rest rs)
    (hdecl : ∀ r ∈ rs, r.declared? = none) (es : List (String × List Stmt))
    (hnames : ∀ e ∈ es, isLooseName e.1.toList = true) (hbodies : ∀ e ∈ es, ∀ s ∈ e.2, s.IsLine)
    (hroom : ∀ e ∈ es, 0 < room ∧ (e.2 ≠ [] → 1 < room)) :
    ∃ qs, Reads room (es.flatMap (fun e => blockLines e.1 e.2) ++ rest) qs ∧
      (qs.filterMap Stmt.declared?).map Prod.fst = es.map Prod.fst ∧
      (qs.filterMap Stmt.declared? = es ↔ ∀ e ∈ es, KeptInFunction e.2) ∧
      ((∀ e ∈ es, KeptInFunction e.2) → qs.filter (·.declared?.isNone) = rs) := by
  induction es with
  | nil =>
      refine ⟨rs, h, ?_, ?_, fun _ => filter_declared? hdecl⟩
      · simp [filterMap_declared? hdecl]
      · simp [filterMap_declared? hdecl]
  | cons e es ih =>
      obtain ⟨⟨hpos, hinner⟩, hrooms⟩ := List.forall_mem_cons.mp hroom
      obtain ⟨qs, hqs, hkeys, hiff, hmain⟩ := ih (fun d hd => hnames d (List.mem_cons_of_mem _ hd))
        (fun d hd => hbodies d (List.mem_cons_of_mem _ hd)) hrooms
      obtain ⟨room, rfl⟩ := Nat.exists_eq_add_of_lt hpos
      rw [Nat.zero_add] at hqs hinner ⊢
      obtain ⟨b', xs, hr, hxs, hb', hnil⟩ :=
        hqs.function (hnames e List.mem_cons_self) (hbodies e List.mem_cons_self)
          fun hne => Nat.lt_of_succ_lt_succ (hinner hne)
      have hpairs : (Stmt.function e.1 b' :: (xs ++ qs)).filterMap Stmt.declared? =
          (e.1, b') :: qs.filterMap Stmt.declared? := by
        simp only [List.filterMap_cons, Stmt.declared?, List.filterMap_append,
          filterMap_declared? hxs, List.nil_append]
      refine ⟨_, by simpa using hr, ?_, ?_, fun hk => ?_⟩
      · rw [hpairs, List.map_cons, hkeys, List.map_cons]
      · rw [hpairs, List.cons.injEq, hiff, List.forall_mem_cons, ← hb']
        simp [Prod.ext_iff]
      · obtain ⟨hk, hks⟩ := List.forall_mem_cons.mp hk
        rw [hnil hk, List.nil_append, List.filter_cons_of_neg (by simp [Stmt.declared?]), hmain hks]

theorem Program.ext_entries {p q : Program} (hmain : p.main = q.main)
    (hfun : p.functions.entries = q.functions.entries) : p = q := by
  cases p; cases q; cases hmain; cases Table.ext_entries hfun; rfl

/-- The program is read back as it was written: nothing in it does nothing, no assignment in the main
sequence or in a function is to FUNCTION, and none in a function is to END. -/
structure Program.Kept (p : Program) : Prop where
  main : KeptInMain p.main
  functions : ∀ e ∈ p.functions.entries, KeptInFunction e.2

/-- There is room for reading what is written of the program: a statement of the main sequence is one
reading, and one in a function is a reading inside another. -/
structure Program.Fits (p : Program) (room : Nat) : Prop where
  main : p.main ≠ [] → 0 < room
  functions : ∀ e ∈ p.functions.entries, 0 < room ∧ (e.2 ≠ [] → 1 < room)

theorem room_pos_of_read {t : List Char} {s : Stmt} (h : Stmt.read room t = .ok s) : 0 < room := by
  cases room with
  | zero => cases h
  | succ room => exact Nat.succ_pos room

/-- A function with statements was read by readings inside another. -/
theorem one_lt_room_of_read {t : List Char} {name : String} {body : List Stmt} (ht : IsToken t)
    (h : Stmt.read room t = .ok (.function name body)) (hne : body ≠ []) : 1 < room := by
  cases room with
  | zero => cases h
  | succ room =>
      cases hb : block? (withoutTerminator t) with
      | none =>
          rw [Stmt.read_of_not_block? hb] at h
          exact (ht.readLine_isLine h).elim
      | some b =>
          obtain ⟨name', inner⟩ := b
          rw [Stmt.read_of_block? hb] at h
          cases hm : (tokensOf inner).mapM (Stmt.read room) with
          | error e => rw [hm] at h; cases h
          | ok rs =>
              rw [hm] at h
              cases h
              obtain ⟨r, hr⟩ := List.exists_mem_of_ne_nil rs fun hnil => hne (by rw [hnil]; rfl)
              obtain ⟨u, -, hu⟩ := exists_of_mem_mapM hm hr
              exact Nat.succ_lt_succ (room_pos_of_read hu)

theorem Program.fits_of_parse {source : String} {p : Program}
    (h : Program.parse room source = .ok p) : p.Fits room := by
  unfold Program.parse Program.ofChars at h
  cases hm : (tokensOf (Text.lines source.toList)).mapM (Stmt.read room) with
  | error e => rw [hm] at h; cases h
  | ok stmts =>
      rw [hm] at h
      cases h
      refine ⟨fun hne => ?_, fun e he => ?_⟩
      · obtain ⟨s, hs⟩ := List.exists_mem_of_ne_nil _ hne
        obtain ⟨t, -, ht⟩ := exists_of_mem_mapM hm (List.mem_filter.mp hs).1
        exact room_pos_of_read ht
      · obtain ⟨s, hs, hdecl⟩ := List.mem_filterMap.mp (Table.mem_entries_ofList he)
        obtain ⟨t, hmem, ht⟩ := exists_of_mem_mapM hm hs
        have htoken := isToken_of_mem_tokensOf (fun l => newline_notMem_of_mem_lines) hmem
        cases s with
        | function name body =>
            cases hdecl
            exact ⟨room_pos_of_read ht, one_lt_room_of_read htoken ht⟩
        | _ => cases hdecl

theorem Program.WellFormed.exists_parse_text {p : Program} (h : p.WellFormed) (hfits : p.Fits room) :
    ∃ q, Program.parse room p.text = .ok q ∧ q.functions.keys = p.functions.keys ∧
      (q = p ↔ p.Kept) := by
  obtain ⟨ms, hms, hback⟩ := exists_reads_lines p.main h.main hfits.main
  obtain ⟨qs, hqs, hkeys, hiff, hmain⟩ :=
    hms.functions hback.declared p.functions.entries h.names h.bodies hfits.functions
  have hentries : (Program.ofStmts qs).functions.entries = qs.filterMap Stmt.declared? := by
    refine Table.entries_ofList ?_
    rw [hkeys]
    exact p.functions.nodup
  refine ⟨Program.ofStmts qs, ?_, ?_, ?_, ?_⟩
  · have htokens : tokensOf (Text.lines p.text.toList) = cutOutside p.lines :=
      congrArg cutOutside h.codeOf_text
    rw [Program.parse, Program.ofChars, htokens]
    exact congrArg (Except.map Program.ofStmts) hqs
  · rw [Table.keys, hentries, hkeys, Table.keys]
  · intro heq
    have hfun : ∀ e ∈ p.functions.entries, KeptInFunction e.2 := by
      rw [← hiff, ← hentries, heq]
    refine ⟨hback.eq_iff.mp ?_, hfun⟩
    rw [← hmain hfun]
    exact congrArg Program.main heq
  · intro hk
    refine Program.ext_entries ?_ ?_
    · exact (hmain hk.functions).trans (hback.eq_iff.mpr hk.main)
    · rw [hentries, hiff.mpr hk.functions]

theorem Program.agrees_iff {p q : Program} (h : q.functions.keys = p.functions.keys) :
    p.agrees q = true ↔ q = p := by
  rw [Program.agrees, Bool.and_eq_true, beq_iff_eq, Table.agrees_iff_of_keys_eq h.symm]
  constructor
  · rintro ⟨hmain, hfun⟩
    exact Program.ext_entries hmain.symm (congrArg Table.entries hfun)
  · rintro rfl
    exact ⟨rfl, rfl⟩

/-- A program that was read can be written and read again, and the result is the same program, with
its functions in the same order or in whatever order, exactly when nothing in it is lost or
misread. -/
theorem parse_text_eq_iff {source : String} {p : Program} (h : Program.parse room source = .ok p) :
    ∃ q, Program.parse room p.text = .ok q ∧ (q = p ↔ p.Kept) ∧ (p.agrees q = true ↔ p.Kept) := by
  obtain ⟨q, hq, hkeys, hiff⟩ :=
    (Program.parse_wellFormed h).exists_parse_text (Program.fits_of_parse h)
  exact ⟨q, hq, hiff, (Program.agrees_iff hkeys).trans hiff⟩

/-- A function that is written with an end in the middle of it. -/
theorem parse_text_eq_iff_guard :
    ∃ p, Program.parse 2 "FUNCTION guard:\n  SCAN_FOR_ENEMY; end = 1;\nEND\nIF $ENEMY THEN CALL guard;" =
        .ok p ∧
      ∃ q, Program.parse 2 p.text = .ok q ∧ (q = p ↔ p.Kept) ∧ (p.agrees q = true ↔ p.Kept) := by
  have h : Program.parse 2
      "FUNCTION guard:\n  SCAN_FOR_ENEMY; end = 1;\nEND\nIF $ENEMY THEN CALL guard;" =
      .ok { main := [.ifThen (.variable "ENEMY") (.call "guard")],
            functions := .ofList [("guard", [.scan, .assign "end" (.literal 1)])] } :=
    parse_eq_ok_of_toOption (by decide +kernel)
  exact ⟨_, h, parse_text_eq_iff h⟩

end TankArena.Script
