import TankArena.Proofs.Script.Blocks
import TankArena.Proofs.Script.Room

/-!
# Scripts one after the other

Two scripts joined by a newline are read as the two programs, one after the other, if the first
closes all its blocks. A block that it leaves open goes on into the second script, up to the first
line that closes it; its texts are then nested deeper, and twice the room is enough for them.
-/

namespace TankArena.Script

open Text

/-! ## Reading lines one after the other -/

theorem codeOf_join (first second : String) : codeOf (first ++ "\n" ++ second).toList =
    codeOf first.toList ++ codeOf second.toList := by
  rw [← codeOf_append]
  simp

/-- The main sequences one after the other; the functions of the second win over those of the
first. -/
theorem ofStmts_append (rs ss : List Stmt) :
    (Program.ofStmts (rs ++ ss)).main = (Program.ofStmts rs).main ++ (Program.ofStmts ss).main ∧
    (Program.ofStmts (rs ++ ss)).functions.keys = (Program.ofStmts rs).functions.keys ++
      (Program.ofStmts ss).functions.keys.filter (· ∉ (Program.ofStmts rs).functions.keys) ∧
    ∀ name, (Program.ofStmts (rs ++ ss)).functions.get? name =
      ((Program.ofStmts ss).functions.get? name).or ((Program.ofStmts rs).functions.get? name) := by
  have hfun : (Program.ofStmts (rs ++ ss)).functions =
      (Program.ofStmts rs).functions.insertAll (ss.filterMap Stmt.declared?) := by
    simp only [Program.ofStmts, List.filterMap_append, Table.ofList_append]
  refine ⟨List.filter_append rs ss, ?_, fun name => ?_⟩
  · rw [hfun, Table.keys_insertAll]
    rfl
  · rw [hfun, Table.get?_insertAll]
    rfl

/-! ## An open block goes on -/

/-- Every statement text in the lines can be read. -/
def Readable (room : Nat) (ls : List (List Char)) : Prop :=
  ∀ t ∈ cutOutside ls, ∃ s, Stmt.read room t = .ok s

variable {room more : Nat}

theorem readable_iff {ls : List (List Char)} : Readable room ls ↔ ∃ rs, Reads room ls rs := by
  unfold Readable Reads
  rcases mapM_cases (Stmt.read room) (cutOutside ls) with ⟨e, he, t, ht, hf⟩ | ⟨rs, hrs, hall⟩
  · refine iff_of_false (fun h => ?_) ?_
    · obtain ⟨s, hs⟩ := h t ht
      rw [hf] at hs
      cases hs
    · rintro ⟨rs, hrs⟩
      rw [he] at hrs
      cases hrs
  · exact iff_of_true hall ⟨rs, hrs⟩

theorem Readable.of_le {ls : List (List Char)} (h : Readable room ls) (hle : room ≤ more) :
    Readable more ls := fun t ht => by
  obtain ⟨s, hs⟩ := h t ht
  exact ⟨s, Stmt.read_ok_of_le hs hle⟩

theorem Reads.of_le {ls : List (List Char)} {rs : List Stmt} (h : Reads room ls rs)
    (hle : room ≤ more) : Reads more ls rs := by
  have hread : (cutOutside ls).mapM (Stmt.read room) = .ok rs := h
  rw [Reads, mapM_eq_of_ne_error (by rw [hread]; rintro ⟨⟩) fun t _ ht => Stmt.read_of_le ht hle]
  exact hread

theorem readable_line {l : List Char} {ls : List (List Char)} (hl : opensBlock l = false) :
    Readable room (l :: ls) ↔
      (∀ t ∈ parts l, ∃ s, Stmt.read room t = .ok s) ∧ Readable room ls := by
  unfold Readable
  rw [cutOutside, if_neg (by simp [hl]), List.forall_mem_append]

theorem readable_block {header e : List Char} {body ls : List (List Char)}
    (hopen : opensBlock header = true) (hbody : ∀ l ∈ body, closesBlock l = false)
    (he : closesBlock e = true) : Readable room (header :: (body ++ e :: ls)) ↔
      (∃ s, Stmt.read room (blockText header body) = .ok s) ∧ Readable room ls := by
  unfold Readable
  rw [cutOutside_block hopen hbody he, List.forall_mem_cons]

theorem readable_unclosed {header : List Char} {body : List (List Char)}
    (hopen : opensBlock header = true) (hbody : ∀ l ∈ body, closesBlock l = false) :
    Readable room (header :: body) ↔ ∃ s, Stmt.read room (blockText header body) = .ok s := by
  unfold Readable
  rw [cutOutside_unclosed hopen hbody, List.forall_mem_singleton]

theorem readable_nil : Readable room [] := by simp [Readable, cutOutside]

/-- By induction on the blocks: the first line that closes one ends a text or is one. -/
theorem Readable.split {ls : List (List Char)} (h : Readable room ls) :
    Readable room (untilClose ls) ∧ Readable room (afterClose ls) := by
  induction ls using blocks_induction with
  | nil => exact ⟨readable_nil, readable_nil⟩
  | line l ls hl ih =>
      obtain ⟨hparts, hrest⟩ := (readable_line hl).mp h
      cases hclose : closesBlock l with
      | true =>
          rw [untilClose_close hclose, afterClose_close hclose]
          exact ⟨readable_nil, hrest⟩
      | false =>
          obtain ⟨huntil, hafter⟩ := ih hrest
          rw [untilClose_cons hclose, afterClose_cons hclose]
          exact ⟨(readable_line hl).mpr ⟨hparts, huntil⟩, hafter⟩
  | block header body e ls hopen hbody he _ =>
      have hall : ∀ l ∈ header :: body, closesBlock l = false :=
        List.forall_mem_cons.mpr ⟨closesBlock_of_opensBlock hopen, hbody⟩
      obtain ⟨hblock, hrest⟩ := (readable_block hopen hbody he).mp h
      rw [← List.cons_append, untilClose_append hall, afterClose_append hall, untilClose_close he,
        afterClose_close he, List.append_nil]
      exact ⟨(readable_unclosed hopen hbody).mpr hblock, hrest⟩
  | unclosed header body hopen hbody =>
      have hall : ∀ l ∈ header :: body, closesBlock l = false :=
        List.forall_mem_cons.mpr ⟨closesBlock_of_opensBlock hopen, hbody⟩
      rw [← List.append_nil (header :: body), untilClose_append hall, afterClose_append hall,
        untilClose, afterClose, List.takeWhile_nil, List.append_nil]
      exact ⟨h, readable_nil⟩

theorem exists_read_block_iff {header : List Char} {body : List (List Char)} (hh : IsCode header)
    (hb : ∀ l ∈ body, IsCode l) (hopen : opensBlock header = true) :
    (∃ s, Stmt.read (room + 1) (blockText header body) = .ok s) ↔
      (headerName? header = none ∨ Readable room body) := by
  cases hname : headerName? header with
  | none =>
      obtain ⟨s, hs, -⟩ := exists_read_block hh hb hopen hname
      exact iff_of_true ⟨s, hs⟩ (.inl rfl)
  | some name =>
      rw [read_block hh hb hname, readable_iff]
      unfold Reads
      cases (cutOutside body).mapM (Stmt.read room) with
      | error e => simp [Except.map]
      | ok rs => simp [Except.map]

/-- Lines without an end are readable one after the other if each part is. By induction on the first:
once it opens a block, the rest of it and all of the second stand in that block, one place deeper. -/
theorem Readable.append {us vs : List (List Char)} (hu : Readable room us) (hv : Readable more vs)
    (hcode : ∀ l ∈ us ++ vs, IsCode l) (hclose : ∀ l ∈ us ++ vs, closesBlock l = false) :
    Readable (room + more) (us ++ vs) := by
  induction us generalizing room with
  | nil => exact hv.of_le (Nat.le_add_left more room)
  | cons l us ih =>
      rw [List.cons_append] at hcode hclose ⊢
      obtain ⟨hl, hcode⟩ := List.forall_mem_cons.mp hcode
      obtain ⟨-, hclose⟩ := List.forall_mem_cons.mp hclose
      cases hopen : opensBlock l with
      | false =>
          obtain ⟨hparts, hrest⟩ := (readable_line hopen).mp hu
          refine (readable_line hopen).mpr ⟨fun t ht => ?_, ih hrest hcode hclose⟩
          obtain ⟨s, hs⟩ := hparts t ht
          exact ⟨s, Stmt.read_ok_of_le hs (Nat.le_add_right room more)⟩
      | true =>
          have hus : ∀ m ∈ us, IsCode m := fun m hm => hcode m (List.mem_append_left vs hm)
          have hunclosed : ∀ m ∈ us, closesBlock m = false := fun m hm =>
            hclose m (List.mem_append_left vs hm)
          have hblock := (readable_unclosed hopen hunclosed).mp hu
          cases room with
          | zero =>
              obtain ⟨s, hs⟩ := hblock
              cases hs
          | succ room =>
              rw [exists_read_block_iff hl hus hopen] at hblock
              rw [Nat.succ_add, readable_unclosed hopen hclose, exists_read_block_iff hl hcode hopen]
              exact hblock.imp_right fun hrest => ih hrest hcode hclose

/-! ## Two scripts -/

/-- The lines of the second script that an open block takes can be read in it. -/
theorem OpenAt.exists_read {before body : List (List Char)} {header first second : List Char}
    (h : OpenAt before header body) (hlines : codeOf first = before ++ header :: body)
    (hfirst : Readable room (codeOf first)) (hsecond : Readable more (codeOf second)) :
    ∃ s, Stmt.read (room + more) (blockText header (body ++ untilClose (codeOf second))) = .ok s := by
  have hcode : ∀ l ∈ before ++ header :: body, IsCode l := by
    rw [← hlines]
    exact fun l hl => isCode_of_mem_codeOf hl
  obtain ⟨hheader, hbody⟩ := List.forall_mem_cons.mp (List.forall_mem_append.mp hcode).2
  have htaken : ∀ l ∈ untilClose (codeOf second), IsCode l := fun l hl =>
    isCode_of_mem_codeOf (List.takeWhile_sublist _ |>.subset hl)
  have hclose : ∀ l ∈ body ++ untilClose (codeOf second), closesBlock l = false :=
    List.forall_mem_append.mpr ⟨h.unclosed, closesBlock_of_mem_untilClose⟩
  have hopen : Readable room (header :: body) := by
    unfold Readable at hfirst ⊢
    rw [hlines, h.closed.cutOutside_append] at hfirst
    exact (List.forall_mem_append.mp hfirst).2
  have hwhole := hopen.append hsecond.split.1
    (List.forall_mem_cons.mpr ⟨hheader, List.forall_mem_append.mpr ⟨hbody, htaken⟩⟩)
    (List.forall_mem_cons.mpr ⟨closesBlock_of_opensBlock h.opens, hclose⟩)
  rw [List.cons_append, readable_unclosed h.opens hclose] at hwhole
  exact hwhole

/-- Two scripts joined by a newline. If the first closes all its blocks, the main sequences follow one
another, the functions of the first keep their places, and those of the second win over them or come
after them. If it does not, its last block takes the lines of the second up to the first that closes
a block, and the lines after that are read as they are. With twice the room all of it is read, and
with as much as for each script alone the same comes out, or it is nested too deep. -/
theorem parse_join {first second : String} {p q : Program} (hp : Program.parse room first = .ok p)
    (hq : Program.parse room second = .ok q) :
    (BlocksClosed (codeOf first.toList) →
      ∃ r, Program.parse room (first ++ "\n" ++ second) = .ok r ∧ r.main = p.main ++ q.main ∧
        r.functions.keys =
          p.functions.keys ++ q.functions.keys.filter (· ∉ p.functions.keys) ∧
        ∀ name, r.functions.get? name = (q.functions.get? name).or (p.functions.get? name)) ∧
    (¬ BlocksClosed (codeOf first.toList) →
      ∃ before header body, codeOf first.toList = before ++ header :: body ∧
        OpenAt before header body ∧
        tokensOf (lines (first ++ "\n" ++ second).toList) =
          cutOutside before ++ blockText header (body ++ untilClose (codeOf second.toList)) ::
            cutOutside (afterClose (codeOf second.toList)) ∧
        ∃ rs s ss, Reads room before rs ∧
          Stmt.read (room + room) (blockText header (body ++ untilClose (codeOf second.toList))) =
            .ok s ∧
          Reads room (afterClose (codeOf second.toList)) ss ∧
          Program.parse (room + room) (first ++ "\n" ++ second) = .ok (.ofStmts (rs ++ s :: ss)) ∧
          (Program.parse room (first ++ "\n" ++ second) = .ok (.ofStmts (rs ++ s :: ss)) ∨
            Program.parse room (first ++ "\n" ++ second) = .error .tooDeep)) := by
  obtain ⟨rs, hrs, rfl⟩ := parse_eq_ok_iff.mp hp
  obtain ⟨ss, hss, rfl⟩ := parse_eq_ok_iff.mp hq
  refine ⟨fun hclosed => ?_, fun hclosed => ?_⟩
  · refine ⟨.ofStmts (rs ++ ss), parse_eq_ok_iff.mpr ⟨rs ++ ss, ?_, rfl⟩, ofStmts_append rs ss⟩
    rw [codeOf_join, Reads, hclosed.cutOutside_append]
    exact mapM_append_eq_ok_iff.mpr ⟨rs, ss, hrs, hss, rfl⟩
  · obtain ⟨before, header, body, hlines, hat⟩ :=
      (blocksClosed_or_open (codeOf first.toList)).resolve_left hclosed
    have hfirst : Readable room (codeOf first.toList) := readable_iff.mpr ⟨rs, hrs⟩
    have hsecond : Readable room (codeOf second.toList) := readable_iff.mpr ⟨ss, hss⟩
    have htokens : cutOutside (codeOf (first ++ "\n" ++ second).toList) =
        cutOutside before ++ blockText header (body ++ untilClose (codeOf second.toList)) ::
          cutOutside (afterClose (codeOf second.toList)) := by
      rw [codeOf_join, hlines, List.append_assoc, hat.closed.cutOutside_append, List.cons_append,
        cutOutside, if_pos hat.opens, cutInside_eq, untilClose_append hat.unclosed,
        afterClose_append hat.unclosed, List.reverse_nil, List.nil_append]
    obtain ⟨bs, hbs⟩ : ∃ bs, Reads room before bs := by
      unfold Reads at hrs
      rw [hlines, hat.closed.cutOutside_append] at hrs
      obtain ⟨bs, -, hbs, -⟩ := mapM_append_eq_ok_iff.mp hrs
      exact ⟨bs, hbs⟩
    obtain ⟨s, hs⟩ := hat.exists_read hlines hfirst hsecond
    obtain ⟨as, has⟩ := readable_iff.mp hsecond.split.2
    have hmore : room ≤ room + room := Nat.le_add_left room room
    have hparse : Program.parse (room + room) (first ++ "\n" ++ second) =
        .ok (.ofStmts (bs ++ s :: as)) := by
      refine parse_eq_ok_iff.mpr ⟨bs ++ s :: as, ?_, rfl⟩
      rw [Reads, htokens]
      exact mapM_append_eq_ok_iff.mpr
        ⟨bs, s :: as, hbs.of_le hmore, mapM_cons_ok hs (has.of_le hmore), rfl⟩
    refine ⟨before, header, body, hlines, hat, htokens, bs, s, as, hbs, hs, has, hparse, ?_⟩
    exact hparse ▸ (Program.parse_eq_or_tooDeep _ hmore)

/-- A function is declared anew in a block that is left open; the other way round, that block takes in
the lines of the other declaration, for which there is then too little room. -/
theorem parse_join_redeclared :
    let closed := "FUNCTION F:\nATTACK;\nEND\nCALL F;"
    let unclosed := "SCAN_FOR_ENEMY;\nfunction F :\nTURN LEFT;"
    ∃ p q, Program.parse 2 closed = .ok p ∧ Program.parse 2 unclosed = .ok q ∧
      (BlocksClosed (codeOf closed.toList) ∧
        ∃ r, Program.parse 2 (closed ++ "\n" ++ unclosed) = .ok r ∧ r.main = [.call "F", .scan] ∧
          r.functions.get? "F" = some [.turn .left]) ∧
      (¬ BlocksClosed (codeOf unclosed.toList) ∧
        Program.parse 2 (unclosed ++ "\n" ++ closed) = .error .tooDeep ∧
        ∃ before header body s, codeOf unclosed.toList = before ++ header :: body ∧
          OpenAt before header body ∧ Stmt.read 4 (blockText header
            (body ++ ["FUNCTION F:".toList, "ATTACK;".toList])) = .ok s) := by
  intro closed unclosed
  have hp : Program.parse 2 closed =
      .ok { main := [.call "F"], functions := .ofList [("F", [.attack])] } :=
    parse_eq_ok_of_toOption (by decide +kernel)
  have hq : Program.parse 2 unclosed =
      .ok { main := [.scan], functions := .ofList [("F", [.turn .left])] } :=
    parse_eq_ok_of_toOption (by decide +kernel)
  have hclosed : BlocksClosed (codeOf closed.toList) := by decide +kernel
  have hunclosed : ¬ BlocksClosed (codeOf unclosed.toList) := by decide +kernel
  refine ⟨_, _, hp, hq, ⟨hclosed, ?_⟩, hunclosed, by decide +kernel, ?_⟩
  · obtain ⟨r, hr, hmain, -, hget⟩ := (parse_join hp hq).1 hclosed
    exact ⟨r, hr, hmain, (hget "F").trans (by decide +kernel)⟩
  · obtain ⟨before, header, body, hlines, hat, -, -, s, -, -, hs, -⟩ := (parse_join hq hp).2 hunclosed
    have htaken : untilClose (codeOf closed.toList) = ["FUNCTION F:".toList, "ATTACK;".toList] := by
      decide +kernel
    rw [htaken] at hs
    exact ⟨before, header, body, s, hlines, hat, hs⟩

end TankArena.Script
