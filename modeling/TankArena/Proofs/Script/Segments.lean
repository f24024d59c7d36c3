import TankArena.Proofs.Script.Declarations

/-!
# The segments of a script

The code lines of a script fall into ordinary lines and blocks in one way only. Every segment has
its own statement texts, and these are the statement texts of the script in their order. None of
them is blank, so that each is read as a statement, in the main sequence or as a declaration.
-/

namespace TankArena.Script

open Text

/-! ## Lines that open and close blocks -/

/-- The line starts with the word FUNCTION, in whatever case, and a blank. -/
def IsOpening (l : List Char) : Prop :=
  ∃ word c rest, l = word ++ c :: rest ∧ isKeyword "FUNCTION".toList word = true ∧ isBlank c = true

/-- The line starts with the word END, in whatever case. -/
def IsClosing (l : List Char) : Prop :=
  ∃ word rest, l = word ++ rest ∧ isKeyword "END".toList word = true ∧
    ∀ c ∈ rest.head?, isWordChar c = false

variable {l : List Char}

theorem opensBlock_iff : opensBlock l = true ↔ IsOpening l := by
  constructor
  · intro h
    unfold opensBlock at h
    split at h
    · rename_i c rest hk
      obtain ⟨word, hword, rfl⟩ := afterKeyword?_eq_some hk
      exact ⟨word, c, rest, rfl, hword, h⟩
    · cases h
  · rintro ⟨word, c, rest, rfl, hword, hc⟩
    rw [opensBlock, afterKeyword?_append _ hword]
    exact hc

theorem opensBlock_eq_false_iff : opensBlock l = false ↔ ¬ IsOpening l := by
  rw [← opensBlock_iff, Bool.not_eq_true]

theorem closesBlock_iff : closesBlock l = true ↔ IsClosing l := by
  constructor
  · intro h
    unfold closesBlock at h
    split at h
    · rename_i c rest hk
      obtain ⟨word, hword, rfl⟩ := afterKeyword?_eq_some hk
      refine ⟨word, c :: rest, rfl, hword, fun d hd => ?_⟩
      cases hd
      simpa using h
    · rename_i hk
      obtain ⟨word, hword, rfl⟩ := afterKeyword?_eq_some hk
      exact ⟨word, [], rfl, hword, fun c hc => by cases hc⟩
    · cases h
  · rintro ⟨word, rest, rfl, hword, hrest⟩
    rw [closesBlock, afterKeyword?_append _ hword]
    cases rest with
    | nil => rfl
    | cons c rest =>
        have hc := hrest c rfl
        simp only [hc, Bool.not_false]

theorem closesBlock_eq_false_iff : closesBlock l = false ↔ ¬ IsClosing l := by
  rw [← closesBlock_iff, Bool.not_eq_true]

/-! ## Segments -/

/-- An ordinary line, or a block with the line that closes it, if there is one. -/
inductive Segment
  | line (text : List Char)
  | block (header : List Char) (body : List (List Char)) (closing? : Option (List Char))
  deriving DecidableEq

def Segment.lines : Segment → List (List Char)
  | .line text => [text]
  | .block header body closing? => header :: (body ++ closing?.toList)

/-- The statement texts of a segment: whatever stands between the semicolons of a line, or the whole
block with an END of its own. -/
def Segment.texts : Segment → List (List Char)
  | .line text => (((text.splitOn ';').map trim).filter (· ≠ [])).map (· ++ [';'])
  | .block header body _ => [['\n'].intercalate (header :: (body ++ ["END".toList]))]

/-- A row of segments as a script has it: an ordinary line opens no block, a block goes on up to the
first line that closes it, and only the last one can stand open. -/
inductive Segmented : List Segment → Prop
  | nil : Segmented []
  | line {text segs} : ¬ IsOpening text → Segmented segs → Segmented (.line text :: segs)
  | block {header body closing segs} : IsOpening header → (∀ l ∈ body, ¬ IsClosing l) →
      IsClosing closing → Segmented segs → Segmented (.block header body (some closing) :: segs)
  | unclosed {header body} : IsOpening header → (∀ l ∈ body, ¬ IsClosing l) →
      Segmented [.block header body none]

variable {header closing : List Char} {ls body : List (List Char)} {segs segs' : List Segment}

theorem flatMap_lines_block (header closing : List Char) (body : List (List Char))
    (segs : List Segment) :
    (Segment.block header body (some closing) :: segs).flatMap Segment.lines =
      header :: (body ++ closing :: segs.flatMap Segment.lines) := by
  simp only [List.flatMap_cons, Segment.lines, Option.toList_some, List.cons_append,
    List.append_assoc, List.nil_append]

theorem flatMap_lines_unclosed (header : List Char) (body : List (List Char)) :
    [Segment.block header body none].flatMap Segment.lines = header :: body := by
  simp only [List.flatMap_cons, List.flatMap_nil, Segment.lines, Option.toList_none,
    List.append_nil]

theorem exists_segmented (ls : List (List Char)) :
    ∃ segs, Segmented segs ∧ segs.flatMap Segment.lines = ls := by
  induction ls using blocks_induction with
  | nil => exact ⟨[], .nil, rfl⟩
  | line l ls hl ih =>
      obtain ⟨segs, hsegs, rfl⟩ := ih
      exact ⟨.line l :: segs, .line (opensBlock_eq_false_iff.mp hl) hsegs, rfl⟩
  | block header body closing ls hopen hbody hclose ih =>
      obtain ⟨segs, hsegs, rfl⟩ := ih
      refine ⟨.block header body (some closing) :: segs, ?_, flatMap_lines_block _ _ _ _⟩
      exact .block (opensBlock_iff.mp hopen)
        (fun l hl => closesBlock_eq_false_iff.mp (hbody l hl)) (closesBlock_iff.mp hclose) hsegs
  | unclosed header body hopen hbody =>
      refine ⟨[.block header body none], ?_, flatMap_lines_unclosed _ _⟩
      exact .unclosed (opensBlock_iff.mp hopen)
        fun l hl => closesBlock_eq_false_iff.mp (hbody l hl)

/-- The first line that closes a block stands at one place. -/
theorem append_closing_inj {us vs us' vs' : List (List Char)} {e e' : List Char}
    (hus : ∀ l ∈ us, ¬ IsClosing l) (he : IsClosing e) (hus' : ∀ l ∈ us', ¬ IsClosing l)
    (he' : IsClosing e') (h : us ++ e :: vs = us' ++ e' :: vs') : us = us' ∧ e = e' ∧ vs = vs' := by
  have huntil {us vs : List (List Char)} {e : List Char} (hus : ∀ l ∈ us, ¬ IsClosing l)
      (he : IsClosing e) : untilClose (us ++ e :: vs) = us := by
    rw [untilClose_append fun l hl => closesBlock_eq_false_iff.mpr (hus l hl),
      untilClose_close (closesBlock_iff.mpr he), List.append_nil]
  obtain rfl : us = us' := by rw [← huntil hus he, h, huntil hus' he']
  obtain ⟨rfl, rfl⟩ := List.cons.inj (List.append_cancel_left h)
  exact ⟨rfl, rfl, rfl⟩

theorem Segmented.of_line (h : Segmented segs) (hl : ¬ IsOpening l)
    (heq : segs.flatMap Segment.lines = l :: ls) :
    ∃ rest, segs = .line l :: rest ∧ Segmented rest ∧ rest.flatMap Segment.lines = ls := by
  cases h with
  | nil => cases heq
  | line _ hrest =>
      obtain ⟨rfl, rfl⟩ := List.cons.inj heq
      exact ⟨_, rfl, hrest, rfl⟩
  | block hopen _ _ _ =>
      obtain ⟨rfl, -⟩ := List.cons.inj heq
      exact absurd hopen hl
  | unclosed hopen _ =>
      obtain ⟨rfl, -⟩ := List.cons.inj heq
      exact absurd hopen hl

theorem Segmented.of_block (h : Segmented segs) (hopen : IsOpening header)
    (hbody : ∀ l ∈ body, ¬ IsClosing l) (hclose : IsClosing closing)
    (heq : segs.flatMap Segment.lines = header :: (body ++ closing :: ls)) :
    ∃ rest, segs = .block header body (some closing) :: rest ∧ Segmented rest ∧
      rest.flatMap Segment.lines = ls := by
  cases h with
  | nil => cases heq
  | line hline _ =>
      obtain ⟨rfl, -⟩ := List.cons.inj heq
      exact absurd hopen hline
  | @block _ body' closing' segs _ hbody' hclose' hrest =>
      rw [flatMap_lines_block] at heq
      obtain ⟨rfl, htail⟩ := List.cons.inj heq
      obtain ⟨rfl, rfl, rfl⟩ := append_closing_inj hbody' hclose' hbody hclose htail
      exact ⟨segs, rfl, hrest, rfl⟩
  | unclosed _ hbody' =>
      rw [flatMap_lines_unclosed] at heq
      obtain ⟨rfl, rfl⟩ := List.cons.inj heq
      exact absurd hclose (hbody' closing (by simp))

theorem Segmented.of_unclosed (h : Segmented segs) (hopen : IsOpening header)
    (hbody : ∀ l ∈ body, ¬ IsClosing l) (heq : segs.flatMap Segment.lines = header :: body) :
    segs = [.block header body none] := by
  cases h with
  | nil => cases heq
  | line hline _ =>
      obtain ⟨rfl, -⟩ := List.cons.inj heq
      exact absurd hopen hline
  | @block _ body' closing' segs _ _ hclose' _ =>
      rw [flatMap_lines_block] at heq
      obtain ⟨rfl, rfl⟩ := List.cons.inj heq
      exact absurd hclose' (hbody closing' (by simp))
  | unclosed _ _ =>
      rw [flatMap_lines_unclosed] at heq
      obtain ⟨rfl, rfl⟩ := List.cons.inj heq
      rfl

theorem Segmented.unique (h : Segmented segs) (h' : Segmented segs')
    (heq : segs'.flatMap Segment.lines = segs.flatMap Segment.lines) : segs' = segs := by
  induction h generalizing segs' with
  | nil =>
      cases h' with
      | nil => rfl
      | line => cases heq
      | block => cases heq
      | unclosed => cases heq
  | line hline _ ih =>
      obtain ⟨rest, rfl, hrest, htail⟩ := h'.of_line hline heq
      rw [ih hrest htail]
  | block hopen hbody hclose _ ih =>
      obtain ⟨rest, rfl, hrest, htail⟩ :=
        h'.of_block hopen hbody hclose (heq.trans (flatMap_lines_block _ _ _ _))
      rw [ih hrest htail]
  | unclosed hopen hbody =>
      exact h'.of_unclosed hopen hbody (heq.trans (flatMap_lines_unclosed _ _))

/-- The statement texts of a script are those of its segments. -/
theorem Segmented.cutOutside_eq (h : Segmented segs) :
    cutOutside (segs.flatMap Segment.lines) = segs.flatMap Segment.texts := by
  induction h with
  | nil => rfl
  | @line text segs hline _ ih =>
      have hopen : ¬ opensBlock text = true := fun h => hline (opensBlock_iff.mp h)
      have hlines : (Segment.line text :: segs).flatMap Segment.lines =
          text :: segs.flatMap Segment.lines := rfl
      rw [hlines, cutOutside, if_neg hopen, ih]
      rfl
  | @block header body closing segs hopen hbody hclose _ ih =>
      rw [flatMap_lines_block, cutOutside_block (opensBlock_iff.mpr hopen)
        (fun l hl => closesBlock_eq_false_iff.mpr (hbody l hl)) (closesBlock_iff.mpr hclose), ih]
      rfl
  | @unclosed header body hopen hbody =>
      rw [flatMap_lines_unclosed, cutOutside_unclosed (opensBlock_iff.mpr hopen)
        fun l hl => closesBlock_eq_false_iff.mpr (hbody l hl)]
      rfl

/-! ## Statement texts -/

def isDeclaration (room : Nat) (text : String) : Bool :=
  match Stmt.parse room text with
  | .ok (some (.function ..)) => true
  | _ => false

variable {room : Nat}

theorem IsToken.trim_ne_nil {t : List Char} (h : IsToken t) : trim t ≠ [] := by
  cases h with
  | line _ _ _ => exact trim_ne_nil_of_mem (c := ';') (by simp) (by decide)
  | @block header body hopen =>
      obtain ⟨c, u, rfl, hc⟩ := exists_cons_of_opensBlock hopen
      obtain ⟨r, hr⟩ := blockText_cons c u body
      rw [hr]
      exact trim_ne_nil_of_mem List.mem_cons_self (isBlank_of_capital hc (by decide))

theorem Stmt.parse_of_trim_ne_nil {t : List Char} (h : trim t ≠ []) :
    Stmt.parse room (String.ofList t) = (Stmt.read room t).map some := by
  rw [Stmt.parse, String.toList_ofList, if_neg h]

theorem isDeclaration_of_read {t : List Char} {s : Stmt} (h : trim t ≠ [])
    (hs : Stmt.read room t = .ok s) :
    isDeclaration room (String.ofList t) = s.declared?.isSome := by
  have hparse : Stmt.parse room (String.ofList t) = .ok (some s) := by
    rw [Stmt.parse_of_trim_ne_nil h, hs]
    rfl
  rw [isDeclaration, hparse]
  cases s <;> rfl

theorem length_main_add_countP {ts : List (List Char)} {rs : List Stmt}
    (h : ts.mapM (Stmt.read room) = .ok rs) (hts : ∀ t ∈ ts, trim t ≠ []) :
    (Program.ofStmts rs).main.length + (ts.map String.ofList).countP (isDeclaration room) =
      ts.length := by
  induction ts generalizing rs with
  | nil =>
      cases h
      rfl
  | cons t ts ih =>
      obtain ⟨ht, hts⟩ := List.forall_mem_cons.mp hts
      obtain ⟨s, rest, hread, hrest, rfl⟩ := mapM_cons_eq_ok_iff.mp h
      have hcount := ih hrest hts
      have hs := isDeclaration_of_read ht hread
      simp only [Program.ofStmts] at hcount ⊢
      rw [List.map_cons, List.length_cons]
      cases hd : s.declared? with
      | none =>
          rw [hd] at hs
          rw [List.filter_cons_of_pos (by simp [hd]), List.length_cons,
            List.countP_cons_of_neg (by simp [hs])]
          omega
      | some d =>
          rw [hd] at hs
          rw [List.filter_cons_of_neg (by simp [hd]), List.countP_cons_of_pos (by simp [hs])]
          omega

/-- The code lines of a script are cut into ordinary lines and blocks in exactly one way, and the
statement texts are those of the segments in their order: the parts of a line, and one text for a
block. None is blank, so each holds a statement, which goes to the main sequence unless it declares
a function. -/
theorem tokenize_segments (room : Nat) (source : String) :
    (∃! segs, Segmented segs ∧ segs.flatMap Segment.lines = codeOf source.toList) ∧
    (∀ segs, Segmented segs → segs.flatMap Segment.lines = codeOf source.toList →
      tokenize source = (segs.flatMap Segment.texts).map String.ofList) ∧
    (∀ text ∈ tokenize source, trim text.toList ≠ [] ∧ Stmt.parse room text ≠ .ok none) ∧
    ∀ p, Program.parse room source = .ok p →
      p.main.length + (tokenize source).countP (isDeclaration room) = (tokenize source).length := by
  have hsolid : ∀ t ∈ tokensOf (lines source.toList), trim t ≠ [] := fun t ht =>
    (isToken_of_mem_tokensOf (fun l hl => newline_notMem_of_mem_lines hl) ht).trim_ne_nil
  refine ⟨?_, ?_, ?_, ?_⟩
  · obtain ⟨segs, hsegs, hlines⟩ := exists_segmented (codeOf source.toList)
    refine ⟨segs, ⟨hsegs, hlines⟩, ?_⟩
    rintro segs' ⟨hsegs', hlines'⟩
    exact hsegs.unique hsegs' (hlines'.trans hlines.symm)
  · intro segs hsegs hlines
    rw [← hsegs.cutOutside_eq, hlines]
    rfl
  · intro text htext
    obtain ⟨t, ht, rfl⟩ := List.mem_map.mp htext
    have hne := hsolid t ht
    refine ⟨by rwa [String.toList_ofList], ?_⟩
    rw [Stmt.parse_of_trim_ne_nil hne]
    cases Stmt.read room t <;> simp [Except.map]
  · intro p hp
    obtain ⟨rs, hrs, rfl⟩ := parse_eq_ok_iff.mp hp
    have hcount := length_main_add_countP hrs hsolid
    rw [tokenize, List.length_map]
    exact hcount

/-- A block with END in small letters, a line of two statements with nothing between two semicolons,
and a block at the end that is left open. -/
theorem tokenize_segments_open :
    let source := "Function F:\n  attack; // fire\nend ;\nA = 1;; TURN LEFT\nFUNCTION G:\nENDING;"
    let segs := [Segment.block "Function F:".toList ["attack;".toList] (some "end ;".toList),
      .line "A = 1;; TURN LEFT".toList, .block "FUNCTION G:".toList ["ENDING;".toList] none]
    ∃ p, Program.parse 2 source = .ok p ∧ Segmented segs ∧
      segs.flatMap Segment.lines = codeOf source.toList ∧
      tokenize source =
        ["Function F:\nattack;\nEND", "A = 1;", "TURN LEFT;", "FUNCTION G:\nENDING;\nEND"] ∧
      p.main.length = 2 ∧ (tokenize source).countP (isDeclaration 2) = 2 := by
  intro source segs
  let p : Program :=
    { main := [.assign "A" (.literal 1), .turn .left]
      functions := .ofList [("F", [.attack]), ("G", [.noop])] }
  have hp : Program.parse 2 source = .ok p := parse_eq_ok_of_toOption (by decide +kernel)
  have hbody {l : List Char} (h : closesBlock l = false) : ∀ m ∈ [l], ¬ IsClosing m :=
    List.forall_mem_singleton.mpr (closesBlock_eq_false_iff.mp h)
  have hsegs : Segmented segs :=
    .block (opensBlock_iff.mp (by decide)) (hbody (by decide)) (closesBlock_iff.mp (by decide)) <|
      .line (opensBlock_eq_false_iff.mp (by decide)) <|
        .unclosed (opensBlock_iff.mp (by decide)) (hbody (by decide))
  have hlines : segs.flatMap Segment.lines = codeOf source.toList := by decide +kernel
  obtain ⟨-, htexts, -, hlength⟩ := tokenize_segments 2 source
  have htokens : tokenize source =
      ["Function F:\nattack;\nEND", "A = 1;", "TURN LEFT;", "FUNCTION G:\nENDING;\nEND"] := by
    rw [htexts segs hsegs hlines]
    decide +kernel
  have hcount := hlength p hp
  refine ⟨p, hp, hsegs, hlines, htokens, rfl, ?_⟩
  have hmain : p.main.length = 2 := rfl
  have htotal : (tokenize source).length = 4 := by rw [htokens]; rfl
  omega

end TankArena.Script
