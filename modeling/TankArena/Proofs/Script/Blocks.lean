import TankArena.Proofs.Script.RoundTrip

/-!
# The blocks of a script

The code lines of every script fall into ordinary lines and function blocks, of which the last may be
left open: `blocks_induction`. Where all blocks are closed, the lines that follow are cut as if they
stood alone. A block is read as a function if its header is well formed, and declares nothing if it is
not.
-/

namespace TankArena.Script

open Text

/-! ## Code lines are left alone -/

theorem not_infix_cutComment (t : List Char) : ¬ ['/', '/'] <:+: cutComment t := by
  fun_induction cutComment t with
  | case1 t => simp
  | case2 c t hne ih =>
      rw [List.infix_cons_iff, not_or]
      refine ⟨?_, ih⟩
      rintro ⟨r, hr⟩
      obtain ⟨rfl, hrest⟩ := List.cons.inj hr
      -- What is left of a line starts as the line does.
      cases t with
      | nil => cases hrest
      | cons d t =>
          by_cases hd : d = '/'
          · exact hne t rfl (by rw [hd])
          · have hcut : cutComment (d :: t) = d :: cutComment t := by
              rw [cutComment]
              rintro r rfl
              exact absurd rfl hd
            rw [hcut] at hrest
            exact hd (List.cons.inj hrest).1.symm
  | case3 => simp

theorem cutComment_of_not_infix {t : List Char} (h : ¬ ['/', '/'] <:+: t) : cutComment t = t := by
  fun_induction cutComment t with
  | case1 t => exact absurd (List.prefix_append ['/', '/'] t).isInfix h
  | case2 c t _ ih => rw [ih fun hin => h (List.infix_cons hin)]
  | case3 => rfl

theorem isCode_of_mem_codeOf {t l : List Char} (h : l ∈ codeOf t) : IsCode l := by
  have hline := newline_notMem_of_mem_codeLines (fun m hm => newline_notMem_of_mem_lines hm) l h
  obtain ⟨hl, hne⟩ := List.mem_filter.mp h
  obtain ⟨m, -, rfl⟩ := List.mem_map.mp hl
  refine ⟨isTidy_trim (by simpa using hne), hline, cutComment_of_not_infix fun hin => ?_⟩
  obtain ⟨a, b, hab, -, -⟩ := exists_trim_eq (cutComment m)
  exact not_infix_cutComment m (hin.trans ⟨a, b, hab.symm⟩)

/-! ## Cutting lines into blocks -/

theorem closesBlock_of_opensBlock {l : List Char} (h : opensBlock l = true) :
    closesBlock l = false := by
  obtain ⟨c, t, rfl, hc⟩ := exists_cons_of_opensBlock h
  exact closesBlock_of_head rfl (by rw [hc]; decide)

/-- The lines before the first that closes a block. -/
def untilClose (ls : List (List Char)) : List (List Char) := ls.takeWhile (!closesBlock ·)

/-- The lines after the first that closes a block. -/
def afterClose (ls : List (List Char)) : List (List Char) := (ls.dropWhile (!closesBlock ·)).tail

theorem untilClose_append {us : List (List Char)} (h : ∀ l ∈ us, closesBlock l = false)
    (vs : List (List Char)) : untilClose (us ++ vs) = us ++ untilClose vs :=
  List.takeWhile_append_of_pos fun l hl => by simp [h l hl]

theorem afterClose_append {us : List (List Char)} (h : ∀ l ∈ us, closesBlock l = false)
    (vs : List (List Char)) : afterClose (us ++ vs) = afterClose vs := by
  rw [afterClose, List.dropWhile_append_of_pos fun l hl => by simp [h l hl], afterClose]

theorem untilClose_close {e : List Char} (h : closesBlock e = true) (ls : List (List Char)) :
    untilClose (e :: ls) = [] :=
  List.takeWhile_cons_of_neg (by simp [h])

theorem afterClose_close {e : List Char} (h : closesBlock e = true) (ls : List (List Char)) :
    afterClose (e :: ls) = ls := by
  rw [afterClose, List.dropWhile_cons_of_neg (by simp [h]), List.tail_cons]

theorem untilClose_cons {l : List Char} (h : closesBlock l = false) (ls : List (List Char)) :
    untilClose (l :: ls) = l :: untilClose ls :=
  List.takeWhile_cons_of_pos (by simp [h])

theorem afterClose_cons {l : List Char} (h : closesBlock l = false) (ls : List (List Char)) :
    afterClose (l :: ls) = afterClose ls := by
  rw [afterClose, List.dropWhile_cons_of_pos (by simp [h]), afterClose]

theorem untilClose_sublist (ls : List (List Char)) : (untilClose ls).Sublist ls :=
  List.takeWhile_sublist _

theorem afterClose_sublist (ls : List (List Char)) : (afterClose ls).Sublist ls :=
  (List.tail_sublist _).trans (List.dropWhile_sublist _)

theorem closesBlock_of_mem_untilClose {ls : List (List Char)} :
    ∀ l ∈ untilClose ls, closesBlock l = false := by
  intro l hl
  simpa using List.all_eq_true.mp List.all_takeWhile l hl

/-- A block goes on up to the first line that closes it. -/
theorem cutInside_eq (header : List Char) (body ls : List (List Char)) :
    cutInside header body ls =
      blockText header (body.reverse ++ untilClose ls) :: cutOutside (afterClose ls) := by
  induction ls generalizing body with
  | nil => simp [cutInside, cutOutside, untilClose, afterClose]
  | cons l ls ih =>
      rw [cutInside]
      cases hl : closesBlock l with
      | true => rw [if_pos rfl, untilClose_close hl, afterClose_close hl, List.append_nil]
      | false =>
          rw [if_neg Bool.false_ne_true, ih, untilClose_cons hl, afterClose_cons hl]
          simp

/-- Every list of lines is a row of ordinary lines and closed blocks, at the end of which a block may
stand open. -/
theorem blocks_induction {P : List (List Char) → Prop} (nil : P [])
    (line : ∀ l ls, opensBlock l = false → P ls → P (l :: ls))
    (block : ∀ header body e ls, opensBlock header = true → (∀ l ∈ body, closesBlock l = false) →
      closesBlock e = true → P ls → P (header :: (body ++ e :: ls)))
    (unclosed : ∀ header body, opensBlock header = true → (∀ l ∈ body, closesBlock l = false) →
      P (header :: body))
    (ls : List (List Char)) : P ls := by
  induction hn : ls.length using Nat.strongRecOn generalizing ls with
  | ind n ih =>
      cases ls with
      | nil => exact nil
      | cons l ls =>
          rw [List.length_cons] at hn
          cases hl : opensBlock l with
          | false => exact line l ls hl (ih ls.length (by omega) ls rfl)
          | true =>
              cases hf : ls.find? closesBlock with
              | none => exact unclosed l ls hl (by simpa using hf)
              | some e =>
                  obtain ⟨he, body, rest, rfl, hbody⟩ := List.find?_eq_some_iff_append.mp hf
                  rw [List.length_append, List.length_cons] at hn
                  exact block l body e rest hl (by simpa using hbody) he
                    (ih rest.length (by omega) rest rfl)

/-- Lines in which every block is closed. -/
inductive BlocksClosed : List (List Char) → Prop
  | nil : BlocksClosed []
  | line {l ls} : opensBlock l = false → BlocksClosed ls → BlocksClosed (l :: ls)
  | block {header body e ls} : opensBlock header = true → (∀ l ∈ body, closesBlock l = false) →
      closesBlock e = true → BlocksClosed ls → BlocksClosed (header :: (body ++ e :: ls))

theorem cutOutside_block {header e : List Char} {body ls : List (List Char)}
    (hopen : opensBlock header = true) (hbody : ∀ l ∈ body, closesBlock l = false)
    (he : closesBlock e = true) :
    cutOutside (header :: (body ++ e :: ls)) = blockText header body :: cutOutside ls := by
  rw [cutOutside, if_pos hopen, cutInside_closed hbody he]
  rfl

theorem cutOutside_unclosed {header : List Char} {body : List (List Char)}
    (hopen : opensBlock header = true) (hbody : ∀ l ∈ body, closesBlock l = false) :
    cutOutside (header :: body) = [blockText header body] := by
  rw [cutOutside, if_pos hopen, cutInside_open hbody]
  rfl

theorem BlocksClosed.cutOutside_append {us : List (List Char)} (h : BlocksClosed us)
    (vs : List (List Char)) : cutOutside (us ++ vs) = cutOutside us ++ cutOutside vs := by
  induction h with
  | nil => simp [cutOutside]
  | line hl _ ih =>
      rw [List.cons_append, cutOutside, if_neg (by simp [hl]), ih, cutOutside, if_neg (by simp [hl]),
        List.append_assoc]
  | block hopen hbody he _ ih =>
      rw [List.cons_append, List.append_assoc, List.cons_append, cutOutside_block hopen hbody he, ih,
        cutOutside_block hopen hbody he, List.cons_append]

/-- A block stands open from `header` on. -/
structure OpenAt (before : List (List Char)) (header : List Char) (body : List (List Char)) :
    Prop where
  closed : BlocksClosed before
  opens : opensBlock header = true
  unclosed : ∀ l ∈ body, closesBlock l = false

theorem blocksClosed_or_open (ls : List (List Char)) :
    BlocksClosed ls ∨
      ∃ before header body, ls = before ++ header :: body ∧ OpenAt before header body := by
  induction ls using blocks_induction with
  | nil => exact .inl .nil
  | line l ls hl ih =>
      refine ih.imp (.line hl) ?_
      rintro ⟨before, header, body, rfl, hat⟩
      exact ⟨l :: before, header, body, rfl, .line hl hat.closed, hat.opens, hat.unclosed⟩
  | block h b e ls hopen hbody he ih =>
      refine ih.imp (.block hopen hbody he) ?_
      rintro ⟨before, header, body, rfl, hat⟩
      refine ⟨h :: (b ++ e :: before), header, body, by simp, ?_, hat.opens, hat.unclosed⟩
      exact .block hopen hbody he hat.closed
  | unclosed header body hopen hbody =>
      exact .inr ⟨[], header, body, rfl, .nil, hopen, hbody⟩

/-- Whether the lines end outside of any block when they start outside or inside of one. -/
def endsOutside : (inside : Bool) → List (List Char) → Bool
  | inside, [] => !inside
  | false, l :: ls => endsOutside (opensBlock l) ls
  | true, l :: ls => endsOutside (!closesBlock l) ls

theorem endsOutside_inside {body : List (List Char)} (h : ∀ l ∈ body, closesBlock l = false)
    (ls : List (List Char)) : endsOutside true (body ++ ls) = endsOutside true ls := by
  induction body with
  | nil => rfl
  | cons l body ih =>
      obtain ⟨hl, hbody⟩ := List.forall_mem_cons.mp h
      rw [List.cons_append, endsOutside, hl, Bool.not_false, ih hbody]

theorem BlocksClosed.endsOutside_append {us : List (List Char)} (h : BlocksClosed us)
    (vs : List (List Char)) : endsOutside false (us ++ vs) = endsOutside false vs := by
  induction h with
  | nil => rfl
  | line hl _ ih => rw [List.cons_append, endsOutside, hl, ih]
  | block hopen hbody he _ ih =>
      rw [List.cons_append, List.append_assoc, endsOutside, hopen, endsOutside_inside hbody,
        List.cons_append, endsOutside, he, Bool.not_true, ih]

theorem blocksClosed_iff (ls : List (List Char)) : BlocksClosed ls ↔ endsOutside false ls = true := by
  constructor
  · intro h
    have := h.endsOutside_append []
    rwa [List.append_nil] at this
  · intro h
    rcases blocksClosed_or_open ls with hclosed | ⟨before, header, body, rfl, hat⟩
    · exact hclosed
    · have hinside := endsOutside_inside hat.unclosed []
      rw [hat.closed.endsOutside_append, endsOutside, hat.opens] at h
      rw [List.append_nil, h] at hinside
      cases hinside

instance : DecidablePred BlocksClosed := fun ls => decidable_of_iff _ (blocksClosed_iff ls).symm

/-! ## Reading blocks -/

theorem mapM_append_eq_ok_iff {α β ε : Type} {f : α → Except ε β} {xs ys : List α} {rs : List β} :
    (xs ++ ys).mapM f = .ok rs ↔
      ∃ as bs, xs.mapM f = .ok as ∧ ys.mapM f = .ok bs ∧ rs = as ++ bs := by
  rw [List.mapM_append]
  cases xs.mapM f with
  | error e => simp [bind, Except.bind]
  | ok as =>
      cases ys.mapM f with
      | error e => simp [bind, Except.bind]
      | ok bs => simp [bind, Except.bind, pure, Except.pure, eq_comm]

variable {room : Nat}

theorem parse_eq_ok_iff {source : String} {p : Program} : Program.parse room source = .ok p ↔
    ∃ rs, Reads room (codeOf source.toList) rs ∧ p = .ofStmts rs := by
  have hparse : Program.parse room source =
      ((cutOutside (codeOf source.toList)).mapM (Stmt.read room)).map .ofStmts := rfl
  rw [hparse]
  unfold Reads
  cases (cutOutside (codeOf source.toList)).mapM (Stmt.read room) with
  | error e => simp [Except.map]
  | ok rs => simp [Except.map, eq_comm]

/-- A block without a well-formed header is read as one statement that declares nothing. -/
theorem exists_read_block {header : List Char} {body : List (List Char)} (hh : IsCode header)
    (hb : ∀ l ∈ body, IsCode l) (hopen : opensBlock header = true) (hname : headerName? header = none) :
    ∃ s, Stmt.read (room + 1) (blockText header body) = .ok s ∧ s.declared? = none := by
  have hok : ∃ s, readPlain (blockText header body) = .ok s := by
    cases ha : assignment? (blockText header body) with
    | some a => exact ⟨.assign (String.ofList a.1) (.ofChars a.2), by rw [readPlain, ha]⟩
    | none =>
        obtain ⟨c, t, rfl, hc⟩ := exists_cons_of_opensBlock hopen
        obtain ⟨r, hr⟩ := blockText_cons c t body
        exact ⟨.noop, readPlain_noop (by rw [hr]; rfl) ha (by rw [hc]; decide)⟩
  obtain ⟨s, hs⟩ := hok
  exact ⟨s, (read_block_of_no_name hh hb hopen hname).trans hs,
    declared?_of_isLine (readPlain_isSimple hs).isLine⟩

end TankArena.Script
