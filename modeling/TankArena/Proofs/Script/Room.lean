import TankArena.Proofs.Script.Shape

/-!
# The room that reading takes

A block is read with the texts inside it, so readings stand inside one another. A text that is nested
deeper than there is room for is not read; any other is read, or fails, as with all room there is.
-/

namespace TankArena.Script

open Text

variable {α β γ ε : Type} {f g : α → Except ε β} {l : List α} {e : ε}

/-! ## Reading one after the other -/

theorem map_eq_error_iff {f : α → β} {x : Except ε α} : x.map f = .error e ↔ x = .error e := by
  cases x <;> simp [Except.map]

theorem mapM_cases (f : α → Except ε β) (l : List α) :
    (∃ e, l.mapM f = .error e ∧ ∃ a ∈ l, f a = .error e) ∨
    ∃ r, l.mapM f = .ok r ∧ ∀ a ∈ l, ∃ b, f a = .ok b := by
  induction l with
  | nil => exact .inr ⟨[], rfl, fun a ha => (List.not_mem_nil ha).elim⟩
  | cons a l ih =>
      rw [List.mapM_cons]
      cases ha : f a with
      | error e => exact .inl ⟨e, rfl, a, List.mem_cons_self, ha⟩
      | ok b =>
          rcases ih with ⟨e, hl, a', ha', hf⟩ | ⟨r, hl, hall⟩
          · rw [hl]
            exact .inl ⟨e, rfl, a', List.mem_cons_of_mem a ha', hf⟩
          · rw [hl]
            exact .inr ⟨b :: r, rfl, List.forall_mem_cons.mpr ⟨⟨b, ha⟩, hall⟩⟩

theorem exists_of_map_mapM_eq_error {g : List β → γ} (h : (l.mapM f).map g = .error e) :
    ∃ a ∈ l, f a = .error e := by
  rcases mapM_cases f l with ⟨e', hl, a, ha, hf⟩ | ⟨r, hl, -⟩
  · rw [hl] at h
    cases h
    exact ⟨a, ha, hf⟩
  · rw [hl] at h
    cases h

theorem exists_of_map_mapM_eq_ok {g : List β → γ} {b : γ} (h : (l.mapM f).map g = .ok b) {a : α}
    (ha : a ∈ l) : ∃ b, f a = .ok b := by
  rcases mapM_cases f l with ⟨e, hl, -⟩ | ⟨r, hl, hall⟩
  · rw [hl] at h
    cases h
  · exact hall a ha

/-- What differs only where there is one error gives the same unless that error comes out. -/
theorem mapM_eq_of_ne_error (h : l.mapM f ≠ .error e)
    (hfg : ∀ a ∈ l, f a ≠ .error e → g a = f a) : l.mapM g = l.mapM f := by
  induction l with
  | nil => rfl
  | cons a l ih =>
      obtain ⟨ha, hl⟩ := List.forall_mem_cons.mp hfg
      rw [List.mapM_cons] at h ⊢
      rw [List.mapM_cons]
      cases hf : f a with
      | error e' =>
          have hne : f a ≠ .error e := fun ha => h (by rw [ha]; rfl)
          rw [ha hne, hf]
          rfl
      | ok b =>
          have htail : l.mapM f ≠ .error e := fun hl => h (by rw [hf, hl]; rfl)
          rw [ha (by rw [hf]; rintro ⟨⟩), hf, ih htail hl]

/-! ## More room -/

variable {room room' : Nat} {token t : List Char}

/-- Reading `token` reads `t` on the way: `token` is a block and `t` a statement text inside it. -/
def ReadsInside (token t : List Char) : Prop :=
  ∃ name inner, block? (withoutTerminator token) = some (name, inner) ∧ t ∈ tokensOf inner

/-- The text has more texts inside one another than there is room for, itself among them. -/
inductive TooDeep : (room : Nat) → (token : List Char) → Prop
  | noRoom {token : List Char} : TooDeep 0 token
  | inner {room : Nat} {token t : List Char} : ReadsInside token t → TooDeep room t →
      TooDeep (room + 1) token

theorem TooDeep.of_le (h : TooDeep room token) (hle : room' ≤ room) : TooDeep room' token := by
  induction h generalizing room' with
  | noRoom => rw [Nat.le_zero.mp hle]; exact .noRoom
  | inner hinside _ ih =>
      cases room' with
      | zero => exact .noRoom
      | succ room' => exact .inner hinside (ih (Nat.le_of_succ_le_succ hle))

/-- By induction on the room: the texts inside a block have one place less. -/
theorem Stmt.read_of_le (h : Stmt.read room token ≠ .error .tooDeep) (hle : room ≤ room') :
    Stmt.read room' token = Stmt.read room token := by
  induction room generalizing token room' with
  | zero => exact absurd rfl h
  | succ room ih =>
      obtain ⟨room', rfl⟩ := Nat.exists_eq_add_of_lt hle
      rw [show room + room' + 1 = (room + room') + 1 from rfl]
      cases hblock : block? (withoutTerminator token) with
      | none => rw [Stmt.read_of_not_block? hblock, Stmt.read_of_not_block? hblock]
      | some b =>
          rw [Stmt.read_of_block? hblock] at h ⊢
          rw [Stmt.read_of_block? hblock]
          refine congrArg (Except.map _) (mapM_eq_of_ne_error (fun he => h ?_) fun t _ ht =>
            ih ht (Nat.le_add_right room room'))
          rw [he]
          rfl

theorem Stmt.read_ok_of_le {s : Stmt} (h : Stmt.read room token = .ok s) (hle : room ≤ room') :
    Stmt.read room' token = .ok s :=
  (Stmt.read_of_le (by rw [h]; rintro ⟨⟩) hle).trans h

theorem Program.ofChars_of_le {source : List Char}
    (h : Program.ofChars room source ≠ .error .tooDeep) (hle : room ≤ room') :
    Program.ofChars room' source = Program.ofChars room source := by
  refine congrArg (Except.map _) (mapM_eq_of_ne_error (fun he => h ?_) fun t _ ht =>
    Stmt.read_of_le ht hle)
  rw [Program.ofChars, he]
  rfl

/-- With less room a script is the same program or fails in the same way, unless it is too deep. -/
theorem Program.parse_eq_or_tooDeep (source : String) (hle : room ≤ room') :
    Program.parse room source = Program.parse room' source ∨
      Program.parse room source = .error .tooDeep := by
  by_cases h : Program.parse room source = .error .tooDeep
  · exact .inr h
  · exact .inl (Program.ofChars_of_le h hle).symm

theorem Program.parse_of_le {source : String} {p : Program}
    (h : Program.parse room source = .ok p) (hle : room ≤ room') :
    Program.parse room' source = .ok p := by
  rcases Program.parse_eq_or_tooDeep source hle with heq | hdeep
  · exact heq.symm.trans h
  · rw [h] at hdeep
    cases hdeep

end TankArena.Script
