import TankArena.Proofs.Machine.Transition

/-!
# The machine evaluates a structured language

Statements and bodies have an evaluation that knows no stack and no counter. Running the machine on
a body in a frame of its own, above any other frames, comes to the end of that frame exactly where
the body can be evaluated, and with the scene of the evaluation. On the way the frames below and the
main counter stay as they are.
-/

namespace TankArena.Machine

open Arena Script Text

/-! ## Evaluation -/

mutual
/-- Evaluation of a statement. A conditional whose branch was evaluated is evaluated again. -/
inductive Runs (p : Program) : Stmt → Scene → Scene → Prop
  | done {s c c'} : Effect p c s c' → Runs p s c c'
  | call {name body c c'} : p.functions.get? name = some body →
      RunsAll p body (c.say ("CALL " ++ name)) c' → Runs p (.call name) c c'
  | again {s test yes no chosen c c₁ c₂} : s.branches? = some (test, yes, no) →
      chosenBranch (c.eval test) yes no = some chosen →
      Runs p chosen c c₁ → Runs p s c₁ c₂ → Runs p s c c₂

/-- Evaluation of a body: its statements in order. -/
inductive RunsAll (p : Program) : List Stmt → Scene → Scene → Prop
  | nil {c} : RunsAll p [] c c
  | cons {s body c c₁ c₂} : Runs p s c c₁ → RunsAll p body c₁ c₂ → RunsAll p (s :: body) c c₂
end

/-! ## Runs of the machine -/

/-- The state after a number of steps, if the machine takes that many. -/
def after? (p : Program) : Nat → State → Option State
  | 0, s => some s
  | n + 1, s =>
    match step p s with
    | .ok (some t) => after? p n t
    | _ => none

/-- The first `n` states of a run have more than `depth` frames on the stack. -/
def DeeperFor (p : Program) (depth n : Nat) (s : State) : Prop :=
  ∀ m < n, ∀ t, after? p m s = some t → depth < t.runtime.stack.length

/-- A run of `n` steps, each from a state with more than `depth` frames on the stack. -/
inductive RunAbove (p : Program) (depth : Nat) : Nat → State → State → Prop
  | refl {s} : RunAbove p depth 0 s s
  | step {n s t u} : depth < s.runtime.stack.length → Transition p s t → RunAbove p depth n t u →
      RunAbove p depth (n + 1) s u

variable {p : Program} {d n : Nat} {k : Int} {c : Scene} {f : Frame} {fs : List Frame}
  {s t u : State}

theorem after?_succ (h : Transition p s t) : after? p (n + 1) s = after? p n t := by
  simp [after?, step_eq_ok_some_iff.mpr h]

theorem exists_transition_of_after?_succ (h : after? p (n + 1) s = some u) :
    ∃ t, Transition p s t ∧ after? p n t = some u := by
  simp only [after?] at h
  split at h
  · rename_i t ht
    exact ⟨t, step_eq_ok_some_iff.mp ht, h⟩
  · cases h

theorem runAbove_iff : RunAbove p d n s t ↔ after? p n s = some t ∧ DeeperFor p d n s := by
  constructor
  · intro h
    induction h with
    | refl => exact ⟨rfl, fun m hm => absurd hm (Nat.not_lt_zero m)⟩
    | step hd htr _ ih =>
        refine ⟨(after?_succ htr).trans ih.1, fun m hm v hv => ?_⟩
        cases m with
        | zero => cases hv; exact hd
        | succ m => exact ih.2 m (Nat.lt_of_succ_lt_succ hm) v (after?_succ htr ▸ hv)
  · rintro ⟨h, hd⟩
    induction n generalizing s with
    | zero => cases h; exact .refl
    | succ n ih =>
        obtain ⟨v, htr, hv⟩ := exists_transition_of_after?_succ h
        refine .step (hd 0 (Nat.succ_pos n) s rfl) htr (ih hv fun m hm w hw => ?_)
        exact hd (m + 1) (Nat.succ_lt_succ hm) w ((after?_succ htr).trans hw)

theorem RunAbove.single (hd : d < s.runtime.stack.length) (h : Transition p s t) :
    RunAbove p d 1 s t := .step hd h .refl

theorem RunAbove.trans {m : Nat} (h : RunAbove p d m s t) (h' : RunAbove p d n t u) :
    RunAbove p d (m + n) s u := by
  induction h with
  | refl => rwa [Nat.zero_add]
  | step hd htr _ ih => rw [Nat.add_right_comm]; exact .step hd htr (ih h')

theorem RunAbove.mono {e : Nat} (hde : d ≤ e) (h : RunAbove p e n s t) : RunAbove p d n s t := by
  induction h with
  | refl => exact .refl
  | step hd htr _ ih => exact .step (Nat.lt_of_le_of_lt hde hd) htr ih

/-- A run that ends at a depth of at most `e` first comes to such a depth by a run above `e`. -/
theorem RunAbove.split {e : Nat} (h : RunAbove p d n s t) (hs : e < s.runtime.stack.length)
    (ht : t.runtime.stack.length ≤ e) :
    ∃ m₁ m₂ u, m₁ + m₂ = n ∧ RunAbove p e m₁ s u ∧ u.runtime.stack.length ≤ e ∧
      RunAbove p d m₂ u t := by
  induction h with
  | refl => omega
  | @step n s v t hd htr hrest ih =>
      by_cases hv : e < v.runtime.stack.length
      · obtain ⟨m₁, m₂, u, hm, h₁, hu, h₂⟩ := ih hv ht
        exact ⟨m₁ + 1, m₂, u, by omega, .step hs htr h₁, hu, h₂⟩
      · exact ⟨1, n, v, Nat.add_comm 1 n, .single hs htr, Nat.le_of_not_lt hv, hrest⟩

/-! ## Steps from an explicit stack -/

theorem Frame.current?_of_counter {i : Nat} (h : f.counter = i) : f.current? = f.body[i]? := by
  simp only [Frame.current?, statementAt?, h, Int.natCast_nonneg, ↓reduceIte, Int.toNat_natCast,
    Int.ofNat_le]
  split
  · rename_i hle
    exact (List.getElem?_eq_none hle).symm
  · rfl

theorem Frame.drop_eq_cons {i : Nat} {stmt : Stmt} (h : f.counter = i)
    (hs : f.current? = some stmt) : f.body.drop i = stmt :: f.body.drop (i + 1) := by
  rw [Frame.current?_of_counter h] at hs
  obtain ⟨hi, rfl⟩ := List.getElem?_eq_some_iff.mp hs
  exact List.drop_eq_getElem_cons hi

theorem transition_done {stmt : Stmt} {c' : Scene} (hs : f.current? = some stmt)
    (h : Effect p c stmt c') :
    Transition p (c.state k (f :: fs)) (c'.state k (f.next :: fs)) :=
  .next (s := c.state k (f :: fs)) hs h

theorem transition_branch {stmt yes chosen : Stmt} {test : Expr} {no : Option Stmt}
    (hs : f.current? = some stmt) (hb : stmt.branches? = some (test, yes, no))
    (hc : chosenBranch (c.eval test) yes no = some chosen) :
    Transition p (c.state k (f :: fs))
      (c.state k ({ label := branchLabel, body := [chosen] } :: f :: fs)) :=
  .branch (s := c.state k (f :: fs)) hs hb hc

theorem transition_call {name : String} {body : List Stmt} (hs : f.current? = some (.call name))
    (hb : p.functions.get? name = some body) :
    Transition p (c.state k (f :: fs))
      ((c.say ("CALL " ++ name)).state k ({ label := name, body } :: f.next :: fs)) :=
  .call (s := c.state k (f :: fs)) hs hb

theorem transition_pop (h : f.body.length ≤ f.counter) :
    Transition p (c.state k (f :: fs)) (c.state k fs) :=
  .pop (s := c.state k (f :: fs)) rfl h

/-! ## What is evaluated is run -/

mutual
theorem Runs.exists_runAbove {stmt : Stmt} {c c' : Scene} (h : Runs p stmt c c') (f : Frame)
    (fs : List Frame) (hs : f.current? = some stmt) :
    ∃ n, RunAbove p fs.length n (c.state k (f :: fs)) (c'.state k (f.next :: fs)) := by
  match h with
  | .done he => exact ⟨1, .single (Nat.lt_succ_self _) (transition_done hs he)⟩
  | @Runs.call _ name body _ _ hb hbody =>
      -- The call is over before its function starts, so the function returns behind it.
      obtain ⟨n, hn⟩ := hbody.exists_runAbove { label := name, body } (f.next :: fs) 0 rfl rfl
      exact ⟨n + 1, .step (Nat.lt_succ_self _) (transition_call hs hb) (hn.mono (Nat.le_succ _))⟩
  | @Runs.again _ _ _ _ _ chosen _ _ _ hb hc hchosen hagain =>
      let branch : Frame := { label := branchLabel, body := [chosen] }
      obtain ⟨m, hm⟩ := hchosen.exists_runAbove branch (f :: fs) rfl
      obtain ⟨n, hn⟩ := hagain.exists_runAbove f fs hs
      have hpop : branch.next.body.length ≤ branch.next.counter := Int.le_refl 1
      have hback := hm.trans (.single (Nat.lt_succ_self _) (transition_pop hpop))
      exact ⟨_, .step (Nat.lt_succ_self _) (transition_branch hs hb hc)
        ((hback.mono (Nat.le_succ _)).trans hn)⟩

theorem RunsAll.exists_runAbove {body : List Stmt} {c c' : Scene} (h : RunsAll p body c c')
    (f : Frame) (fs : List Frame) (i : Nat) (hi : f.counter = i) (hbody : f.body.drop i = body) :
    ∃ n, RunAbove p fs.length n (c.state k (f :: fs)) (c'.state k fs) := by
  match h with
  | .nil =>
      have hle : f.body.length ≤ f.counter := by
        rw [hi]; exact Int.ofNat_le.mpr (List.drop_eq_nil_iff.mp hbody)
      exact ⟨1, .single (Nat.lt_succ_self _) (transition_pop hle)⟩
  | .cons (s := stmt) hs hrest =>
      have hcur : f.current? = some stmt := by
        rw [Frame.current?_of_counter hi, ← List.head?_drop, hbody]; rfl
      have hdrop := (List.cons.inj ((Frame.drop_eq_cons hi hcur).symm.trans hbody)).2
      obtain ⟨m, hm⟩ := hs.exists_runAbove f fs hcur
      obtain ⟨n, hn⟩ := hrest.exists_runAbove f.next fs (i + 1) (by simp [Frame.next, hi]) hdrop
      exact ⟨m + n, hm.trans hn⟩
end

/-! ## What is run is evaluated -/

/-- The rules for a state whose stack is known. -/
theorem transition_cons (h : Transition p (c.state k (f :: fs)) t) :
    (f.body.length ≤ f.counter ∧ t = c.state k fs) ∨
    ∃ stmt, f.current? = some stmt ∧
      ((∃ c', Effect p c stmt c' ∧ t = c'.state k (f.next :: fs)) ∨
       (∃ test yes no chosen, stmt.branches? = some (test, yes, no) ∧
         chosenBranch (c.eval test) yes no = some chosen ∧
         t = c.state k ({ label := branchLabel, body := [chosen] } :: f :: fs)) ∨
       (∃ name body, stmt = .call name ∧ p.functions.get? name = some body ∧
         t = (c.say ("CALL " ++ name)).state k ({ label := name, body } :: f.next :: fs))) := by
  cases h with
  | next hs he => exact .inr ⟨_, hs, .inl ⟨_, he, rfl⟩⟩
  | branch hs hb hc => exact .inr ⟨_, hs, .inr (.inl ⟨_, _, _, _, hb, hc, rfl⟩)⟩
  | call hs hb => exact .inr ⟨_, hs, .inr (.inr ⟨_, _, rfl, hb, rfl⟩)⟩
  | pop hstack hle => cases hstack; exact .inl ⟨hle, rfl⟩

/-- A run that drops a frame for the first time has evaluated what was left of its body. The
induction is on the number of steps: a branch or a function takes some of them and leaves fewer. -/
theorem RunAbove.runsAll (h : RunAbove p fs.length n (c.state k (f :: fs)) t) {i : Nat}
    (hi : f.counter = i) (ht : t.runtime.stack.length ≤ fs.length) :
    ∃ c', t = c'.state k fs ∧ RunsAll p (f.body.drop i) c c' := by
  induction n using Nat.strongRecOn generalizing c f fs i t with
  | ind n ih =>
      cases h with
      | refl => exact absurd ht (Nat.not_le.mpr (Nat.lt_succ_self _))
      | @step n _ v _ _ htr hrest =>
          rcases transition_cons htr with ⟨hle, rfl⟩ | ⟨stmt, hs, hv⟩
          · -- The frame has run out, and the run ends where it is dropped.
            rw [List.drop_eq_nil_iff.mpr (Int.ofNat_le.mp (hi ▸ hle))]
            cases hrest with
            | refl => exact ⟨c, rfl, .nil⟩
            | step hd _ _ => exact absurd hd (Nat.lt_irrefl _)
          rw [Frame.drop_eq_cons hi hs]
          have hnext : f.next.counter = (i + 1 : Nat) := by simp [Frame.next, hi]
          rcases hv with ⟨c', he, rfl⟩ | ⟨test, yes, no, chosen, hb, hc, rfl⟩ |
            ⟨name, body, rfl, hb, rfl⟩
          · obtain ⟨c₂, rfl, hall⟩ := ih n (Nat.lt_succ_self n) hrest hnext ht
            exact ⟨c₂, rfl, .cons (.done he) hall⟩
          · obtain ⟨m₁, m₂, u, hm, h₁, hu, h₂⟩ := hrest.split (e := (f :: fs).length)
              (Nat.lt_succ_self _) (Nat.le_succ_of_le ht)
            obtain ⟨c₁, rfl, hbranch⟩ := ih m₁ (by omega) h₁ (i := 0) rfl hu
            obtain ⟨c₂, rfl, hall⟩ := ih m₂ (by omega) h₂ hi ht
            rw [Frame.drop_eq_cons hi hs] at hall
            cases hbranch with
            | cons hchosen hnil =>
                cases hnil
                cases hall with
                | cons hagain hall => exact ⟨c₂, rfl, .cons (.again hb hc hchosen hagain) hall⟩
          · obtain ⟨m₁, m₂, u, hm, h₁, hu, h₂⟩ := hrest.split (e := (f.next :: fs).length)
              (Nat.lt_succ_self _) (Nat.le_succ_of_le ht)
            obtain ⟨c₁, rfl, hbody⟩ := ih m₁ (by omega) h₁ (i := 0) rfl hu
            obtain ⟨c₂, rfl, hall⟩ := ih m₂ (by omega) h₂ hnext ht
            exact ⟨c₂, rfl, .cons (.call hb hbody) hall⟩

/-! ## What is below stays as it is -/

/-- The frame is on the stack, at some counter, directly above the frames `fs`. -/
def StandsOn (f : Frame) (fs stack : List Frame) : Prop :=
  ∃ upper i, stack = upper ++ { f with counter := i } :: fs

theorem StandsOn.advance (h : StandsOn f fs s.runtime.stack) :
    StandsOn f fs s.advance.runtime.stack := by
  obtain ⟨upper, i, hstack⟩ := h
  cases upper with
  | nil => exact ⟨[], i + 1, by simp [State.advance, Runtime.advance, hstack]⟩
  | cons g upper =>
      exact ⟨g.next :: upper, i, by simp [State.advance, Runtime.advance, hstack, Frame.next]⟩

theorem StandsOn.push {label : String} {body : List Stmt} (h : StandsOn f fs s.runtime.stack) :
    StandsOn f fs (s.push label body).runtime.stack := by
  obtain ⟨upper, i, hstack⟩ := h
  exact ⟨{ label, body } :: upper, i, by simp [State.push, Runtime.push, hstack]⟩

/-- A step leaves the main counter alone while a frame is on the stack. -/
theorem Transition.counter_eq (h : Transition p s t) (hs : s.runtime.stack ≠ []) :
    t.runtime.counter = s.runtime.counter := by
  obtain ⟨g, gs, hstack⟩ := List.exists_cons_of_ne_nil hs
  cases h with
  | next _ _ => simp [State.advance, Runtime.advance, State.withScene, Scene.state, hstack]
  | branch _ _ _ => rfl
  | call _ _ => simp [State.push, Runtime.push, State.say, State.advance, Runtime.advance, hstack]
  | pop _ _ => rfl

/-- A step drops the frame, or it stays where it is. -/
theorem Transition.standsOn (h : Transition p s t) (hs : StandsOn f fs s.runtime.stack) :
    t.runtime.stack = fs ∨ StandsOn f fs t.runtime.stack := by
  cases h with
  | next _ _ => exact .inr (StandsOn.advance (s := s.withScene _) hs)
  | branch _ _ _ => exact .inr hs.push
  | call _ _ => exact .inr (StandsOn.push (s := s.advance.say _) hs.advance)
  | pop hstack _ =>
      obtain ⟨upper, i, hupper⟩ := hs
      rw [hstack] at hupper
      cases upper with
      | nil => exact .inl (List.cons.inj hupper).2
      | cons g upper => exact .inr ⟨upper, i, (List.cons.inj hupper).2⟩

theorem RunAbove.standsOn (h : RunAbove p fs.length n s t) (hs : StandsOn f fs s.runtime.stack) :
    t.runtime.counter = s.runtime.counter ∧
      (t.runtime.stack = fs ∨ StandsOn f fs t.runtime.stack) := by
  induction h with
  | refl => exact ⟨rfl, .inr hs⟩
  | step hd htr hrest ih =>
      have hcounter := htr.counter_eq (List.ne_nil_of_length_pos (Nat.zero_lt_of_lt hd))
      rcases htr.standsOn hs with hv | hv
      · cases hrest with
        | refl => exact ⟨hcounter, .inl hv⟩
        | step hd' _ _ => rw [hv] at hd'; exact absurd hd' (Nat.lt_irrefl _)
      · obtain ⟨hk, ht⟩ := ih hv
        exact ⟨hk.trans hcounter, ht⟩

/-! ## The machine and the evaluation agree -/

/-- A body in a frame of its own comes to the end of the frame with a scene exactly if it evaluates
to that scene. Up to then the main counter and the frames below are the same in every state. -/
theorem first_pop_iff_runsAll (p : Program) (fs : List Frame) (label : String) (body : List Stmt)
    (k : Int) (c c' : Scene) :
    ((∃ n t, after? p n (c.state k ({ label, body } :: fs)) = some t ∧
        DeeperFor p fs.length n (c.state k ({ label, body } :: fs)) ∧
        t.runtime.stack.length ≤ fs.length ∧ t.scene = c') ↔ RunsAll p body c c') ∧
    ∀ n t, after? p n (c.state k ({ label, body } :: fs)) = some t →
      DeeperFor p fs.length n (c.state k ({ label, body } :: fs)) →
      t.runtime.counter = k ∧
        (t.runtime.stack = fs ∨ StandsOn { label, body } fs t.runtime.stack) := by
  refine ⟨⟨?_, ?_⟩, ?_⟩
  · rintro ⟨n, t, hafter, hdeeper, hpop, rfl⟩
    obtain ⟨c₁, rfl, hall⟩ := (runAbove_iff.mpr ⟨hafter, hdeeper⟩).runsAll (i := 0) rfl hpop
    exact hall
  · intro hall
    obtain ⟨n, hn⟩ := hall.exists_runAbove (k := k) { label, body } fs 0 rfl rfl
    obtain ⟨hafter, hdeeper⟩ := runAbove_iff.mp hn
    exact ⟨n, _, hafter, hdeeper, Nat.le_refl _, rfl⟩
  · intro n t hafter hdeeper
    exact (runAbove_iff.mpr ⟨hafter, hdeeper⟩).standsOn ⟨[], 0, rfl⟩

end TankArena.Machine
