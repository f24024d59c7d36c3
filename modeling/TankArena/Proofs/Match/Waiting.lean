import TankArena.Proofs.Machine.Evaluation
import TankArena.Proofs.Match.Play

/-!
# Conditionals that wait

A conditional stays under the counter of its frame while a branch runs above it, whatever the branch
and the opponent do. It is left by one thing only, a step that finds no branch to take. With an ELSE
there is always a branch, so such a conditional is never left.
-/

namespace TankArena.Machine

open Script

variable {p : Program} {s t : State} {c d : Scene} {f : Frame} {fs : List Frame}
  {stmt yes : Stmt} {no : Option Stmt} {test : Expr}

theorem chosenBranch_eq_none_iff {value : Int} :
    chosenBranch value yes no = none ↔ value = 0 ∧ no = none := by
  unfold chosenBranch
  split <;> simp_all

theorem Effect.eval_eq_zero (h : Effect p c stmt d)
    (hb : stmt.branches? = some (test, yes, no)) : c.eval test = 0 ∧ no = none := by
  cases h with
  | leave hb' hc =>
      rw [hb] at hb'
      cases hb'
      exact chosenBranch_eq_none_iff.mp hc
  | _ => cases hb

/-- A frame that is on the stack is the active one or lies below it. -/
theorem State.top_or_below (h : f :: fs <:+ s.frames p) :
    (s.top p = f ∧ (s.frames p).tail = fs) ∨ f :: fs <:+ (s.frames p).tail := by
  rw [State.frames_eq_top_cons] at h
  rcases List.suffix_cons_iff.mp h with heq | hbelow
  · obtain ⟨rfl, rfl⟩ := List.cons.inj heq
    exact .inl ⟨rfl, rfl⟩
  · exact .inr hbelow

/-- A step leaves a conditional only if it is the active statement and takes no branch. -/
theorem Transition.waits_or_leaves (h : Transition p s t) (hf : f :: fs <:+ s.frames p)
    (hs : f.current? = some stmt) (hb : stmt.branches? = some (test, yes, no)) :
    f :: fs <:+ t.frames p ∨ (s.frames p = f :: fs ∧ t.frames p = f.next :: fs ∧
      s.runtime.eval test = 0 ∧ no = none) := by
  cases h with
  | @next stmt' c' hs' he =>
      rw [State.frames_done]
      rcases State.top_or_below hf with ⟨rfl, rfl⟩ | hbelow
      · rw [hs] at hs'
        cases hs'
        obtain ⟨hzero, hno⟩ := he.eval_eq_zero hb
        rw [State.eval_scene] at hzero
        exact .inr ⟨State.frames_eq_top_cons s p, rfl, hzero, hno⟩
      · exact .inl (hbelow.trans (List.suffix_cons _ _))
  | branch _ _ _ => exact .inl (hf.trans (List.suffix_cons _ _))
  | @call name body hs' _ =>
      rw [State.frames_call]
      rcases State.top_or_below hf with ⟨rfl, -⟩ | hbelow
      · rw [hs] at hs'
        cases hs'
        cases hb
      · exact .inl ((hbelow.trans (List.suffix_cons _ _)).trans (List.suffix_cons _ _))
  | @pop g gs hstack hle =>
      rw [State.frames_pop hstack] at hf
      rcases List.suffix_cons_iff.mp hf with heq | hbelow
      · obtain ⟨rfl, -⟩ := List.cons.inj heq
        simp [Frame.current?, hle] at hs
      · exact .inl hbelow

end TankArena.Machine

namespace TankArena.Match

open Machine Script Simulation

variable {u : Simulation} {f : Frame} {fs : List Frame} {body : List Stmt} {stmt yes : Stmt}
  {no : Option Stmt} {test : Expr}

/-! ## One tick -/

theorem Simulation.waits_or_leaves (hf : f :: fs <:+ u.frames) (hs : f.current? = some stmt)
    (hb : stmt.branches? = some (test, yes, no)) :
    f :: fs <:+ u.ticked.frames ∨ (u.frames = f :: fs ∧ u.ticked.frames = f.next :: fs ∧
      u.runtime.eval test = 0 ∧ no = none) := by
  rcases u.ticked_cases with ⟨executed, v, ht, hv⟩ | ⟨e, he, hv⟩
  · rw [hv]
    cases ht with
    | ended _ => exact .inl hf
    | idle _ _ => exact .inl hf
    | act _ ht => exact ht.waits_or_leaves hf hs hb
  · left
    rw [hv]
    rcases frames_afterFault (tick_eq_error_iff.mp he).2 with hkeep | ⟨stmt', hs', hb', hnext⟩
    · have hframes : (u.afterFault e).frames = u.frames := hkeep
      rw [hframes]
      exact hf
    · have hframes : (u.afterFault e).frames =
          (u.state.top u.program).next :: u.frames.tail := hnext
      rw [hframes]
      rcases State.top_or_below hf with ⟨rfl, -⟩ | hbelow
      · rw [hs] at hs'
        cases hs'
        rw [hb] at hb'
        cases hb'
      · exact hbelow.trans (List.suffix_cons _ _)

theorem Simulation.isFinished_eq_false (hf : f :: fs <:+ u.frames) (hs : f.current? = some stmt) :
    u.isFinished = false := by
  cases hstack : u.runtime.stack with
  | cons g gs => simp [Simulation.isFinished, Runtime.isFinished, hstack]
  | nil =>
      have hframes : u.frames = [u.state.mainFrame u.program] := by
        simp [Simulation.frames, State.frames, Simulation.state, hstack]
      rw [hframes] at hf
      have hmem := hf.subset List.mem_cons_self
      rw [List.mem_singleton.mp hmem] at hs
      unfold Frame.current? at hs
      split at hs
      · cases hs
      · rename_i hlt
        have hlt' : ¬ (u.program.main.length : Int) ≤ u.runtime.counter := hlt
        simp [Simulation.isFinished, Runtime.isFinished, hlt']

/-- No frame with this body has gone past the statement at place `i`. -/
def Simulation.HeldAt (u : Simulation) (body : List Stmt) (i : Nat) : Prop :=
  ∀ g ∈ u.frames, g.body = body → 0 ≤ g.counter ∧ g.counter ≤ i

theorem le_next_counter {i : Nat} (h : 0 ≤ f.counter ∧ f.counter ≤ i) (hi : f.body[i]? = some stmt)
    (hne : f.current? ≠ some stmt) : 0 ≤ f.next.counter ∧ f.next.counter ≤ i := by
  have hlt : f.counter ≠ i := by
    intro heq
    rw [Frame.current?_of_counter heq] at hne
    exact hne hi
  simp only [Frame.next]
  omega

theorem Simulation.frames_ticked_ne {no : Stmt} (hf : u.frames = f :: fs)
    (hs : f.current? = some (.ifElse test yes no)) : u.ticked.frames ≠ f.next :: fs := by
  intro hnext
  have hsuffix : f :: fs <:+ u.frames := hf ▸ List.suffix_rfl
  rcases Simulation.waits_or_leaves hsuffix hs rfl with hwait | ⟨-, -, -, hno⟩
  · rw [hnext] at hwait
    have hcounter := congrArg Frame.counter (List.cons.inj (hwait.eq_of_length rfl)).1
    simp only [Frame.next] at hcounter
    omega
  · cases hno

/-- A frame that starts later waits at the same conditional, so none ever gets past it. -/
theorem Simulation.HeldAt.ticked {i : Nat} {no : Stmt} (h : u.HeldAt body i)
    (hi : body[i]? = some (.ifElse test yes no)) : u.ticked.HeldAt body i := by
  have hshift := u.shift_ticked
  have hwait : ∀ f fs, u.frames = f :: fs → f.current? = some (.ifElse test yes no) →
      u.ticked.frames ≠ f.next :: fs := fun _ _ => Simulation.frames_ticked_ne
  unfold Simulation.HeldAt at h ⊢
  -- The rules of `Shift` bind the frames, which `cases` allows for variables only.
  generalize u.frames = fs at hshift hwait h
  generalize u.ticked.frames = gs at hshift hwait ⊢
  cases hshift with
  | stay => exact h
  | @next f fs stmt hcur =>
      obtain ⟨hf, hfs⟩ := List.forall_mem_cons.mp h
      refine List.forall_mem_cons.mpr ⟨fun hbody => ?_, hfs⟩
      exact le_next_counter (hf hbody) (hbody ▸ hi) fun hs => hwait f fs rfl hs rfl
  | branch _ _ _ =>
      exact List.forall_mem_cons.mpr ⟨fun _ => ⟨Int.le_refl 0, Int.natCast_nonneg i⟩, h⟩
  | @call f fs name called hcur _ =>
      obtain ⟨hf, hfs⟩ := List.forall_mem_cons.mp h
      refine List.forall_mem_cons.mpr ⟨fun _ => ⟨Int.le_refl 0, Int.natCast_nonneg i⟩, ?_⟩
      refine List.forall_mem_cons.mpr ⟨fun hbody => ?_, hfs⟩
      exact le_next_counter (hf hbody) (hbody ▸ hi) fun hs => by rw [hcur] at hs; cases hs
  | pop _ => exact (List.forall_mem_cons.mp h).2

/-! ## Any number of ticks -/

theorem Simulation.waits_iterate {no : Stmt} (hf : f :: fs <:+ u.frames)
    (hs : f.current? = some (.ifElse test yes no)) (n : Nat) :
    f :: fs <:+ (Simulation.ticked^[n] u).frames := by
  induction n with
  | zero => exact hf
  | succ n ih =>
      rw [Function.iterate_succ_apply']
      rcases Simulation.waits_or_leaves ih hs rfl with hwait | ⟨-, -, -, hno⟩
      · exact hwait
      · cases hno

theorem Simulation.HeldAt.iterate {i : Nat} {no : Stmt} (h : u.HeldAt body i)
    (hi : body[i]? = some (.ifElse test yes no)) (n : Nat) :
    (Simulation.ticked^[n] u).HeldAt body i := by
  induction n with
  | zero => exact h
  | succ n ih =>
      rw [Function.iterate_succ_apply']
      exact ih.ticked hi

/-- A conditional that was left was left by a tick that found its test to be zero. -/
theorem Simulation.exists_leaving (hf : f :: fs <:+ u.frames) (hs : f.current? = some stmt)
    (hb : stmt.branches? = some (test, yes, no)) {n : Nat}
    (hleft : ¬ f :: fs <:+ (Simulation.ticked^[n] u).frames) :
    ∃ m < n, (Simulation.ticked^[m] u).frames = f :: fs ∧
      (Simulation.ticked^[m + 1] u).frames = f.next :: fs ∧
      (Simulation.ticked^[m] u).runtime.eval test = 0 := by
  induction n with
  | zero => exact absurd hf hleft
  | succ n ih =>
      -- The last tick left it, or one before did.
      by_cases hn : f :: fs <:+ (Simulation.ticked^[n] u).frames
      · rw [Function.iterate_succ_apply'] at hleft
        rcases Simulation.waits_or_leaves hn hs hb with hwait | ⟨hactive, hnext, hzero, -⟩
        · exact absurd hwait hleft
        · refine ⟨n, Nat.lt_succ_self n, hactive, ?_, hzero⟩
          rw [Function.iterate_succ_apply']
          exact hnext
      · obtain ⟨m, hm, hleaving⟩ := ih hn
        exact ⟨m, Nat.lt_succ_of_lt hm, hleaving⟩

/-- A frame that has come to a conditional with an ELSE stays there for any number of ticks, with
all frames below it. So the program never finishes, and nothing behind the conditional is run: when
the frame is active it is at the conditional, and if no frame with its body was past that place, none
ever is. Without an ELSE the conditional is left only by a tick that finds its test to be zero. -/
theorem conditional_left_only_at_zero (hf : f :: fs <:+ u.frames) (n : Nat) :
    (∀ test yes no, f.current? = some (.ifElse test yes no) →
      f :: fs <:+ (Simulation.ticked^[n] u).frames ∧
      (Simulation.ticked^[n] u).isFinished = false ∧
      (∀ g, (Simulation.ticked^[n] u).frames = g :: fs → g = f) ∧
      ∀ i : Nat, f.counter = i → u.HeldAt f.body i → (Simulation.ticked^[n] u).HeldAt f.body i) ∧
    ∀ test yes, f.current? = some (.ifThen test yes) →
      ¬ f :: fs <:+ (Simulation.ticked^[n] u).frames →
      ∃ m < n, (Simulation.ticked^[m] u).frames = f :: fs ∧
        (Simulation.ticked^[m + 1] u).frames = f.next :: fs ∧
        (Simulation.ticked^[m] u).runtime.eval test = 0 := by
  refine ⟨fun test yes no hs => ?_, fun test yes hs => Simulation.exists_leaving hf hs rfl⟩
  have hwait := Simulation.waits_iterate hf hs n
  refine ⟨hwait, Simulation.isFinished_eq_false hwait hs, fun g hg => ?_, fun i hi hheld => ?_⟩
  · rw [hg] at hwait
    exact (List.cons.inj (hwait.eq_of_length rfl)).1.symm
  · rw [Frame.current?_of_counter hi] at hs
    exact hheld.iterate hs n

/-- One main sequence waits at its conditional for ever, another leaves it with the first tick. -/
theorem conditional_left_only_at_zero_start : ∃ (kept left : Simulation) (f g : Frame),
    kept.frames = [f] ∧ f.current? = some (.ifElse (.variable "ENEMY") .attack .scan) ∧
    (∀ n, (Simulation.ticked^[n] kept).isFinished = false) ∧
    left.frames = [g] ∧ g.current? = some (.ifThen (.variable "ENEMY") .attack) ∧
    ¬ [g] <:+ (Simulation.ticked^[1] left).frames ∧
    ∃ m < 1, (Simulation.ticked^[m] left).frames = [g] ∧
      (Simulation.ticked^[m + 1] left).frames = [g.next] ∧
      (Simulation.ticked^[m] left).runtime.eval (.variable "ENEMY") = 0 := by
  let kept : List Stmt := [.ifElse (.variable "ENEMY") .attack .scan, .turn .left]
  let left : List Stmt := [.ifThen (.variable "ENEMY") .attack]
  have hleft : ¬ [({ label := mainLabel, body := left } : Frame)] <:+
      (Simulation.ticked^[1] { program := { main := left } }).frames := by decide
  refine ⟨{ program := { main := kept } }, { program := { main := left } },
    { label := mainLabel, body := kept }, { label := mainLabel, body := left },
    rfl, rfl, fun n => ?_, rfl, rfl, hleft, ?_⟩
  · exact ((conditional_left_only_at_zero List.suffix_rfl n).1 _ _ _ rfl).2.1
  · exact (conditional_left_only_at_zero List.suffix_rfl 1).2 _ _ rfl hleft

end TankArena.Match
