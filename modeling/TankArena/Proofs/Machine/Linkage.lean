import Mathlib.Data.List.Chain
import TankArena.Proofs.Match.Tick
import TankArena.Proofs.Script.Shape

/-!
# Why a frame stands on another

Every frame was put on the stack by a statement of the frame below it, and that statement can still
be found there: a conditional under the counter, or a call just before it. The property is kept by
whatever steps, ticks and faults do to the frames.
-/

namespace TankArena.Machine

open Arena Script Match

/-- The upper frame is the branch of a conditional that the lower frame has come to, or the function
of a call that the lower frame has just gone past. -/
def Link (p : Program) (upper lower : Frame) : Prop :=
  (upper.label = branchLabel ∧ ∃ (i : Nat) (stmt : Stmt) (test : Expr) (yes : Stmt)
    (no : Option Stmt) (chosen : Stmt), lower.counter = i ∧ lower.body[i]? = some stmt ∧
      stmt.branches? = some (test, yes, no) ∧ (chosen = yes ∨ no = some chosen) ∧
      upper.body = [chosen]) ∨
  (p.functions.get? upper.label = some upper.body ∧ ∃ i : Nat, lower.counter = i + 1 ∧
    lower.body[i]? = some (.call upper.label))

/-- The counter is at a statement of the body or at its end. -/
def Frame.InRange (f : Frame) : Prop := 0 ≤ f.counter ∧ f.counter ≤ f.body.length

/-- Each frame has a reason to stand on the next one, and all counters are in range. -/
structure Linked (p : Program) (fs : List Frame) : Prop where
  chain : fs.IsChain (Link p)
  inRange : ∀ f ∈ fs, f.InRange

/-! ## What steps do to the frames -/

/-- What a step, finished or not, can do to the frames. -/
inductive Shift (p : Program) : List Frame → List Frame → Prop
  | stay {fs} : Shift p fs fs
  | next {f fs stmt} : f.current? = some stmt → Shift p (f :: fs) (f.next :: fs)
  | branch {f fs stmt test yes no chosen} : f.current? = some stmt →
      stmt.branches? = some (test, yes, no) → (chosen = yes ∨ no = some chosen) →
      Shift p (f :: fs) ({ label := branchLabel, body := [chosen] } :: f :: fs)
  | call {f fs name body} : f.current? = some (.call name) → p.functions.get? name = some body →
      Shift p (f :: fs) ({ label := name, body } :: f.next :: fs)
  | pop {f g : Frame} {fs} : f.body.length ≤ f.counter → Shift p (f :: g :: fs) (g :: fs)

variable {p : Program} {s t : State} {f : Frame} {fs gs : List Frame} {stmt : Stmt}

theorem State.frames_advance (s : State) (p : Program) :
    s.advance.frames p = (s.top p).next :: (s.frames p).tail := by
  cases h : s.runtime.stack <;>
    simp [State.frames, State.top, State.advance, Runtime.advance, State.mainFrame, Frame.next, h]

theorem State.frames_done (s : State) (p : Program) (c : Scene) :
    (s.withScene c).advance.frames p = (s.top p).next :: (s.frames p).tail :=
  State.frames_advance (s.withScene c) p

theorem State.frames_call (s : State) (p : Program) (message name : String) (body : List Stmt) :
    ((s.advance.say message).push name body).frames p =
      { label := name, body } :: (s.top p).next :: (s.frames p).tail :=
  congrArg (List.cons _) (State.frames_advance s p)

theorem State.frames_pop (h : s.runtime.stack = f :: fs) :
    s.frames p = f :: (s.withStack fs).frames p := by
  rw [State.frames, h]
  rfl

theorem chosenBranch_eq_some {value : Int} {yes chosen : Stmt} {no : Option Stmt}
    (h : chosenBranch value yes no = some chosen) : chosen = yes ∨ no = some chosen := by
  unfold chosenBranch at h
  split at h
  · exact .inl (Option.some.inj h).symm
  · exact .inr h

theorem Transition.shift (h : Transition p s t) : Shift p (s.frames p) (t.frames p) := by
  cases h with
  | next hs _ =>
      rw [State.frames_done, State.frames_eq_top_cons]
      exact .next hs
  | @branch _ _ _ _ chosen hs hb hc =>
      have hpush : (s.push branchLabel [chosen]).frames p =
          { label := branchLabel, body := [chosen] } :: s.frames p := rfl
      rw [hpush, State.frames_eq_top_cons]
      exact .branch hs hb (chosenBranch_eq_some hc)
  | @call name body hs hb =>
      rw [State.frames_call, State.frames_eq_top_cons]
      exact .call hs hb
  | @pop g gs hstack hle =>
      rw [State.frames_pop hstack, State.frames_eq_top_cons]
      exact .pop hle

/-- A statement that is not done to its end leaves the frames alone, or it is no conditional and the
frame goes on to the next one. -/
theorem frames_afterFault {e : Fault} (h : step p s = .error e) :
    (s.afterFault p e).frames p = s.frames p ∨
    ∃ stmt, (s.top p).current? = some stmt ∧ stmt.branches? = none ∧
      (s.afterFault p e).frames p = (s.top p).next :: (s.frames p).tail := by
  rcases step_eq_error_iff.mp h with ⟨stmt, hcur, hf⟩ | ⟨-, he⟩
  · rw [eq_tooManyDigits_of_fault? hf, afterFault_of_current hcur]
    cases stmt with
    | assign name value =>
        exact .inr ⟨_, hcur, rfl, State.frames_advance (s.assign name value) p⟩
    | move amount course =>
        exact .inr ⟨_, hcur, rfl, State.frames_advance (s.move amount course) p⟩
    | _ => exact .inl rfl
  · left
    split at he <;> cases he <;> rfl

theorem Shift.of_fault {e : Fault} (h : step p s = .error e) :
    Shift p (s.frames p) ((s.afterFault p e).frames p) := by
  rcases frames_afterFault h with hkeep | ⟨stmt, hcur, -, hnext⟩
  · exact hkeep ▸ .stay
  · rw [hnext, State.frames_eq_top_cons]
    exact .next hcur

theorem Shift.of_tick {executed : Bool} {u : Simulation}
    (h : Simulation.tick ⟨p, s.world, s.runtime⟩ = .ok (executed, u)) :
    Shift p (s.frames p) (u.state.frames p) := by
  cases tick_eq_ok_iff.mp h with
  | ended _ => exact .stay
  | idle _ _ => exact .stay
  | act _ ht =>
      have hshift := ht.shift
      exact hshift

/-! ## Links are kept -/

theorem Frame.InRange.exists_counter (hr : f.InRange) (h : f.current? = some stmt) :
    ∃ i : Nat, f.counter = i ∧ f.body[i]? = some stmt := by
  obtain ⟨i, hi⟩ := Int.eq_ofNat_of_zero_le hr.1
  refine ⟨i, hi, ?_⟩
  unfold Frame.current? at h
  split at h
  · cases h
  · simpa [statementAt?, hi] using h

theorem Frame.InRange.next (hr : f.InRange) (h : f.current? = some stmt) : f.next.InRange := by
  obtain ⟨i, hi, hs⟩ := hr.exists_counter h
  obtain ⟨hlt, -⟩ := List.getElem?_eq_some_iff.mp hs
  simp only [Frame.InRange, Frame.next, hi]
  omega

theorem Frame.inRange_start (label : String) (body : List Stmt) :
    ({ label, body } : Frame).InRange := ⟨Int.le_refl 0, Int.natCast_nonneg _⟩

/-- The counter of the upper frame plays no part in a link. -/
theorem Linked.next (h : Linked p (f :: fs)) (hs : f.current? = some stmt) :
    Linked p (f.next :: fs) := by
  constructor
  · cases fs with
    | nil => exact List.isChain_singleton _
    | cons g gs =>
        obtain ⟨hl, hrest⟩ := List.isChain_cons_cons.mp h.chain
        exact List.isChain_cons_cons.mpr ⟨hl, hrest⟩
  · intro g hg
    rcases List.mem_cons.mp hg with rfl | hg
    · exact (h.inRange f List.mem_cons_self).next hs
    · exact h.inRange g (List.mem_cons_of_mem _ hg)

theorem Linked.cons {g : Frame} (h : Linked p (f :: fs)) (hl : Link p g f) (hg : g.InRange) :
    Linked p (g :: f :: fs) := by
  refine ⟨List.isChain_cons_cons.mpr ⟨hl, h.chain⟩, fun d hd => ?_⟩
  rcases List.mem_cons.mp hd with rfl | hd
  · exact hg
  · exact h.inRange d hd

theorem Linked.tail (h : Linked p (f :: fs)) : Linked p fs :=
  ⟨List.IsChain.of_cons h.chain, fun g hg => h.inRange g (List.mem_cons_of_mem _ hg)⟩

theorem Linked.shift (h : Linked p fs) (hs : Shift p fs gs) : Linked p gs := by
  cases hs with
  | stay => exact h
  | next hcur => exact h.next hcur
  | branch hcur hb hc =>
      obtain ⟨i, hi, hs⟩ := (h.inRange _ List.mem_cons_self).exists_counter hcur
      exact h.cons (.inl ⟨rfl, i, _, _, _, _, _, hi, hs, hb, hc, rfl⟩) (Frame.inRange_start _ _)
  | call hcur hb =>
      obtain ⟨i, hi, hs⟩ := (h.inRange _ List.mem_cons_self).exists_counter hcur
      exact (h.next hcur).cons (.inr ⟨hb, i, by simp [Frame.next, hi], hs⟩) (Frame.inRange_start _ _)
  | pop _ => exact h.tail

/-! ## Reachable states -/

/-- The states that steps and ticks lead to from a fresh runtime, in whatever world it starts. A step
or tick that comes to a fault counts with what it leaves behind. -/
inductive Reachable (p : Program) : State → Prop
  | fresh (w : World) : Reachable p { world := w }
  | step {s t : State} : Reachable p s → Machine.step p s = .ok (some t) → Reachable p t
  | fault {s : State} {e} : Reachable p s → Machine.step p s = .error e → Reachable p (s.afterFault p e)
  | tick {s : State} {u executed} : Reachable p s →
      Simulation.tick ⟨p, s.world, s.runtime⟩ = .ok (executed, u) →
      Reachable p ⟨u.world, u.runtime⟩
  | tickFault {s : State} {e} : Reachable p s → Simulation.tick ⟨p, s.world, s.runtime⟩ = .error e →
      Reachable p ⟨(Simulation.afterFault ⟨p, s.world, s.runtime⟩ e).world,
        (Simulation.afterFault ⟨p, s.world, s.runtime⟩ e).runtime⟩

theorem Reachable.linked (h : Reachable p s) : Linked p (s.frames p) := by
  induction h with
  | fresh w =>
      refine ⟨List.isChain_singleton _, fun f hf => ?_⟩
      rw [List.mem_singleton.mp hf]
      exact Frame.inRange_start _ _
  | step _ hst ih => exact ih.shift (step_eq_ok_some_iff.mp hst).shift
  | fault _ hst ih => exact ih.shift (Shift.of_fault hst)
  | tick _ ht ih => exact ih.shift (Shift.of_tick ht)
  | tickFault _ ht ih => exact ih.shift (Shift.of_fault (tick_eq_error_iff.mp ht).2)

/-- A function is declared under a proper name, which the label of a branch is not. -/
theorem get?_branchLabel (h : p.WellFormed) : p.functions.get? branchLabel = none := by
  cases hb : p.functions.get? branchLabel with
  | none => rfl
  | some body =>
      have hname : Text.isLooseName branchLabel.toList = true := h.names _ (Table.mem_of_get? hb)
      exact absurd hname (by decide)

/-- In every reachable state each frame has a reason to stand on the one below it, down to the main
sequence, and its label says which of the two reasons it is. -/
theorem reachable_frames_linked {room : Nat} {source : String} (hp : Program.parse room source = .ok p)
    (h : Reachable p s) : Linked p (s.frames p) ∧ p.functions.get? branchLabel = none :=
  ⟨h.linked, get?_branchLabel (Program.parse_wellFormed hp)⟩

/-- A conditional has started a call: three frames stand on each other. -/
theorem reachable_frames_linked_call : ∃ p s,
    Program.parse 2 "FUNCTION F: \n ATTACK; \n END \n IF 1 THEN CALL F;" = .ok p ∧
    Reachable p s ∧ (s.frames p).map Frame.label = ["F", "<if>", "<main>"] ∧
    Linked p (s.frames p) ∧ p.functions.get? branchLabel = none := by
  let p : Program :=
    { main := [.ifThen (.literal 1) (.call "F")], functions := .ofList [("F", [.attack])] }
  have hp : Program.parse 2 "FUNCTION F: \n ATTACK; \n END \n IF 1 THEN CALL F;" = .ok p :=
    parse_eq_ok_of_toOption (by decide +kernel)
  have hs : Reachable p _ := .step (.step (.fresh .initial) rfl) rfl
  exact ⟨p, _, hp, hs, by decide, reachable_frames_linked hp hs⟩

end TankArena.Machine
