import TankArena.Proofs.Arena.Board
import TankArena.Proofs.Machine.Linkage

/-!
# Matches without faults

A program that was read says only numbers that can be written, and its counters stay among its
statements. So no tick of its match comes to a fault, whatever programs are loaded on the way.
-/

namespace TankArena.Machine

open Arena Script Text

/-! ## Sound scenes and frames -/

/-- All values can be written and both tanks are on the board. -/
structure Scene.Sound (c : Scene) : Prop where
  store : ∀ e ∈ c.store.entries, isWritable e.2 = true
  board : c.world.OnBoard

/-- The counter is not negative and the statements were read from lines. -/
structure Frame.Sound (f : Frame) : Prop where
  counter : 0 ≤ f.counter
  body : ∀ stmt ∈ f.body, stmt.IsLine

variable {p : Program} {s t : State} {c d : Scene} {f : Frame} {fs gs : List Frame} {stmt : Stmt}

theorem isLine_of_branch {test : Expr} {yes chosen : Stmt} {no : Option Stmt} (h : stmt.IsLine)
    (hb : stmt.branches? = some (test, yes, no)) (hc : chosen = yes ∨ no = some chosen) :
    chosen.IsLine := by
  cases stmt with
  | ifThen test' yes' =>
      cases hb
      rcases hc with rfl | hc
      · exact h.2.isLine
      · cases hc
  | ifElse test' yes' no' =>
      obtain ⟨-, hy, hn, -⟩ := h
      cases hb
      rcases hc with rfl | hc
      · exact hy.isLine
      · cases hc; exact hn.isLine
  | _ => cases hb

theorem Frame.mem_body_of_current? (h : f.current? = some stmt) : stmt ∈ f.body := by
  unfold Frame.current? at h
  split at h
  · cases h
  · unfold statementAt? at h
    split at h
    · exact List.mem_of_getElem? h
    · split at h
      · exact List.mem_of_getElem? h
      · cases h

theorem Frame.Sound.next (h : f.Sound) : f.next.Sound :=
  ⟨Int.le_trans h.counter (Int.le_add_of_nonneg_right (by decide)), h.body⟩

/-- What new frames have and the next statement keeps is kept by whatever a step does to the
frames. -/
theorem Shift.forall_mem {P : Frame → Prop} (hs : Shift p fs gs) (h : ∀ f ∈ fs, P f)
    (next : ∀ f, P f → P f.next)
    (branch : ∀ f ∈ fs, ∀ stmt ∈ f.body, ∀ test yes no chosen,
      stmt.branches? = some (test, yes, no) → (chosen = yes ∨ no = some chosen) →
      P { label := branchLabel, body := [chosen] })
    (call : ∀ name body, p.functions.get? name = some body → P { label := name, body }) :
    ∀ f ∈ gs, P f := by
  cases hs with
  | stay => exact h
  | next _ =>
      obtain ⟨hf, hfs⟩ := List.forall_mem_cons.mp h
      exact List.forall_mem_cons.mpr ⟨next _ hf, hfs⟩
  | branch hcur hb hc =>
      have hnew := branch _ List.mem_cons_self _ (Frame.mem_body_of_current? hcur) _ _ _ _ hb hc
      exact List.forall_mem_cons.mpr ⟨hnew, h⟩
  | call _ hb =>
      obtain ⟨hf, hfs⟩ := List.forall_mem_cons.mp h
      exact List.forall_mem_cons.mpr ⟨call _ _ hb, List.forall_mem_cons.mpr ⟨next _ hf, hfs⟩⟩
  | pop _ => exact (List.forall_mem_cons.mp h).2

/-- What a step does to the frames keeps them sound. -/
theorem Shift.sound (hp : p.WellFormed) (h : ∀ f ∈ fs, f.Sound) (hs : Shift p fs gs) :
    ∀ f ∈ gs, f.Sound := by
  refine hs.forall_mem h (fun f hf => hf.next) ?_ ?_
  · intro f hf stmt hstmt test yes no chosen hb hc
    have hline := isLine_of_branch ((h f hf).body stmt hstmt) hb hc
    exact ⟨Int.le_refl 0, by simpa using hline⟩
  · intro name body hb
    exact ⟨Int.le_refl 0, hp.bodies _ (Table.mem_of_get? hb)⟩

/-! ## Safe states -/

structure Safe (p : Program) (s : State) : Prop where
  program : p.WellFormed
  frames : ∀ f ∈ s.frames p, f.Sound
  scene : s.scene.Sound

theorem Transition.scene_sound (h : s.scene.Sound) (ht : Transition p s t) : t.scene.Sound := by
  refine ⟨?_, ht.acted.onBoard h.board⟩
  change ∀ e ∈ t.runtime.store.entries, isWritable e.2 = true
  rcases ht.store_cases with hd | ⟨name, value, -, hw, hd⟩ | ⟨value, hv, hd⟩
  · rw [hd]
    exact h.store
  · rw [hd]
    exact forall_mem_insert (isWritable · = true) h.store hw
  · rw [hd]
    refine forall_mem_insert (isWritable · = true) h.store ?_
    rcases hv with rfl | rfl <;> decide

theorem Safe.transition (h : Safe p s) (ht : Transition p s t) : Safe p t :=
  ⟨h.program, ht.shift.sound h.program h.frames, ht.scene_sound h.scene⟩

/-! ## Faults -/

/-- A scan would see the opponent and could not say how far away it is. -/
def State.TooFar (s : State) : Prop :=
  (sight s.world.actor s.world.opponent).seen = true ∧
    isWritable (sight s.world.actor s.world.opponent).distance = false

/-- The numbers that a statement of a line says can be written, but for the distance of a scan. -/
theorem fault?_of_isLine (h : ∀ e ∈ s.runtime.store.entries, isWritable e.2 = true)
    (hs : stmt.IsLine) : s.fault? stmt = none ∨ (stmt = .scan ∧ s.TooFar) := by
  have hsay {value : Expr} (hv : value.Legible) : isWritable (s.runtime.eval value) = true :=
    forall_eval (isWritable · = true) (by decide) h fun n hn => by rw [hn] at hv; exact hv
  cases stmt with
  | assign name value => exact .inl (sayFault?_eq_none_iff.mpr (hsay hs.2))
  | move amount course =>
      refine .inl (sayFault?_eq_none_iff.mpr ?_)
      unfold State.cells
      rcases Int.le_total 0 (s.runtime.eval amount) with hle | hle
      · rw [Int.max_eq_right hle]; exact hsay hs
      · rw [Int.max_eq_left hle]; decide
  | scan =>
      cases hw : isWritable (sight s.world.actor s.world.opponent).distance with
      | true => exact .inl (by simp only [State.fault?, sayFault?_eq_none_iff.mpr hw, ite_self])
      | false =>
          cases hseen : (sight s.world.actor s.world.opponent).seen with
          | true => exact .inr ⟨rfl, hseen, hw⟩
          | false => exact .inl (by simp [State.fault?, hseen])
  | _ => exact .inl rfl

theorem step_of_tooFar (hs : (s.top p).current? = some .scan) (h : s.TooFar) :
    step p s = .error .tooManyDigits := by
  refine step_of_fault hs ?_
  simp only [State.fault?, h.1, ↓reduceIte, sayFault?, h.2, Bool.false_eq_true]

theorem tooFar_of_digits {m : Nat} (hm : maxDigits = m + 1) (x : Int) (r : Runtime) :
    State.TooFar
      ⟨{ actor := { x, y := -(5 * 10 ^ m) }, opponent := { x, y := 5 * 10 ^ m } }, r⟩ := by
  have hcast : (10 : Int) ^ m = (10 ^ m : Nat) := (Int.natCast_pow 10 m).symm
  have hpos : 0 < 10 ^ m := Nat.pow_pos (by decide)
  refine ⟨?_, ?_⟩
  · simp only [sight, ↓reduceIte, decide_eq_true_eq, hcast]
    omega
  · rw [← Bool.not_eq_true, isWritable_iff, hm, Nat.pow_succ]
    simp only [sight, ↓reduceIte, Int.natAbs_natCast, hcast]
    omega

theorem Frame.Sound.exists_current? (h : f.Sound) (hlt : f.counter < f.body.length) :
    ∃ stmt, f.current? = some stmt := by
  obtain ⟨i, hi⟩ := Int.eq_ofNat_of_zero_le h.counter
  have hi' : i < f.body.length := by omega
  refine ⟨f.body[i], ?_⟩
  simp [Frame.current?, statementAt?, hi, hi']

/-- A machine with sound frames and writable values takes a step, is finished, or scans for an
opponent that is too far away. -/
theorem step_of_sound (hf : ∀ f ∈ s.frames p, f.Sound)
    (h : ∀ e ∈ s.runtime.store.entries, isWritable e.2 = true) :
    step p s = .ok none ∨ (∃ t, Transition p s t) ∨
      ((s.top p).current? = some .scan ∧ s.TooFar) := by
  have htop : (s.top p).Sound := hf _ (s.top_mem_frames p)
  by_cases hle : ((s.top p).body.length : Int) ≤ (s.top p).counter
  · cases hstack : s.runtime.stack with
    | nil =>
        left
        simp only [step, State.activeBody_eq s p, State.activeCounter_eq s p, hle, ↓reduceIte,
          hstack]
    | cons f fs =>
        rw [State.top_cons hstack] at hle
        exact .inr (.inl ⟨_, .pop hstack hle⟩)
  · obtain ⟨stmt, hcur⟩ := htop.exists_current? (Int.not_le.mp hle)
    rcases fault?_of_isLine h (htop.body _ (Frame.mem_body_of_current? hcur)) with hok | ⟨rfl, hfar⟩
    · exact .inr (.inl ⟨_, transition_exec hcur hok⟩)
    · exact .inr (.inr ⟨hcur, hfar⟩)

theorem not_tooFar (h : s.world.OnBoard) : ¬ s.TooFar := by
  rintro ⟨-, hw⟩
  rw [h.isWritable_distance] at hw
  cases hw

/-- A safe machine takes a step or is finished. -/
theorem Safe.step_ok (h : Safe p s) :
    step p s = .ok none ∨ ∃ t, step p s = .ok (some t) ∧ Safe p t := by
  rcases step_of_sound h.frames h.scene.store with hnone | ⟨t, ht⟩ | ⟨-, hfar⟩
  · exact .inl hnone
  · exact .inr ⟨t, step_eq_ok_some_iff.mpr ht, h.transition ht⟩
  · exact absurd hfar (not_tooFar h.scene.board)

end TankArena.Machine

namespace TankArena.Match

open Arena Machine Script

/-- A match that comes to no fault. -/
def Simulation.Safe (u : Simulation) : Prop := Machine.Safe u.program u.state

variable {u v : Simulation} {q : Program}

theorem Simulation.Safe.exists_tick (h : u.Safe) : ∃ executed v, Tick u executed v := by
  cases hover : u.isOver with
  | true => exact ⟨_, _, .ended hover⟩
  | false =>
      rcases h.step_ok with hs | ⟨t, hs, -⟩
      · exact ⟨_, _, .idle hover hs⟩
      · exact ⟨_, _, .act hover (step_eq_ok_some_iff.mp hs)⟩

theorem Simulation.Safe.tick {executed : Bool} (h : u.Safe) (ht : Tick u executed v) : v.Safe := by
  cases ht with
  | ended _ => exact h
  | idle _ _ => exact ⟨h.program, h.frames, h.scene.store, onBoard_afterStep h.scene.board⟩
  | act _ ht =>
      have hsafe := h.transition ht
      exact ⟨hsafe.program, hsafe.frames, hsafe.scene.store, onBoard_afterStep hsafe.scene.board⟩

/-- The frames of a program that is gone stay as they are. -/
theorem Simulation.Safe.load (h : u.Safe) (hq : q.WellFormed) : (u.load q).Safe := by
  have hstack : ∀ f ∈ u.runtime.stack, f.Sound := fun f hf => h.frames f (List.mem_append_left _ hf)
  have hmain : (u.state.mainFrame u.program).Sound :=
    h.frames _ (List.mem_append_right _ (List.mem_singleton.mpr rfl))
  refine ⟨hq, fun f hf => ?_, h.scene⟩
  rcases List.mem_append.mp hf with hf | hf
  · exact hstack f hf
  · rw [List.mem_singleton.mp hf]
    exact ⟨hmain.counter, hq.main⟩

theorem Simulation.safe_start (hq : q.WellFormed) : ({ program := q } : Simulation).Safe := by
  refine ⟨hq, fun f hf => ?_, fun e he => ?_, World.onBoard_initial⟩
  · rw [List.mem_singleton.mp hf]
    exact ⟨Int.le_refl 0, hq.main⟩
  · cases he

theorem Simulation.Safe.reset (h : u.Safe) : u.reset.Safe := Simulation.safe_start h.program

end TankArena.Match
