import TankArena.Machine.Step

/-!
# Steps of the machine as a relation

What one step can do is said once, by four rules: a statement is done in one step, a conditional
starts a branch, a call starts a function, or a frame that has run out is dropped.
`step_eq_ok_some_iff` shows that the rules and `step` agree, and `step_eq_error_iff` says where a
step comes to a fault.
-/

namespace TankArena.Script

/-- The test and the branches of a conditional. -/
def Stmt.branches? : Stmt → Option (Expr × Stmt × Option Stmt)
  | .ifThen test yes => some (test, yes, none)
  | .ifElse test yes no => some (test, yes, some no)
  | _ => none

end TankArena.Script

namespace TankArena.Machine

open Arena Script Text

/-! ## Scenes -/

/-- What statements act on: the world and the variables, without any counter. -/
structure Scene where
  world : World
  store : Table Int
  enemySeen : Int

namespace Scene

/-- The value of an expression; a variable that was never set is 0. -/
def eval (c : Scene) : Expr → Int
  | .literal value => value
  | .variable name => (c.store.get? name).getD 0

def say (c : Scene) (message : String) : Scene := { c with world := { c.world with message } }

def set (c : Scene) (name : String) (value : Int) : Scene :=
  { c with store := c.store.insert name value }

/-- Keeps the answer of a scan. -/
def notice (c : Scene) (value : Int) : Scene := { c.set enemyVariable value with enemySeen := value }

/-- The state with this scene, a main counter and a stack. -/
def state (c : Scene) (counter : Int) (stack : List Frame) : State :=
  ⟨c.world, { counter, stack, store := c.store, enemySeen := c.enemySeen }⟩

end Scene

def State.scene (s : State) : Scene := ⟨s.world, s.runtime.store, s.runtime.enemySeen⟩

/-- Another scene under the same counters and the same stack. -/
def State.withScene (s : State) (c : Scene) : State := c.state s.runtime.counter s.runtime.stack

def State.push (s : State) (label : String) (body : List Stmt) : State :=
  { s with runtime := s.runtime.push label body }

def State.withStack (s : State) (stack : List Frame) : State :=
  { s with runtime := { s.runtime with stack } }

theorem State.eval_scene (s : State) (e : Expr) : s.scene.eval e = s.runtime.eval e := by
  cases e <;> rfl

/-! ## Frames -/

/-- The frame with the statement after the present one. -/
def Frame.next (f : Frame) : Frame := { f with counter := f.counter + 1 }

/-- The statement a frame has come to, unless it has run out. -/
def Frame.current? (f : Frame) : Option Stmt :=
  if f.body.length ≤ f.counter then none else statementAt? f.body f.counter

/-- The main sequence as a frame below the stack. -/
def State.mainFrame (s : State) (p : Program) : Frame :=
  { label := mainLabel, counter := s.runtime.counter, body := p.main }

/-- The active frame. -/
def State.top (s : State) (p : Program) : Frame := s.runtime.stack.headD (s.mainFrame p)

/-- All frames, the active one first and the main sequence last. -/
def State.frames (s : State) (p : Program) : List Frame := s.runtime.stack ++ [s.mainFrame p]

theorem State.top_cons {s : State} {p : Program} {f : Frame} {fs : List Frame}
    (h : s.runtime.stack = f :: fs) : s.top p = f := by simp [State.top, h]

theorem State.frames_eq_top_cons (s : State) (p : Program) :
    s.frames p = s.top p :: (s.frames p).tail := by
  cases h : s.runtime.stack <;> simp [State.frames, State.top, h]

theorem State.top_mem_frames (s : State) (p : Program) : s.top p ∈ s.frames p := by
  rw [State.frames_eq_top_cons]
  exact List.mem_cons_self

theorem State.activeBody_eq (s : State) (p : Program) :
    s.runtime.activeBody p = (s.top p).body := by
  cases h : s.runtime.stack <;> simp [Runtime.activeBody, State.top, State.mainFrame, h]

theorem State.activeCounter_eq (s : State) (p : Program) :
    s.runtime.activeCounter = (s.top p).counter := by
  cases h : s.runtime.stack <;> simp [Runtime.activeCounter, State.top, State.mainFrame, h]

/-! ## Statements that are done in one step -/

/-- What a statement does that is done in one step. A number that it says must be writable. -/
inductive Effect (p : Program) (c : Scene) : Stmt → Scene → Prop
  | assign {name value} : isWritable (c.eval value) = true →
      Effect p c (.assign name value)
        ((c.set name (c.eval value)).say ("$" ++ name ++ " = " ++ decimal (c.eval value)))
  | move {amount course} : isWritable (max 0 (c.eval amount)) = true →
      Effect p c (.move amount course)
        ({ c with world := moveActor c.world course (max 0 (c.eval amount)) }.say
          ("MOVE " ++ decimal (max 0 (c.eval amount)) ++ " " ++ course.name))
  | turn {side} : Effect p c (.turn side)
      ({ c with world := turnActor c.world side }.say ("TURN " ++ side.name))
  | spot : (sight c.world.actor c.world.opponent).seen = true →
      isWritable (sight c.world.actor c.world.opponent).distance = true →
      Effect p c .scan ((c.notice 1).say
        ("Enemy spotted at " ++ decimal (sight c.world.actor c.world.opponent).distance ++
          " tiles."))
  | lose : (sight c.world.actor c.world.opponent).seen = false →
      Effect p c .scan ((c.notice 0).say "No enemy in sight.")
  | attack : Effect p c .attack { c with world := attackOpponent c.world }
  | noop : Effect p c .noop c
  | declaration {name body} : Effect p c (.function name body) c
  | unknownCall {name} : p.functions.get? name = none →
      Effect p c (.call name) (c.say ("CALL " ++ name))
  | leave {s test yes no} : s.branches? = some (test, yes, no) →
      chosenBranch (c.eval test) yes no = none →
      Effect p c s (c.say ("IF (" ++ decimal (c.eval test) ++ ") no-op"))

/-- One step of the machine. -/
inductive Transition (p : Program) (s : State) : State → Prop
  | next {stmt c} : (s.top p).current? = some stmt → Effect p s.scene stmt c →
      Transition p s (s.withScene c).advance
  | branch {stmt test yes no chosen} : (s.top p).current? = some stmt →
      stmt.branches? = some (test, yes, no) →
      chosenBranch (s.scene.eval test) yes no = some chosen →
      Transition p s (s.push branchLabel [chosen])
  | call {name body} : (s.top p).current? = some (.call name) →
      p.functions.get? name = some body →
      Transition p s ((s.advance.say ("CALL " ++ name)).push name body)
  | pop {f fs} : s.runtime.stack = f :: fs → f.body.length ≤ f.counter →
      Transition p s (s.withStack fs)

variable {p : Program} {s t : State} {stmt : Stmt}

theorem sayFault?_eq_none_iff {n : Int} : sayFault? n = none ↔ isWritable n = true := by
  simp [sayFault?]

/-! ## Agreement with `step` -/

theorem exec_of_effect {c : Scene} (h : Effect p s.scene stmt c) :
    s.fault? stmt = none ∧ s.exec p stmt = (s.withScene c).advance := by
  cases h with
  | assign hw =>
      rw [State.eval_scene] at hw
      exact ⟨sayFault?_eq_none_iff.mpr hw, by rw [State.eval_scene]; rfl⟩
  | move hw =>
      rw [State.eval_scene] at hw
      exact ⟨sayFault?_eq_none_iff.mpr hw, by rw [State.eval_scene]; rfl⟩
  | turn => exact ⟨rfl, rfl⟩
  | spot hs hw =>
      have hs' : (sight s.world.actor s.world.opponent).seen = true := hs
      have hw' : isWritable (sight s.world.actor s.world.opponent).distance = true := hw
      refine ⟨by simp [State.fault?, hs', sayFault?_eq_none_iff.mpr hw'], ?_⟩
      simp only [State.exec, State.scan, hs', scanMessage]; rfl
  | lose hs =>
      have hs' : (sight s.world.actor s.world.opponent).seen = false := hs
      refine ⟨by simp [State.fault?, hs'], ?_⟩
      simp only [State.exec, State.scan, hs', scanMessage]; rfl
  | attack => exact ⟨rfl, rfl⟩
  | noop => exact ⟨rfl, rfl⟩
  | declaration => exact ⟨rfl, rfl⟩
  | unknownCall hu =>
      refine ⟨rfl, ?_⟩
      simp only [State.exec, State.call, hu]; rfl
  | leave hb hc =>
      rw [State.eval_scene] at hc ⊢
      cases stmt <;> simp only [Stmt.branches?, Option.some.injEq, Prod.mk.injEq, reduceCtorEq] at hb
      all_goals
        obtain ⟨rfl, rfl, rfl⟩ := hb
        refine ⟨rfl, ?_⟩
        simp only [State.exec, State.branch, hc]; rfl

theorem exec_of_branch {test : Expr} {yes chosen : Stmt} {no : Option Stmt}
    (hb : stmt.branches? = some (test, yes, no))
    (hc : chosenBranch (s.scene.eval test) yes no = some chosen) :
    s.fault? stmt = none ∧ s.exec p stmt = s.push branchLabel [chosen] := by
  rw [State.eval_scene] at hc
  cases stmt <;> simp only [Stmt.branches?, Option.some.injEq, Prod.mk.injEq, reduceCtorEq] at hb
  all_goals
    obtain ⟨rfl, rfl, rfl⟩ := hb
    refine ⟨rfl, ?_⟩
    simp only [State.exec, State.branch, hc]; rfl

theorem exec_of_call {name : String} {body : List Stmt} (h : p.functions.get? name = some body) :
    s.exec p (.call name) = (s.advance.say ("CALL " ++ name)).push name body := by
  simp only [State.exec, State.call, h]; rfl

/-- A statement without a fault is done in one step, starts a branch or starts a function. -/
theorem transition_exec (hs : (s.top p).current? = some stmt) (hf : s.fault? stmt = none) :
    Transition p s (s.exec p stmt) := by
  have done {c : Scene} (h : Effect p s.scene stmt c) : Transition p s (s.exec p stmt) :=
    (exec_of_effect h).2 ▸ .next hs h
  have conditional {test : Expr} {yes : Stmt} {no : Option Stmt}
      (hb : stmt.branches? = some (test, yes, no)) : Transition p s (s.exec p stmt) := by
    cases hc : chosenBranch (s.scene.eval test) yes no with
    | none => exact done (.leave hb hc)
    | some chosen => exact (exec_of_branch hb hc).2 ▸ .branch hs hb hc
  cases stmt with
  | assign name value =>
      exact done (.assign (State.eval_scene s value ▸ sayFault?_eq_none_iff.mp hf))
  | move amount course =>
      exact done (.move (State.eval_scene s amount ▸ sayFault?_eq_none_iff.mp hf))
  | turn side => exact done .turn
  | scan =>
      cases hseen : (sight s.world.actor s.world.opponent).seen with
      | true =>
          simp only [State.fault?, hseen, ↓reduceIte] at hf
          exact done (.spot hseen (sayFault?_eq_none_iff.mp hf))
      | false => exact done (.lose hseen)
  | attack => exact done .attack
  | ifThen test yes => exact conditional rfl
  | ifElse test yes no => exact conditional rfl
  | call name =>
      cases hb : p.functions.get? name with
      | none => exact done (.unknownCall hb)
      | some body => exact exec_of_call (s := s) hb ▸ .call hs hb
  | noop => exact done .noop
  | function name body => exact done .declaration

theorem step_of_current (h : (s.top p).current? = some stmt) (hf : s.fault? stmt = none) :
    step p s = .ok (some (s.exec p stmt)) := by
  unfold Frame.current? at h
  split at h
  · cases h
  · rename_i hlt
    simp only [step, State.activeBody_eq s p, State.activeCounter_eq s p, hlt, ↓reduceIte, h, hf]

/-- The rules allow exactly the steps that the machine takes. -/
theorem step_eq_ok_some_iff : step p s = .ok (some t) ↔ Transition p s t := by
  constructor
  · intro h
    simp only [step, State.activeBody_eq s p, State.activeCounter_eq s p] at h
    split at h
    · rename_i hle
      split at h
      · cases h
      · rename_i f fs hstack
        simp only [Except.ok.injEq, Option.some.injEq] at h
        rw [State.top_cons hstack] at hle
        exact h ▸ .pop hstack hle
    · rename_i hlt
      split at h
      · rename_i stmt hstmt
        have hcur : (s.top p).current? = some stmt := by simp [Frame.current?, hlt, hstmt]
        split at h
        · rename_i hf
          simp only [Except.ok.injEq, Option.some.injEq] at h
          exact h ▸ transition_exec hcur hf
        · cases h
      · cases h
  · intro h
    cases h with
    | next hs he =>
        obtain ⟨hf, hx⟩ := exec_of_effect he
        rw [step_of_current hs hf, hx]
    | branch hs hb hc =>
        obtain ⟨hf, hx⟩ := exec_of_branch (p := p) hb hc
        rw [step_of_current hs hf, hx]
    | call hs hb => rw [step_of_current hs rfl, exec_of_call hb]
    | pop hstack hle =>
        have htop := State.top_cons (p := p) hstack
        simp only [step, State.activeBody_eq s p, State.activeCounter_eq s p, htop, hle, ↓reduceIte,
          hstack]
        rfl

/-- The machine has nothing to do exactly when its program is finished. -/
theorem step_eq_ok_none_iff : step p s = .ok none ↔ s.runtime.isFinished p = true := by
  rw [Runtime.isFinished, Bool.and_eq_true_iff, decide_eq_true_iff, List.isEmpty_iff]
  constructor
  · intro h
    unfold step at h
    dsimp only at h
    split at h
    · rename_i hdone
      split at h
      · rename_i hstack
        simp only [Runtime.activeBody, Runtime.activeCounter, hstack] at hdone
        exact ⟨hstack, hdone⟩
      · cases h
    · split at h
      · split at h <;> cases h
      · cases h
  · rintro ⟨hstack, hdone⟩
    simp only [step, Runtime.activeBody, Runtime.activeCounter, hstack, hdone, ↓reduceIte]

/-! ## Faults -/

variable {e : Fault}

theorem eq_tooManyDigits_of_fault? (h : s.fault? stmt = some e) : e = .tooManyDigits := by
  have hsay {n : Int} (h : sayFault? n = some e) : e = .tooManyDigits := by
    unfold sayFault? at h
    split at h <;> cases h
    rfl
  cases stmt with
  | assign name value => exact hsay h
  | move amount course => exact hsay h
  | scan =>
      simp only [State.fault?] at h
      split at h
      · exact hsay h
      · cases h
  | _ => cases h

theorem statementAt?_eq_none_iff {body : List Stmt} {counter : Int}
    (h : counter < body.length) : statementAt? body counter = none ↔ body.length + counter < 0 := by
  unfold statementAt?
  split
  · rw [List.getElem?_eq_none_iff]; omega
  · split
    · rw [List.getElem?_eq_none_iff]; omega
    · simp; omega

theorem step_of_fault (h : (s.top p).current? = some stmt) (hf : s.fault? stmt = some e) :
    step p s = .error e := by
  unfold Frame.current? at h
  split at h
  · cases h
  · rename_i hlt
    simp only [step, State.activeBody_eq s p, State.activeCounter_eq s p, hlt, ↓reduceIte, h, hf]

theorem afterFault_of_current (h : (s.top p).current? = some stmt) :
    s.afterFault p .tooManyDigits = s.unsaid stmt := by
  unfold Frame.current? at h
  split at h
  · cases h
  · simp only [State.afterFault, State.activeBody_eq s p, State.activeCounter_eq s p, h]

/-- A step comes to a fault where no statement lies under the counter, and where the statement
there has too long a number to say. -/
theorem step_eq_error_iff : step p s = .error e ↔
    (∃ stmt, (s.top p).current? = some stmt ∧ s.fault? stmt = some e) ∨
      ((s.top p).body.length + (s.top p).counter < 0 ∧
        e = if (s.top p).counter < minCounter then .counterTooLarge else .counterOutOfRange) := by
  constructor
  · intro h
    simp only [step, State.activeBody_eq s p, State.activeCounter_eq s p] at h
    split at h
    · split at h <;> cases h
    · rename_i hlt
      split at h
      · rename_i stmt hstmt
        have hcur : (s.top p).current? = some stmt := by simp [Frame.current?, hlt, hstmt]
        split at h
        · cases h
        · rename_i fault hf
          cases h
          exact .inl ⟨stmt, hcur, hf⟩
      · rename_i hnone
        cases h
        exact .inr ⟨(statementAt?_eq_none_iff (Int.not_le.mp hlt)).mp hnone, rfl⟩
  · rintro (⟨stmt, hs, hf⟩ | ⟨hlow, rfl⟩)
    · exact step_of_fault hs hf
    · have hlt : (s.top p).counter < (s.top p).body.length := by omega
      simp only [step, State.activeBody_eq s p, State.activeCounter_eq s p, Int.not_le.mpr hlt,
        ↓reduceIte, (statementAt?_eq_none_iff hlt).mpr hlow]

/-- The counter lies before the first statement, or the statement under it has too long a number to
say. -/
def State.Stuck (s : State) (p : Program) : Prop :=
  (s.top p).body.length + (s.top p).counter < 0 ∨
    ∃ stmt, (s.top p).current? = some stmt ∧ s.fault? stmt = some .tooManyDigits

theorem State.stuck_iff : s.Stuck p ↔ ∃ e, step p s = .error e := by
  constructor
  · rintro (hlow | ⟨stmt, hs, hf⟩)
    · exact ⟨_, step_eq_error_iff.mpr (.inr ⟨hlow, rfl⟩)⟩
    · exact ⟨_, step_of_fault hs hf⟩
  · rintro ⟨e, he⟩
    rcases step_eq_error_iff.mp he with ⟨stmt, hs, hf⟩ | ⟨hlow, -⟩
    · exact .inr ⟨stmt, hs, eq_tooManyDigits_of_fault? hf ▸ hf⟩
    · exact .inl hlow

end TankArena.Machine
