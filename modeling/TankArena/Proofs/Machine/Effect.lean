import TankArena.Proofs.Arena.Board
import TankArena.Proofs.Machine.Transition
import TankArena.Proofs.Table

/-!
# What a step changes

A step moves or turns the actor, or hits the opponent once. It never moves the clock and never hurts
the actor, and in the store it sets one variable at most. What is left behind by a step that comes to
a fault is no more than that.
-/

namespace TankArena.Machine

open Arena Script Text

variable {p : Program} {s t : State} {c d : Scene} {stmt : Stmt}

/-! ## The world -/

/-- What a step, finished or not, can do to the world. -/
structure Acted (w w' : World) : Prop where
  clock : w'.tick = w.tick
  unhurt : w'.actor.health = w.actor.health
  board : w.actor.OnBoard → w'.actor.OnBoard
  shot : w'.opponent = w.opponent ∨ w'.opponent = w.opponent.damaged attackDamage

theorem Acted.refl (w : World) : Acted w w := ⟨rfl, rfl, id, .inl rfl⟩

theorem Acted.say {w w' : World} (h : Acted w w') (message : String) :
    Acted w { w' with message } := ⟨h.clock, h.unhurt, h.board, h.shot⟩

theorem Acted.onBoard {w w' : World} (h : Acted w w') (hw : w.OnBoard) : w'.OnBoard := by
  refine ⟨h.board hw.actor, ?_⟩
  rcases h.shot with hs | hs
  · exact hs ▸ hw.opponent
  · exact hs ▸ hw.opponent.of_eq rfl rfl

theorem health_drive (dx dy : Int) (n : Nat) (t : Tank) : (drive dx dy n t).health = t.health := by
  induction n generalizing t with
  | zero => rfl
  | succ n ih =>
      rw [drive]
      split
      · rfl
      · exact ih (t.shifted dx dy)

theorem acted_moveActor (w : World) (course : Course) (amount : Int) :
    Acted w (moveActor w course amount) :=
  ⟨rfl, health_drive _ _ _ _, onBoard_drive _ _ _, .inl rfl⟩

theorem acted_turnActor (w : World) (side : Side) : Acted w (turnActor w side) :=
  ⟨rfl, rfl, fun h => h.of_eq rfl rfl, .inl rfl⟩

theorem acted_attackOpponent (w : World) : Acted w (attackOpponent w) := by
  unfold attackOpponent
  split
  · exact ⟨rfl, rfl, id, .inr rfl⟩
  · exact (Acted.refl w).say _

theorem Effect.acted (h : Effect p c stmt d) : Acted c.world d.world := by
  cases h with
  | move _ => exact (acted_moveActor c.world _ _).say _
  | turn => exact (acted_turnActor c.world _).say _
  | attack => exact acted_attackOpponent c.world
  | noop => exact .refl _
  | declaration => exact .refl _
  | _ => exact (Acted.refl c.world).say _

theorem Transition.acted (h : Transition p s t) : Acted s.world t.world := by
  cases h with
  | next _ he => exact he.acted
  | call _ _ => exact (Acted.refl s.world).say _
  | _ => exact .refl _

theorem acted_afterFault (s : State) (p : Program) (e : Fault) :
    Acted s.world (s.afterFault p e).world := by
  cases e with
  | tooManyDigits =>
      simp only [State.afterFault]
      split
      · rename_i stmt _
        cases stmt with
        | move amount course => exact acted_moveActor s.world course _
        | _ => exact .refl _
      · exact .refl _
  | _ => exact .refl _

/-- The actor is on the same cell. -/
def Stays (w w' : World) : Prop := w'.actor.x = w.actor.x ∧ w'.actor.y = w.actor.y

theorem Effect.stays (h : Effect p c stmt d) (hm : ∀ amount course, stmt ≠ .move amount course) :
    Stays c.world d.world := by
  cases h with
  | move _ => exact absurd rfl (hm _ _)
  | attack =>
      change Stays c.world (attackOpponent c.world)
      unfold attackOpponent
      split <;> exact ⟨rfl, rfl⟩
  | _ => exact ⟨rfl, rfl⟩

/-- Only a move takes the actor to another cell. -/
theorem Transition.stays (h : Transition p s t)
    (hm : ∀ amount course, (s.top p).current? ≠ some (.move amount course)) :
    Stays s.world t.world := by
  cases h with
  | next hs he =>
      refine he.stays fun amount course hmove => ?_
      rw [hmove] at hs
      exact hm amount course hs
  | _ => exact ⟨rfl, rfl⟩

theorem stays_afterFault {e : Fault} (h : step p s = .error e)
    (hm : ∀ amount course, (s.top p).current? ≠ some (.move amount course)) :
    Stays s.world (s.afterFault p e).world := by
  rcases step_eq_error_iff.mp h with ⟨stmt, hcur, hf⟩ | ⟨-, he⟩
  · rw [eq_tooManyDigits_of_fault? hf, afterFault_of_current hcur]
    cases stmt with
    | move amount course => exact absurd hcur (hm amount course)
    | _ => exact ⟨rfl, rfl⟩
  · split at he <;> cases he <;> exact ⟨rfl, rfl⟩

/-! ## The store -/

theorem State.store_advance (s : State) : s.advance.runtime.store = s.runtime.store := by
  cases h : s.runtime.stack <;> simp [State.advance, Runtime.advance, h]

/-- A step sets no variable, the one it assigns, or the answer of a scan. -/
theorem Transition.store_cases (h : Transition p s t) : t.runtime.store = s.runtime.store ∨
    (∃ name value, (s.top p).current? = some (.assign name value) ∧
      isWritable (s.runtime.eval value) = true ∧
      t.runtime.store = s.runtime.store.insert name (s.runtime.eval value)) ∨
    ∃ value, (value = 0 ∨ value = 1) ∧
      t.runtime.store = s.runtime.store.insert enemyVariable value := by
  cases h with
  | next hs he =>
      rw [State.store_advance]
      cases he with
      | assign hw =>
          rw [State.eval_scene] at hw ⊢
          exact .inr (.inl ⟨_, _, hs, hw, rfl⟩)
      | spot _ _ => exact .inr (.inr ⟨1, .inr rfl, rfl⟩)
      | lose _ => exact .inr (.inr ⟨0, .inl rfl, rfl⟩)
      | _ => exact .inl rfl
  | call _ _ => exact .inl (State.store_advance s)
  | _ => exact .inl rfl

theorem forall_mem_insert (P : Int → Prop) {store : Table Int} {name : String} {value : Int}
    (h : ∀ e ∈ store.entries, P e.2) (hv : P value) :
    ∀ e ∈ (store.insert name value).entries, P e.2 := by
  intro e he
  rcases mem_of_mem_putEntry he with rfl | he
  · exact hv
  · exact h e he

/-- What an expression gives: its number, 0, or a value that was kept. -/
theorem forall_eval (P : Int → Prop) {r : Runtime} (hzero : P 0) (h : ∀ e ∈ r.store.entries, P e.2)
    {value : Expr} (hlit : ∀ n, value = .literal n → P n) : P (r.eval value) := by
  rcases value with n | name
  · exact hlit n rfl
  · cases hv : r.store.get? name with
    | none => simpa only [Runtime.eval, hv, Option.getD_none] using hzero
    | some n => simpa only [Runtime.eval, hv, Option.getD_some] using h _ (Table.mem_of_get? hv)

end TankArena.Machine
