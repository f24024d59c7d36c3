import TankArena.Proofs.Arena.Pursuit
import TankArena.Proofs.Match.Iteration
import TankArena.Proofs.Match.Outcome

/-!
# A tank that stays where it is

An actor that the opponent has reached, or comes to as from the opening, is not hurt while it stays
on its cell. So a program without a move comes out of its match unhurt, whatever else it does.
-/

namespace TankArena.Script

variable {p : Program} {stmt yes chosen : Stmt} {no : Option Stmt} {test : Expr}

/-- The statement is a move or has a branch that is one. -/
def Stmt.drives : Stmt → Bool
  | .move .. => true
  | .ifThen _ yes => yes.drives
  | .ifElse _ yes no => yes.drives || no.drives
  | _ => false

def Program.drives (p : Program) : Bool :=
  (p.main ++ p.functions.entries.flatMap Prod.snd).any Stmt.drives

theorem Stmt.drives_of_branch (hb : stmt.branches? = some (test, yes, no))
    (hc : chosen = yes ∨ no = some chosen) (h : stmt.drives = false) : chosen.drives = false := by
  cases stmt with
  | ifThen test' yes' =>
      cases hb
      rcases hc with rfl | hc
      · exact h
      · cases hc
  | ifElse test' yes' no' =>
      cases hb
      obtain ⟨hyes, hno⟩ := Bool.or_eq_false_iff.mp h
      rcases hc with rfl | hc
      · exact hyes
      · cases hc
        exact hno
  | _ => cases hb

theorem Program.drives_eq_false_iff : p.drives = false ↔ (∀ stmt ∈ p.main, stmt.drives = false) ∧
    ∀ e ∈ p.functions.entries, ∀ stmt ∈ e.2, stmt.drives = false := by
  simp only [Program.drives, List.any_eq_false, List.mem_append, List.mem_flatMap, Bool.not_eq_true]
  constructor
  · intro h
    exact ⟨fun stmt hs => h stmt (.inl hs), fun e he stmt hs => h stmt (.inr ⟨e, he, hs⟩)⟩
  · rintro ⟨hmain, hbodies⟩ stmt (hs | ⟨e, he, hs⟩)
    · exact hmain stmt hs
    · exact hbodies e he stmt hs

end TankArena.Script

namespace TankArena.Machine

open Arena Script

variable {p : Program} {w w' : World} {fs gs : List Frame}

theorem Shift.drives (hp : p.drives = false) (hs : Shift p fs gs)
    (h : ∀ f ∈ fs, ∀ stmt ∈ f.body, stmt.drives = false) :
    ∀ f ∈ gs, ∀ stmt ∈ f.body, stmt.drives = false := by
  refine hs.forall_mem h (fun f hf => hf) ?_ ?_
  · intro f hf stmt hstmt test yes no chosen hb hc branch hbranch
    rw [List.mem_singleton.mp hbranch]
    exact Stmt.drives_of_branch hb hc (h f hf stmt hstmt)
  · intro name body hb
    exact (Program.drives_eq_false_iff.mp hp).2 _ (Table.mem_of_get? hb)

theorem Shift.counter (hs : Shift p fs gs) (h : ∀ f ∈ fs, 0 ≤ f.counter) :
    ∀ f ∈ gs, 0 ≤ f.counter := by
  refine hs.forall_mem h (fun f hf => ?_) (fun _ _ _ _ _ _ _ _ _ _ => Int.le_refl 0)
    fun _ _ _ => Int.le_refl 0
  simp only [Frame.next]
  omega

theorem Acted.harmless (h : Acted w w') (hs : Stays w w') (hw : w.Harmless) : w'.Harmless := by
  rcases h.shot with ho | ho
  · exact hw.of_eq hs.1 hs.2 (by rw [ho]) (by rw [ho]) (by rw [ho])
  · exact hw.of_eq hs.1 hs.2 (by rw [ho]; rfl) (by rw [ho]; rfl) (by rw [ho]; rfl)

end TankArena.Machine

namespace TankArena.Match

open Arena Machine Script Text

variable {u v : Simulation} {program : Program} {executed : Bool} {e : Fault}

/-! ## Ticks without a move -/

theorem harmless_afterStep {w : World} (h : w.Harmless) (hw : w.OnBoard) :
    (afterStep w).Harmless ∧ (afterStep w).actor = w.actor := by
  obtain ⟨hstep, hactor⟩ := h.opponentStep hw
  exact ⟨hstep.of_eq rfl rfl rfl rfl rfl, hactor⟩

/-- The next tick runs a move. -/
def Simulation.Drives (u : Simulation) : Prop :=
  u.isOver = false ∧
    ∃ amount course, (u.state.top u.program).current? = some (.move amount course)

theorem Simulation.stays_ticked (hover : u.isOver = false) (hm : ¬ u.Drives) :
    ∃ w, Acted u.world w ∧ Stays u.world w ∧
      (u.ticked.world = afterStep w ∨ u.ticked.world = w) := by
  have hmove : ∀ amount course,
      (u.state.top u.program).current? ≠ some (.move amount course) :=
    fun amount course hs => hm ⟨hover, amount, course, hs⟩
  rcases u.ticked_cases with ⟨executed, v, ht, hv⟩ | ⟨e, he, hv⟩
  · rw [hv]
    cases ht with
    | ended hover' => rw [hover] at hover'; cases hover'
    | idle _ _ => exact ⟨u.world, .refl _, ⟨rfl, rfl⟩, .inl rfl⟩
    | act _ ht => exact ⟨_, ht.acted, ht.stays hmove, .inl rfl⟩
  · rw [hv]
    exact ⟨_, acted_afterFault u.state u.program e,
      stays_afterFault (tick_eq_error_iff.mp he).2 hmove, .inr rfl⟩

theorem Simulation.harmless_ticked (hb : u.world.OnBoard) (h : u.world.Harmless)
    (hm : ¬ u.Drives) :
    u.ticked.world.Harmless ∧ u.ticked.world.actor.health = u.world.actor.health := by
  cases hover : u.isOver with
  | true =>
      rw [Simulation.ticked_of_isOver hover]
      exact ⟨h, rfl⟩
  | false =>
      obtain ⟨w, hacted, hstays, hw⟩ := Simulation.stays_ticked hover hm
      have hharmless := hacted.harmless hstays h
      rcases hw with hafter | hfault
      · obtain ⟨hstep, hactor⟩ := harmless_afterStep hharmless (hacted.onBoard hb)
        rw [hafter, hactor]
        exact ⟨hstep, hacted.unhurt⟩
      · rw [hfault]
        exact ⟨hharmless, hacted.unhurt⟩

/-- By induction on the ticks: the opponent stays harmless, so that no tick hurts the actor. -/
theorem Simulation.health_iterate (hb : u.world.OnBoard) (h : u.world.Harmless) (n : Nat)
    (hm : ∀ k < n, ¬ (Simulation.ticked^[k] u).Drives) :
    (Simulation.ticked^[n] u).world.actor.health = u.world.actor.health := by
  induction n generalizing u with
  | zero => rfl
  | succ n ih =>
      obtain ⟨hharmless, hhealth⟩ :=
        Simulation.harmless_ticked hb h (hm 0 (Nat.succ_pos n))
      rw [Function.iterate_succ_apply, ← hhealth]
      exact ih (Simulation.onBoard_ticked hb) hharmless fun k hk =>
        hm (k + 1) (Nat.succ_lt_succ hk)

/-! ## Programs without a move -/

/-- Nothing that the program or its frames hold is a move. -/
structure Simulation.Parked (u : Simulation) : Prop where
  program : u.program.drives = false
  frames : ∀ f ∈ u.frames, ∀ stmt ∈ f.body, stmt.drives = false

theorem Simulation.parked_start (h : program.drives = false) (w : World) :
    ({ program, world := w } : Simulation).Parked := by
  refine ⟨h, fun f hf => ?_⟩
  rw [List.mem_singleton.mp hf]
  exact (Program.drives_eq_false_iff.mp h).1

theorem Simulation.Parked.ticked (h : u.Parked) : u.ticked.Parked :=
  ⟨u.program_ticked ▸ h.program, u.shift_ticked.drives h.program h.frames⟩

theorem Simulation.Parked.iterate (h : u.Parked) (n : Nat) :
    (Simulation.ticked^[n] u).Parked := by
  induction n with
  | zero => exact h
  | succ n ih =>
      rw [Function.iterate_succ_apply']
      exact ih.ticked

theorem Simulation.Parked.not_drives (h : u.Parked) : ¬ u.Drives := by
  rintro ⟨-, amount, course, hs⟩
  have hmove := h.frames _ (u.state.top_mem_frames _) _ (Frame.mem_body_of_current? hs)
  cases hmove

theorem Simulation.Parked.health_initial (h : program.drives = false) (n : Nat) :
    (Simulation.ticked^[n] { program }).world.actor.health = maxHealth :=
  Simulation.health_iterate World.onBoard_initial (.inl World.descends_initial) n fun k _ =>
    ((Simulation.parked_start h .initial).iterate k).not_drives

/-! ## Faults of such programs -/

/-- No counter is negative, and every number that is kept or will be assigned is 0, 1 or a number
that the program assigns. -/
structure Simulation.Accounted (u : Simulation) : Prop where
  counters : ∀ f ∈ u.frames, 0 ≤ f.counter
  frames : ∀ f ∈ u.frames, ∀ stmt ∈ f.body, ∀ n ∈ stmt.assigned, ∃ q ∈ [u.program], n ∈ q.assigned
  store : ∀ e ∈ u.runtime.store.entries, IsKnown [u.program] e.2

theorem Simulation.accounted_start (program : Program) (w : World) :
    ({ program, world := w } : Simulation).Accounted := by
  refine ⟨fun f hf => ?_, fun f hf stmt hs n hn => ?_, fun e he => by cases he⟩
  · rw [List.mem_singleton.mp hf]
    exact Int.le_refl 0
  · rw [List.mem_singleton.mp hf] at hs
    exact ⟨program, List.mem_cons_self, Program.mem_assigned_of_main hs hn⟩

theorem Simulation.Accounted.tick (h : u.Accounted) (ht : u.tick = .ok (executed, v)) :
    v.Accounted := by
  have hshift := u.shift_ticked
  have hprogram := u.program_ticked
  rw [Simulation.ticked_of_tick ht] at hshift hprogram
  refine ⟨hshift.counter h.counters, ?_, ?_⟩
  · rw [hprogram]
    exact hshift.assigned List.mem_cons_self h.frames
  · rw [hprogram]
    cases tick_eq_ok_iff.mp ht with
    | ended _ => exact h.store
    | idle _ _ => exact h.store
    | act _ htr => exact isKnown_transition h.store h.frames htr

/-- Without a move, only an assignment can have too long a number to say. -/
theorem Simulation.Accounted.exists_of_error (h : u.Accounted) (hp : u.Parked)
    (hb : u.world.OnBoard) (he : u.tick = .error e) :
    e = .tooManyDigits ∧ ∃ n ∈ u.program.assigned, isWritable n = false := by
  obtain ⟨hover, hstep⟩ := tick_eq_error_iff.mp he
  rcases step_eq_error_iff.mp hstep with ⟨stmt, hcur, hf⟩ | ⟨hlow, -⟩
  · refine ⟨eq_tooManyDigits_of_fault? hf, ?_⟩
    cases stmt with
    | assign name value =>
        have hlong : isWritable (u.runtime.eval value) = false := by
          rw [← Bool.not_eq_true, ← sayFault?_eq_none_iff]
          intro hnone
          have hsome : sayFault? (u.runtime.eval value) = some e := hf
          rw [hnone] at hsome
          cases hsome
        rcases isKnown_eval (s := u.state) h.store h.frames hcur with hzero | hone | ⟨q, hq, hn⟩
        · have hvalue : u.runtime.eval value = 0 := hzero
          rw [hvalue] at hlong
          cases hlong
        · have hvalue : u.runtime.eval value = 1 := hone
          rw [hvalue] at hlong
          cases hlong
        · rw [List.mem_singleton.mp hq] at hn
          exact ⟨_, hn, hlong⟩
    | move amount course => exact absurd ⟨hover, amount, course, hcur⟩ hp.not_drives
    | scan =>
        have hnone : u.state.fault? .scan = none := by
          simp only [State.fault?, sayFault?, hb.isWritable_distance, Simulation.state, ↓reduceIte,
            ite_self]
        rw [hnone] at hf
        cases hf
    | _ => cases hf
  · have hcounter := h.counters _ (u.state.top_mem_frames _)
    omega

theorem Simulation.iterate_of_afterTicks {k : Nat} (h : u.afterTicks k = .ok v) :
    Simulation.ticked^[k] u = v := by
  induction k generalizing v with
  | zero => cases h; rfl
  | succ k ih =>
      obtain ⟨w, executed, hw, ht⟩ := Simulation.afterTicks_succ_eq_ok_iff.mp h
      rw [Function.iterate_succ_apply', ih hw, Simulation.ticked_of_tick ht]

/-- A program without a move that comes to a fault assigns a number that no script can hold. -/
theorem runFrom_of_not_drives (h : program.drives = false) (settings : Settings) (keep : Bool) :
    (∃ r, runFrom settings keep program .initial = .ok r) ∨
    (runFrom settings keep program .initial = .error .tooManyDigits ∧
      ∃ n ∈ program.assigned, isWritable n = false) := by
  rcases runFrom_cases settings program .initial with ⟨ts, v, -, hrun⟩ | ⟨ts, v, e, hplays, hrun⟩
  · exact .inl ⟨_, hrun keep⟩
  · right
    let u : Simulation := { program }
    have hv : v.Accounted ∧ v.Parked ∧ v.world.OnBoard ∧ v.program = program := by
      refine Simulation.afterTicks_induction (u := u)
        (P := fun v => v.Accounted ∧ v.Parked ∧ v.world.OnBoard ∧ v.program = program)
        ⟨Simulation.accounted_start program .initial, Simulation.parked_start h .initial,
          World.onBoard_initial, rfl⟩ ?_ hplays.afterTicks
      rintro v executed w ⟨hacc, hparked, hboard, hprogram⟩ ht
      have hw := Simulation.ticked_of_tick ht
      refine ⟨hacc.tick ht, hw ▸ hparked.ticked, hw ▸ Simulation.onBoard_ticked hboard, ?_⟩
      rw [← hw, Simulation.program_ticked, hprogram]
    obtain ⟨hacc, hparked, hboard, hprogram⟩ := hv
    rcases hplays.ends with ⟨hnone, -⟩ | ⟨e', he, -, htick⟩
    · cases hnone
    · cases he
      obtain ⟨rfl, hlong⟩ := hacc.exists_of_error hparked hboard htick
      exact ⟨hrun keep, hprogram ▸ hlong⟩

/-- While no move is run, an actor on whose cell the opponent stands is not hurt. So from the opening
no program without a move is ever hurt: its match ends without damage and is not lost. The match of
such a program has a result unless the program assigns a number that no script can hold. -/
theorem still_actor_unhurt :
    (∀ (u : Simulation) (n : Nat), u.world.OnBoard → u.world.opponent.isDestroyed = false →
      u.world.opponent.x = u.world.actor.x → u.world.opponent.y = u.world.actor.y →
      (∀ k < n, ¬ (Simulation.ticked^[k] u).Drives) →
      (Simulation.ticked^[n] u).world.actor.health = u.world.actor.health) ∧
    ∀ program : Program, program.drives = false →
      (∀ n, (Simulation.ticked^[n] { program }).world.actor.health = 100) ∧
      ∀ settings keep,
        (∃ r, runFrom settings keep program .initial = .ok r ∧ r.damageTaken = 0 ∧
          r.winner ≠ some .opponent) ∨
        (runFrom settings keep program .initial = .error .tooManyDigits ∧ ¬ program.IsRead ∧
          ∃ n ∈ program.assigned, isWritable n = false) := by
  refine ⟨fun u n hb _ hx hy hm => ?_, fun program h => ⟨Simulation.Parked.health_initial h, ?_⟩⟩
  · exact Simulation.health_iterate hb (.inr ⟨hx, .inl hy⟩) n hm
  · intro settings keep
    rcases runFrom_of_not_drives h settings keep with ⟨r, hr⟩ | ⟨herror, n, hn, hlong⟩
    · left
      obtain ⟨ts, v, hplays, rfl⟩ := exists_plays_of_runFrom hr
      have hhealth : v.world.actor.health = maxHealth := by
        rw [← Simulation.iterate_of_afterTicks hplays.afterTicks]
        exact Simulation.Parked.health_initial h ts.length
      refine ⟨_, hr, ?_, fun hwinner => ?_⟩
      · simp only [Result.damageTaken, resultOf, hhealth, Int.sub_self]
      · have hdestroyed := (Simulation.winner_eq_opponent_iff.mp hwinner).1
        simp [Tank.isDestroyed, hhealth, maxHealth] at hdestroyed
    · refine .inr ⟨herror, fun hread => ?_, n, hn, hlong⟩
      rw [hread.wellFormed.isWritable_assigned hn] at hlong
      cases hlong

/-- In the top row the opponent stays on the actor's cell; from the opening it has to come first. -/
theorem still_actor_unhurt_top_row : ∃ (u : Simulation) (program : Program),
    u.world.actor.y = 0 ∧ u.world.opponent.x = u.world.actor.x ∧
    u.world.opponent.y = u.world.actor.y ∧ u.world.opponent.isDestroyed = false ∧
    (∀ k < 9, ¬ (Simulation.ticked^[k] u).Drives) ∧
    (Simulation.ticked^[9] u).world.actor.health = u.world.actor.health ∧
    Program.parse 1 "TURN RIGHT; ATTACK;" = .ok program ∧ program.drives = false ∧
    ∃ r, runFrom {} true program .initial = .ok r ∧ r.damageTaken = 0 ∧
      r.winner ≠ some .opponent := by
  let program : Program := { main := [.turn .right, .attack] }
  let w : World := { actor := { x := 4, y := 0 }, opponent := { x := 4, y := 0, facing := .left } }
  have hparse : Program.parse 1 "TURN RIGHT; ATTACK;" = .ok program :=
    parse_eq_ok_of_toOption (by decide +kernel)
  have hprogram : program.drives = false := rfl
  have hboard : w.OnBoard :=
    ⟨⟨by decide, by decide, by decide, by decide⟩, ⟨by decide, by decide, by decide, by decide⟩⟩
  have hstill : ∀ k < 9, ¬ (Simulation.ticked^[k] { program, world := w }).Drives :=
    fun k _ => ((Simulation.parked_start hprogram w).iterate k).not_drives
  refine ⟨{ program, world := w }, program, rfl, rfl, rfl, rfl, hstill, ?_, hparse, hprogram, ?_⟩
  · exact still_actor_unhurt.1 _ 9 hboard rfl rfl rfl hstill
  · rcases (still_actor_unhurt.2 program hprogram).2 {} true with hresult | ⟨-, hread, -⟩
    · exact hresult
    · exact absurd ⟨1, _, hparse⟩ hread

end TankArena.Match
