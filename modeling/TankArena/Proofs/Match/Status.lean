import TankArena.Proofs.Match.Iteration
import TankArena.Proofs.Match.Outcome
import TankArena.Proofs.Script.Plain

/-!
# The lines that can stand in the status

A step writes one of a few lines or leaves the one that stands there. The rest of the tick only adds
notices to it, so with a program that was read no status line gets two dollar signs.
-/

namespace TankArena.Machine

open Arena Script Text

variable {p : Program} {s t : State} {c d : Scene} {stmt : Stmt} {message : String}

/-- The status lines that the statements of a line write. -/
inductive IsStatus : String → Prop
  | assign {name value} : isName name.toList = true →
      IsStatus ("$" ++ name ++ " = " ++ decimal value)
  | move {amount} {course : Course} : IsStatus ("MOVE " ++ decimal amount ++ " " ++ course.name)
  | turn {side : Side} : IsStatus ("TURN " ++ side.name)
  | spot {distance} : IsStatus ("Enemy spotted at " ++ decimal distance ++ " tiles.")
  | lose : IsStatus "No enemy in sight."
  | hit : IsStatus "ATTACK hit! Enemy -40 HP"
  | miss : IsStatus "ATTACK missed."
  | call {name} : isLooseName name.toList = true → IsStatus ("CALL " ++ name)
  | leave {value} : IsStatus ("IF (" ++ decimal value ++ ") no-op")

theorem Effect.isStatus (h : Effect p c stmt d) (hs : stmt.IsLine) :
    d.world = c.world ∨ IsStatus d.world.message := by
  cases h with
  | assign _ => exact .inr (.assign hs.1)
  | move _ => exact .inr .move
  | turn => exact .inr .turn
  | spot _ _ => exact .inr .spot
  | lose _ => exact .inr .lose
  | attack =>
      right
      change IsStatus (attackOpponent c.world).message
      unfold attackOpponent
      split
      · exact .hit
      · exact .miss
  | noop => exact .inl rfl
  | declaration => exact .inl rfl
  | unknownCall _ => exact .inr (.call hs)
  | leave _ _ => exact .inr .leave

/-- A step leaves the world as it is or writes a status line of its own. -/
theorem Transition.isStatus (h : Transition p s t) (hf : ∀ f ∈ s.frames p, f.Sound) :
    t.world = s.world ∨ IsStatus t.world.message := by
  have hline : ∀ stmt, (s.top p).current? = some stmt → stmt.IsLine := fun stmt hs =>
    (hf _ (s.top_mem_frames p)).body stmt (Frame.mem_body_of_current? hs)
  cases h with
  | next hs he => exact he.isStatus (hline _ hs)
  | branch _ _ _ => exact .inl rfl
  | call hs _ => exact .inr (.call (hline _ hs))
  | pop _ _ => exact .inl rfl

/-! ## Dollar signs -/

def dollarSigns (message : String) : Nat := message.toList.count '$'

theorem dollarSigns_eq_zero (h : '$' ∉ message.toList) : dollarSigns message = 0 :=
  List.count_eq_zero.mpr h

theorem dollarSigns_append (a b : String) : dollarSigns (a ++ b) = dollarSigns a + dollarSigns b := by
  rw [dollarSigns, String.toList_append, List.count_append]
  rfl

theorem dollarSigns_decimal (n : Int) : dollarSigns (decimal n) = 0 :=
  dollarSigns_eq_zero (notMem_decimal (by decide) rfl n)

/-- A variable is told with a dollar sign, and nothing else is. -/
theorem IsStatus.dollarSigns_le (h : IsStatus message) : dollarSigns message ≤ 1 := by
  have hname {name : String} (h : isLooseName name.toList = true) : dollarSigns name = 0 :=
    dollarSigns_eq_zero fun hc => absurd (isLooseNameChar_of_isLooseName h _ hc) (by decide)
  have hzero (s : String) (h : '$' ∉ s.toList) : dollarSigns s = 0 := dollarSigns_eq_zero h
  cases h with
  | assign hn =>
      have hn : dollarSigns _ = 0 :=
        dollarSigns_eq_zero fun hc => absurd (isNameChar_of_isName hn _ hc) (by decide)
      simp only [dollarSigns_append, dollarSigns_decimal, hn, hzero " = " (by decide)]
      decide
  | @move amount course =>
      have hcourse : dollarSigns course.name = 0 := by cases course <;> decide
      simp only [dollarSigns_append, dollarSigns_decimal, hcourse]
      decide
  | @turn side =>
      have hside : dollarSigns side.name = 0 := by cases side <;> decide
      simp only [dollarSigns_append, hside]
      decide
  | spot =>
      simp only [dollarSigns_append, dollarSigns_decimal]
      decide
  | lose => decide
  | hit => decide
  | miss => decide
  | call hn =>
      simp only [dollarSigns_append, hname hn]
      decide
  | leave =>
      simp only [dollarSigns_append, dollarSigns_decimal]
      decide

end TankArena.Machine

namespace TankArena.Match

open Arena Machine Script Text

variable {u v : Simulation} {executed : Bool} {w : World}

/-! ## Ticks -/

/-- What a tick leaves in the status is what its step wrote or left there, with notices. -/
theorem Tick.exists_isStatus (h : Tick u executed v) (hover : u.isOver = false)
    (hf : ∀ f ∈ u.frames, f.Sound) : ∃ w, Acted u.world w ∧ v.world = afterStep w ∧
      (w = u.world ∨ IsStatus w.message) := by
  cases h with
  | ended hover' => rw [hover] at hover'; cases hover'
  | idle _ _ => exact ⟨u.world, .refl _, rfl, .inl rfl⟩
  | act _ ht => exact ⟨_, ht.acted, rfl, ht.isStatus hf⟩

theorem dollarSigns_joinNotice {message notice : String} (h : dollarSigns notice = 0) :
    dollarSigns (joinNotice message notice) = dollarSigns message := by
  unfold joinNotice
  split
  · rename_i hempty
    rw [String.isEmpty_iff.mp hempty, h]
    rfl
  · rw [dollarSigns_append, dollarSigns_append, h]
    rfl

theorem dollarSigns_opponentStep (w : World) :
    dollarSigns w.opponentStep.message = dollarSigns w.message := by
  unfold World.opponentStep
  split
  · rfl
  · split
    · exact dollarSigns_append _ _
    · rfl

theorem dollarSigns_afterStep (w : World) :
    dollarSigns (afterStep w).message = dollarSigns w.message := by
  rw [← dollarSigns_opponentStep w]
  change dollarSigns (announceOutcome _).message = _
  unfold announceOutcome
  have henemy : dollarSigns "Enemy destroyed!" = 0 := by decide
  have hactor : dollarSigns "You were destroyed." = 0 := by decide
  dsimp only
  split <;> split <;> simp only [dollarSigns_joinNotice henemy, dollarSigns_joinNotice hactor]

theorem Simulation.dollarSigns_afterTicks {program : Program} {start : World} {k : Nat}
    (hp : program.IsRead) (hstart : dollarSigns start.message ≤ 1)
    (h : Simulation.afterTicks { program, world := start } k = .ok u) :
    dollarSigns u.world.message ≤ 1 := by
  have hps : ∀ q ∈ [program], q.WellFormed := by
    intro q hq
    rw [List.mem_singleton.mp hq]
    exact hp.wellFormed
  have hu : dollarSigns u.world.message ≤ 1 ∧ u.Traced [program] := by
    refine Simulation.afterTicks_induction
      (P := fun v => dollarSigns v.world.message ≤ 1 ∧ v.Traced [program])
      ⟨hstart, Simulation.traced_start hps List.mem_cons_self start⟩ ?_ h
    rintro v executed w ⟨hv, htraced⟩ ht
    refine ⟨?_, Simulation.ticked_of_tick ht ▸ htraced.ticked hps⟩
    cases hover : v.isOver with
    | true =>
        rw [(tick_eq_ok_iff.mp ht).eq_iff.mpr hover]
        exact hv
    | false =>
        have hsound := fun f hf => (htraced.frames f hf).sound
        obtain ⟨x, -, hx, hstatus⟩ := (tick_eq_ok_iff.mp ht).exists_isStatus hover hsound
        rw [hx, dollarSigns_afterStep]
        rcases hstatus with rfl | hstatus
        · exact hv
        · exact hstatus.dollarSigns_le
  exact hu.1

end TankArena.Match
