import TankArena.Proofs.Match.Iteration
import TankArena.Proofs.Match.Outcome

/-!
# What hits amount to

In a tick each tank is hit once at most, and only while both stand. So the damage of a match is told
by the number of records in which a health drops: the last hit may take less than a whole one, and
no hit comes after it. An opponent that takes its last hit does not fire any more.
-/

namespace TankArena.Match

open Arena Machine Script

/-! ## Healths one after the other -/

/-- How often a number is less than the one before it. -/
def drops (before : Int) : List Int → Nat
  | [] => 0
  | n :: ns => drops n ns + if n < before then 1 else 0

/-- A health stays, or a tank that stood has lost the amount, as far as it had so much. -/
def Worn (amount before after : Int) : Prop :=
  after = before ∨ (0 < before ∧ after = max 0 (before - amount))

section Worn

variable {amount m n last : Int} {ns : List Int}

theorem drops_cons_self (n : Int) (ns : List Int) : drops n (n :: ns) = drops n ns := by
  rw [drops, if_neg (Int.lt_irrefl _), Nat.add_zero]

theorem drops_cons_of_lt (h : n < m) : drops m (n :: ns) = drops n ns + 1 := by
  rw [drops, if_pos h]

/-- By induction on the healths: what the hits would have taken beyond the last health is lost. -/
theorem eq_of_getLast?_worn (ha : 0 < amount) (h : (m :: ns).IsChain (Worn amount)) (hm : 0 ≤ m)
    (hlast : (m :: ns).getLast? = some last) : last = max 0 (m - amount * drops m ns) := by
  induction ns generalizing m with
  | nil =>
      rw [List.getLast?_singleton, Option.some.injEq] at hlast
      rw [drops, Int.natCast_zero, Int.mul_zero, Int.sub_zero, Int.max_eq_right hm, hlast]
  | cons n ns ih =>
      obtain ⟨hstep, hrest⟩ := List.isChain_cons_cons.mp h
      rw [List.getLast?_cons_cons] at hlast
      rcases hstep with rfl | ⟨hpos, hn⟩
      · rw [drops_cons_self]
        exact ih hrest hm hlast
      · have hmore : 0 ≤ amount * (drops n ns : Int) :=
          Int.mul_nonneg (Int.le_of_lt ha) (Int.natCast_nonneg _)
        rw [drops_cons_of_lt (by omega), ih hrest (by omega) hlast, Int.natCast_succ, Int.mul_add,
          Int.mul_one]
        omega

/-- Before its last drop a health was not used up. -/
theorem mul_drops_lt (ha : 0 < amount) (h : (m :: ns).IsChain (Worn amount))
    (hdrops : 0 < drops m ns) : amount * ((drops m ns : Int) - 1) < m := by
  induction ns generalizing m with
  | nil => exact absurd hdrops (Nat.lt_irrefl 0)
  | cons n ns ih =>
      obtain ⟨hstep, hrest⟩ := List.isChain_cons_cons.mp h
      rcases hstep with rfl | ⟨hpos, hn⟩
      · rw [drops_cons_self] at hdrops ⊢
        exact ih hrest hdrops
      · rw [drops_cons_of_lt (by omega), Int.natCast_succ, Int.add_sub_cancel]
        rcases Nat.eq_zero_or_pos (drops n ns) with hzero | hsome
        · rw [hzero, Int.natCast_zero, Int.mul_zero]
          exact hpos
        · have hbefore := ih hrest hsome
          have hmore : 0 ≤ amount * ((drops n ns : Int) - 1) :=
            Int.mul_nonneg (Int.le_of_lt ha) (by omega)
          rw [Int.mul_sub, Int.mul_one] at hbefore hmore
          omega

end Worn

/-! ## Ticks -/

/-- What a tick does to the healths. The machine shoots first, and an opponent that falls does not
shoot back. -/
structure Exchanged (w w' : World) : Prop where
  opponent : Worn attackDamage w.opponent.health w'.opponent.health
  actor : Worn opponentDamage w.actor.health w'.actor.health
  answer : w'.actor.health < w.actor.health → 0 < w'.opponent.health

variable {settings : Settings} {program : Program} {u v : Simulation} {executed : Bool}
  {fault? : Option Fault} {ts : List Played} {r : Result}

theorem Tick.exchanged (h : Tick u executed v) (hover : u.isOver = false) :
    Exchanged u.world v.world := by
  obtain ⟨hactor, hopponent⟩ := Simulation.isOver_eq_false_iff.mp hover
  obtain ⟨w, hacted, hw⟩ := h.exists_acted hover
  have ho : v.world.opponent.health = w.opponent.health := hw ▸ w.answered.unhurt
  have ha : v.world.actor = w.opponentStep.actor := by rw [hw]; rfl
  constructor
  · rw [ho]
    rcases hacted.shot with hs | hs
    · exact .inl (by rw [hs])
    · exact .inr ⟨Tank.health_pos hopponent, by rw [hs]; rfl⟩
  · rw [ha, ← hacted.unhurt]
    rcases w.answered.shot with hs | ⟨-, hs⟩
    · exact .inl (by rw [hs])
    · exact .inr ⟨hacted.unhurt ▸ Tank.health_pos hactor, by rw [hs]; rfl⟩
  · rw [ho, ha, ← hacted.unhurt]
    intro hhurt
    rcases w.answered.shot with hs | ⟨hstands, -⟩
    · rw [hs] at hhurt
      exact absurd hhurt (Int.lt_irrefl _)
    · exact Tank.health_pos hstands

/-! ## Records -/

theorem Plays.exchanged (h : Plays settings u ts v fault?) :
    (u.world :: recorded ts).IsChain Exchanged := by
  induction h with
  | stop _ => exact .singleton _
  | fault _ _ => exact .singleton _
  | last hgoes ht _ _ => exact List.isChain_pair.mpr ((tick_eq_ok_iff.mp ht).exchanged hgoes.2)
  | next hgoes ht _ _ ih =>
      exact List.isChain_cons_cons.mpr ⟨(tick_eq_ok_iff.mp ht).exchanged hgoes.2, ih⟩

/-- In how many records a health is less than in the record before, or than in the opening for the
first one. -/
def healthDrops (health : World → Int) (history : List Record) : Nat :=
  drops (health .initial) (history.map fun rec => health rec.world)

section HealthDrops

variable {health : World → Int} {amount : Int} {history : List Record} {last : World}

theorem isChain_health {ws : List World}
    (hworn : ∀ w w', Exchanged w w' → Worn amount (health w) (health w'))
    (h : ws.IsChain Exchanged) : (ws.map health).IsChain (Worn amount) :=
  (List.isChain_map health).mpr (h.imp hworn)

/-- The last health is what the drops leave of the first one. -/
theorem health_eq (hworn : ∀ w w', Exchanged w w' → Worn amount (health w) (health w'))
    (ha : 0 < amount) (h₀ : 0 ≤ health .initial)
    (h : (World.initial :: history.map Record.world).IsChain Exchanged)
    (hlast : (World.initial :: history.map Record.world).getLast? = some last) :
    health last = max 0 (health .initial - amount * healthDrops health history) := by
  have hchain := isChain_health hworn h
  have hlast : ((World.initial :: history.map Record.world).map health).getLast? =
      some (health last) := by rw [List.getLast?_map, hlast]; rfl
  rw [List.map_cons, List.map_map] at hchain hlast
  exact eq_of_getLast?_worn ha hchain h₀ hlast

theorem mul_healthDrops_lt (hworn : ∀ w w', Exchanged w w' → Worn amount (health w) (health w'))
    (ha : 0 < amount) (h : (World.initial :: history.map Record.world).IsChain Exchanged)
    (hdrops : 0 < healthDrops health history) :
    amount * ((healthDrops health history : Int) - 1) < health .initial := by
  have hchain := isChain_health hworn h
  rw [List.map_cons, List.map_map] at hchain
  exact mul_drops_lt ha hchain hdrops

end HealthDrops

/-- The tick of a record leads from the world before it to the recorded one. -/
theorem exchanged_at {first before : World} {history : List Record} {i : Nat} {rec : Record}
    (h : (first :: history.map Record.world).IsChain Exchanged)
    (hbefore : (first :: history.map Record.world)[i]? = some before)
    (hrec : history[i]? = some rec) : Exchanged before rec.world := by
  have hnext : (first :: history.map Record.world)[i + 1]? = some rec.world := by
    rw [List.getElem?_cons_succ, List.getElem?_map, hrec]
    rfl
  obtain ⟨hi, rfl⟩ := List.getElem?_eq_some_iff.mp hbefore
  obtain ⟨hi', hworld⟩ := List.getElem?_eq_some_iff.mp hnext
  rw [← hworld]
  exact h.getElem i hi'

/-- Up to a record the history is that of a match which ends there. -/
theorem getLast?_take {first : World} {history : List Record} {i : Nat} {rec : Record}
    (hrec : history[i]? = some rec) :
    (first :: (history.take (i + 1)).map Record.world).getLast? = some rec.world := by
  have hlast : ((history.take (i + 1)).map Record.world).getLast? = some rec.world := by
    rw [List.getLast?_map, List.getLast?_take, if_neg (Nat.succ_ne_zero i), Nat.add_sub_cancel,
      hrec]
    rfl
  rw [List.getLast?_cons, hlast]
  rfl

/-- If the opponent has taken its third hit, it has fallen and does not hurt the actor. -/
theorem not_hurt_of_third_hit {history : List Record}
    (h : (World.initial :: history.map Record.world).IsChain Exchanged) {i : Nat} {before : World}
    {rec : Record} (hbefore : (World.initial :: history.map Record.world)[i]? = some before)
    (hrec : history[i]? = some rec)
    (hits : healthDrops (·.opponent.health) (history.take (i + 1)) = 3) :
    ¬ rec.actor.health < before.actor.health := by
  have hchain : (World.initial :: (history.take (i + 1)).map Record.world).IsChain Exchanged := by
    have htake := h.take (i + 2)
    rwa [List.take_succ_cons, ← List.map_take] at htake
  have hfallen := health_eq (fun _ _ he => he.opponent) (by decide) (by decide) hchain
    (getLast?_take hrec)
  rw [hits] at hfallen
  intro hhurt
  have hstands := (exchanged_at h hbefore hrec).answer hhurt
  rw [hfallen] at hstands
  exact absurd hstands (by decide)

/-- In a match from the opening the damage of a tank is told by the records in which its health is
less than before: 40 for each hit on the opponent and 15 for each on the actor, and never more than
there was. The third hit on the opponent ends the match, and so does the seventh on the actor. In
the tick of the third hit the opponent does not fire any more. -/
theorem damage_counted (settings : Settings) (program : Program) :
    (program.IsRead → ∃ r, runFrom settings true program .initial = .ok r) ∧
    ∀ r, runFrom settings true program .initial = .ok r →
      let hits := healthDrops (·.opponent.health) r.history
      let shots := healthDrops (·.actor.health) r.history
      r.damageDealt = min 100 (40 * (hits : Int)) ∧ r.damageTaken = min 100 (15 * (shots : Int)) ∧
      hits ≤ 3 ∧ shots ≤ 7 ∧
      (r.winner = some .actor ↔ hits = 3) ∧ (r.winner = some .opponent ↔ shots = 7) ∧
      ∀ (i : Nat) (before : World) (rec : Record),
        (World.initial :: r.history.map Record.world)[i]? = some before →
        r.history[i]? = some rec →
        healthDrops (·.opponent.health) (r.history.take (i + 1)) = 3 →
        ¬ rec.actor.health < before.actor.health := by
  refine ⟨fun hp => exists_runFrom_of_isRead settings true hp World.onBoard_initial, fun r hr => ?_⟩
  intro hits shots
  obtain ⟨hactor, hopponent, -⟩ := winner_run_iff settings true program
  rw [← eq_run_of_runFrom hr] at hactor hopponent
  obtain ⟨ts, v, hplays, rfl⟩ := exists_plays_of_runFrom hr
  have hchain : (World.initial :: (ts.map Played.record).map Record.world).IsChain Exchanged :=
    hplays.exchanged
  have ho : v.world.opponent.health = max 0 (100 - 40 * (hits : Int)) :=
    health_eq (fun _ _ h => h.opponent) (by decide) (by decide) hchain hplays.getLast?_recorded
  have ha : v.world.actor.health = max 0 (100 - 15 * (shots : Int)) :=
    health_eq (fun _ _ h => h.actor) (by decide) (by decide) hchain hplays.getLast?_recorded
  have hhits : 0 < hits → 40 * ((hits : Int) - 1) < 100 :=
    mul_healthDrops_lt (fun _ _ h => h.opponent) (by decide) hchain
  have hshots : 0 < shots → 15 * ((shots : Int) - 1) < 100 :=
    mul_healthDrops_lt (fun _ _ h => h.actor) (by decide) hchain
  refine ⟨?_, ?_, by omega, by omega, hactor.trans ?_, hopponent.trans ?_, ?_⟩
  · simp only [Result.damageDealt, resultOf, maxHealth]
    omega
  · simp only [Result.damageTaken, resultOf, maxHealth]
    omega
  · simp only [resultOf]
    omega
  · simp only [resultOf]
    omega
  · exact fun i before rec hbefore hrec => not_hurt_of_third_hit hchain hbefore hrec

/-- The actor drives up to the opponent and shoots three times. The opponent fires at once and
shoots back twice. -/
theorem damage_counted_duel : ∃ (program : Program) (r : Result),
    Program.parse 1 "MOVE 15 RIGHT; MOVE 12 FORWARD; ATTACK; ATTACK; ATTACK;" = .ok program ∧
    runFrom {} true program .initial = .ok r ∧
    healthDrops (·.opponent.health) r.history = 3 ∧ healthDrops (·.actor.health) r.history = 3 ∧
    r.damageDealt = 100 ∧ r.damageTaken = 45 ∧ r.winner = some .actor ∧
    ∃ before last, r.history[3]? = some before ∧ r.history[4]? = some last ∧
      last.opponent.health < before.opponent.health ∧
      ¬ last.actor.health < before.actor.health := by
  let program : Program := { main :=
    [.move (.literal 15) .right, .move (.literal 12) .forward, .attack, .attack, .attack] }
  have hparse : Program.parse 1 "MOVE 15 RIGHT; MOVE 12 FORWARD; ATTACK; ATTACK; ATTACK;" =
      .ok program := parse_eq_ok_of_toOption (by decide +kernel)
  obtain ⟨hresult, hcounted⟩ := damage_counted {} program
  obtain ⟨r, hr⟩ := hresult ⟨1, _, hparse⟩
  have hrun := eq_run_of_runFrom hr
  have hhits : healthDrops (·.opponent.health) r.history = 3 := by rw [hrun]; decide +kernel
  have hshots : healthDrops (·.actor.health) r.history = 3 := by rw [hrun]; decide +kernel
  have hhealths : r.history.map (·.opponent.health) = [100, 100, 60, 20, 0] := by
    rw [hrun]
    decide +kernel
  obtain ⟨hdealt, htaken, -, -, hactor, -, hthird⟩ := hcounted r hr
  rw [hhits] at hdealt hactor
  rw [hshots] at htaken
  have hlength : r.history.length = 5 := by simpa using congrArg List.length hhealths
  have hbefore : r.history[3]? = some r.history[3] := List.getElem?_eq_getElem (by omega)
  have hlast : r.history[4]? = some r.history[4] := List.getElem?_eq_getElem (by omega)
  refine ⟨program, r, hparse, hr, hhits, hshots, hdealt, htaken, hactor.mpr rfl, _, _, hbefore,
    hlast, ?_, ?_⟩
  · have h₃ : (r.history.map (·.opponent.health))[3]? = some 20 := by rw [hhealths]; rfl
    have h₄ : (r.history.map (·.opponent.health))[4]? = some 0 := by rw [hhealths]; rfl
    rw [List.getElem?_map, hbefore, Option.map_some, Option.some.injEq] at h₃
    rw [List.getElem?_map, hlast, Option.map_some, Option.some.injEq] at h₄
    omega
  · refine hthird 4 r.history[3].world r.history[4] ?_ hlast ?_
    · rw [List.getElem?_cons_succ, List.getElem?_map, hbefore]
      rfl
    · rw [List.take_of_length_le (Nat.le_of_eq hlength)]
      exact hhits

end TankArena.Match
