import TankArena.Proofs.Arena.Pursuit
import TankArena.Proofs.Match.Status

/-!
# What the status line tells of enemy fire

Some steps write no status line, and what stood there stays. It tells of enemy fire all the same
exactly where the opponent has fired in the tick: a step without a line of its own moves no tank, so
that an opponent that fired before it fires again.
-/

namespace TankArena.Text

/-- The text has the part somewhere in it. -/
def Mentions (text part : String) : Prop := part.toList <:+: text.toList

variable {text part : String}

/-- A character that the part does not have keeps it on one of its sides. -/
theorem infix_append_cons_iff {c : Char} {p a b : List Char} (hc : c ∉ p) :
    p <:+: a ++ c :: b ↔ p <:+: a ∨ p <:+: b := by
  constructor
  · intro h
    rcases List.infix_append_iff.mp h with h | h | ⟨p₁, p₂, rfl, h₁, h₂⟩
    · exact .inl h
    · rcases List.infix_cons_iff.mp h with h | h
      · rcases List.prefix_cons_iff.mp h with rfl | ⟨p', rfl, -⟩
        · exact .inl (List.nil_infix)
        · exact absurd List.mem_cons_self hc
      · exact .inr h
    · rcases List.prefix_cons_iff.mp h₂ with rfl | ⟨p', rfl, -⟩
      · rw [List.append_nil]
        exact .inl h₁.isInfix
      · exact absurd (List.mem_append_right _ List.mem_cons_self) hc
  · rintro (h | h)
    · exact h.trans (List.prefix_append _ _).isInfix
    · exact h.trans ((List.suffix_cons _ _).trans (List.suffix_append _ _)).isInfix

theorem not_mentions_of_notMem {c : Char} (hc : c ∈ part.toList) (h : c ∉ text.toList) :
    ¬ Mentions text part := fun hm => h (hm.subset hc)

theorem Mentions.of_part {whole : String} (h : Mentions text whole) (hw : Mentions whole part) :
    Mentions text part := List.IsInfix.trans hw h

end TankArena.Text

namespace TankArena.Arena

open Text

/-- How the status line tells of enemy fire. -/
def shotText : String := "Enemy fires (-15 HP)"

theorem mentions_shotText (message : String) : Mentions (message ++ firingNotice) shotText := by
  have hnotice : shotText.toList <:+ firingNotice.toList := ⟨" | ".toList, by decide⟩
  unfold Mentions
  rw [String.toList_append]
  exact (hnotice.trans (List.suffix_append _ _)).isInfix

end TankArena.Arena

namespace TankArena.Machine

open Arena Script Text

variable {message : String}

/-- A status line that lacks one of two characters of any line that tells of enemy fire. -/
def Quiet (message : String) : Prop := '(' ∉ message.toList ∨ 'E' ∉ message.toList

theorem Quiet.not_mentions (h : Quiet message) : ¬ Mentions message shotText :=
  h.elim (not_mentions_of_notMem (by decide)) (not_mentions_of_notMem (by decide))

/-- What a statement of a line says does not tell of enemy fire. -/
theorem IsStatus.quiet (h : IsStatus message) : Quiet message := by
  have hnumber := notMem_decimal (c := '(') (by decide) rfl
  cases h with
  | assign hn =>
      left
      simp only [String.toList_append, List.mem_append, not_or]
      exact ⟨⟨⟨by decide, fun hc => absurd (isNameChar_of_isName hn _ hc) (by decide)⟩, by decide⟩,
        hnumber _⟩
  | @move amount course =>
      left
      simp only [String.toList_append, List.mem_append, not_or]
      exact ⟨⟨⟨by decide, hnumber _⟩, by decide⟩, by cases course <;> decide⟩
  | @turn side =>
      left
      simp only [String.toList_append, List.mem_append, not_or]
      exact ⟨by decide, by cases side <;> decide⟩
  | spot =>
      left
      simp only [String.toList_append, List.mem_append, not_or]
      exact ⟨⟨by decide, hnumber _⟩, by decide⟩
  | lose => exact .inl (by decide)
  | hit => exact .inl (by decide)
  | miss => exact .inl (by decide)
  | call hn =>
      left
      simp only [String.toList_append, List.mem_append, not_or]
      exact ⟨by decide, fun hc => absurd (isLooseNameChar_of_isLooseName hn _ hc) (by decide)⟩
  | leave =>
      right
      simp only [String.toList_append, List.mem_append, not_or]
      exact ⟨⟨by decide, notMem_decimal (by decide) rfl _⟩, by decide⟩

end TankArena.Machine

namespace TankArena.Match

open Arena Machine Script Text

variable {u v : Simulation} {executed : Bool} {w : World}

/-! ## Notices -/

theorem mentions_joinNotice_iff {message notice : String} :
    Mentions (joinNotice message notice) shotText ↔
      Mentions message shotText ∨ Mentions notice shotText := by
  unfold joinNotice
  split
  · rename_i hempty
    have hnot : ¬ Mentions message shotText := by
      rw [String.isEmpty_iff.mp hempty]
      exact fun h => absurd (List.eq_nil_of_infix_nil h) (by decide)
    exact ⟨.inr, fun h => h.resolve_left hnot⟩
  · have htext : (message ++ " | " ++ notice).toList =
        (message.toList ++ [' ']) ++ '|' :: (' ' :: notice.toList) := by
      simp [String.toList_append]
    unfold Mentions
    rw [htext, infix_append_cons_iff (by decide), List.infix_concat_iff, List.infix_cons_iff]
    -- The text of a shot neither starts nor ends with a blank.
    have hfront : ¬ shotText.toList <+: ' ' :: notice.toList := by
      intro h
      obtain ⟨r, hr⟩ := h
      exact absurd (List.cons.inj hr).1 (by decide)
    have hback : ¬ shotText.toList <:+ message.toList ++ [' '] := by
      intro h
      obtain ⟨r, hr⟩ := h
      have hshot : shotText.toList.getLast? = some ')' := by decide
      have hlast := congrArg List.getLast? hr
      rw [List.getLast?_append, List.getLast?_append, hshot, List.getLast?_singleton,
        Option.some_or, Option.some_or] at hlast
      exact absurd (Option.some.inj hlast) (by decide)
    simp only [hfront, hback, false_or]

theorem mentions_foldl_joinNotice {notices : List String} (h : ∀ n ∈ notices, Quiet n)
    (message : String) :
    Mentions (notices.foldl joinNotice message) shotText ↔ Mentions message shotText := by
  induction notices generalizing message with
  | nil => rfl
  | cons n notices ih =>
      obtain ⟨hn, hrest⟩ := List.forall_mem_cons.mp h
      rw [List.foldl_cons, ih hrest, mentions_joinNotice_iff, or_iff_left hn.not_mentions]

theorem quiet_of_mem_outcomeNotices {notice : String} (h : notice ∈ outcomeNotices w) :
    Quiet notice := by
  rcases List.mem_append.mp h with h | h
  · split at h
    · rw [List.mem_singleton.mp h]
      exact .inl (by decide)
    · cases h
  · split at h
    · rw [List.mem_singleton.mp h]
      exact .inl (by decide)
    · cases h

theorem mentions_afterStep_iff : Mentions (afterStep w).message shotText ↔
    Mentions w.opponentStep.message shotText := by
  rw [message_afterStep]
  exact mentions_foldl_joinNotice (fun n hn => quiet_of_mem_outcomeNotices hn) _

/-! ## Ticks -/

theorem hurt_afterStep_iff (h : w.actor.isDestroyed = false) :
    (afterStep w).actor.health < w.actor.health ↔ w.Fires := by
  have hhealth : 0 < w.actor.health := Tank.health_pos h
  change w.opponentStep.actor.health < w.actor.health ↔ w.Fires
  by_cases hfires : w.Fires
  · rw [World.opponentStep_of_fires hfires]
    simp only [Tank.damaged, opponentDamage, hfires, iff_true]
    omega
  · rw [(World.opponentStep_of_not_fires hfires).2]
    simp only [Int.lt_irrefl, hfires]

/-- If the status line tells of enemy fire, the opponent has the actor before it in range. -/
def Simulation.Told (u : Simulation) : Prop :=
  Mentions u.world.message shotText → (sight u.world.opponent u.world.actor).inRange = true

/-- A tick tells of enemy fire exactly if the actor is hurt in it. -/
theorem Tick.told_iff_hurt (h : Tick u executed v) (hover : u.isOver = false)
    (hf : ∀ f ∈ u.frames, f.Sound) (htold : u.Told) :
    (Mentions v.world.message shotText ↔ v.world.actor.health < u.world.actor.health) ∧
      v.Told := by
  obtain ⟨w, hacted, hw, hstatus⟩ := h.exists_isStatus hover hf
  obtain ⟨hactor, hopponent⟩ := Simulation.isOver_eq_false_iff.mp hover
  have hstands : w.actor.isDestroyed = false :=
    (Tank.isDestroyed_congr hacted.unhurt).trans hactor
  have hmentions : Mentions v.world.message shotText ↔ w.Fires := by
    rw [hw, mentions_afterStep_iff]
    by_cases hfires : w.Fires
    · rw [World.opponentStep_of_fires hfires]
      simp only [hfires, iff_true]
      exact mentions_shotText _
    · rw [(World.opponentStep_of_not_fires hfires).1]
      simp only [hfires, iff_false]
      rcases hstatus with rfl | hstatus
      · exact fun hm => hfires ⟨hopponent, htold hm⟩
      · exact hstatus.quiet.not_mentions
  constructor
  · rw [hmentions, hw, ← hacted.unhurt, hurt_afterStep_iff hstands]
  · intro hm
    have hfires := hmentions.mp hm
    rw [hw]
    change (sight w.opponentStep.opponent w.opponentStep.actor).inRange = true
    rw [World.opponentStep_of_fires hfires]
    exact hfires.2

/-! ## Records -/

/-- Whatever the start, as long as its status line does not tell of enemy fire. -/
theorem Simulation.told_afterTicks {program : Program} {start : World} {k : Nat}
    (hp : program.IsRead) (hm : ¬ Mentions start.message shotText)
    (h : Simulation.afterTicks { program, world := start } k = .ok u) :
    u.Told ∧ ∀ f ∈ u.frames, f.Sound := by
  have hps : ∀ q ∈ [program], q.WellFormed := by
    intro q hq
    rw [List.mem_singleton.mp hq]
    exact hp.wellFormed
  have hu : u.Told ∧ u.Traced [program] := by
    refine Simulation.afterTicks_induction (P := fun v => v.Told ∧ v.Traced [program])
      ⟨fun hstart => absurd hstart hm, Simulation.traced_start hps List.mem_cons_self start⟩ ?_ h
    rintro v executed w ⟨htold, htraced⟩ ht
    refine ⟨?_, Simulation.ticked_of_tick ht ▸ htraced.ticked hps⟩
    cases hover : v.isOver with
    | true =>
        rw [(tick_eq_ok_iff.mp ht).eq_iff.mpr hover]
        exact htold
    | false =>
        have hsound := fun f hf => (htraced.frames f hf).sound
        exact ((tick_eq_ok_iff.mp ht).told_iff_hurt hover hsound htold).2
  exact ⟨hu.1, fun f hf => (hu.2.frames f hf).sound⟩

/-- In the history of a match with a program that was read, a status line tells of enemy fire exactly
if the actor has less health than in the record before, or than at the start for the first one. -/
theorem trace_tells_of_fire_iff {settings : Settings} {program : Program} {start : World}
    {r : Result} (hp : program.IsRead) (hm : ¬ Mentions start.message "Enemy fires")
    (hr : runFrom settings true program start = .ok r) {i : Nat} {before : World} {rec : Record}
    (hbefore : (start :: r.history.map Record.world)[i]? = some before)
    (hrec : r.history[i]? = some rec) :
    Mentions rec.message "Enemy fires (-15 HP)" ↔ rec.actor.health < before.actor.health := by
  obtain ⟨ts, v, hplays, rfl⟩ := exists_plays_of_runFrom hr
  have hrec : (ts.map Played.record)[i]? = some rec := hrec
  rw [List.getElem?_map] at hrec
  obtain ⟨t, ht, rfl⟩ := Option.map_eq_some_iff.mp hrec
  obtain ⟨s, hs, hgoes, htick⟩ := hplays.getElem? ht
  have hover : s.isOver = false := Bool.eq_false_iff.mpr fun hover => hgoes (.inr (.inl hover))
  have hstart : ¬ Mentions start.message shotText := fun h =>
    hm (h.of_part ⟨[], " (-15 HP)".toList, by decide⟩)
  obtain ⟨htold, hsound⟩ := Simulation.told_afterTicks hp hstart hs
  rw [hplays.world_eq hs hbefore]
  exact ((tick_eq_ok_iff.mp htick).told_iff_hurt hover hsound htold).1

/-- The second statement does nothing and leaves the notice of the first shot in the status line,
while the opponent fires again. Then the actor leaves the line of fire. -/
theorem trace_tells_of_fire_iff_carried : ∃ (program : Program) (start : World) (r : Result)
    (first second third : Record),
    Program.parse 1 "TURN LEFT; WAIT; MOVE 1 FORWARD;" = .ok program ∧
    ¬ Mentions start.message "Enemy fires" ∧
    runFrom { maxTicks := 3 } true program start = .ok r ∧ r.history = [first, second, third] ∧
    second.actor.health < first.actor.health ∧ Mentions second.message "Enemy fires (-15 HP)" ∧
    third.actor.health = second.actor.health ∧ ¬ Mentions third.message "Enemy fires (-15 HP)" := by
  let program : Program :=
    { main := [.turn .left, .noop, .move (.literal 1) .forward] }
  let start : World :=
    { actor := { x := 5, y := 10 }, opponent := { x := 5, y := 8, facing := .down } }
  let r : Result := run { maxTicks := 3 } true program start
  have hparse : Program.parse 1 "TURN LEFT; WAIT; MOVE 1 FORWARD;" = .ok program :=
    parse_eq_ok_of_toOption (by decide +kernel)
  have hstart : ¬ Mentions start.message "Enemy fires" := fun h =>
    absurd (List.eq_nil_of_infix_nil h) (by decide)
  have hfault : faultWithin { maxTicks := 3 } (ticksLeft { maxTicks := 3 } { program, world := start })
      { program, world := start } = none := by decide
  have hrun : runFrom { maxTicks := 3 } true program start = .ok r := by
    simp only [runFrom, hfault, r]
  have hhealths : r.history.map (·.actor.health) = [85, 70, 70] := by decide
  obtain ⟨first, second, third, hhistory⟩ : ∃ a b c, r.history = [a, b, c] :=
    List.length_eq_three.mp (by simpa using congrArg List.length hhealths)
  rw [hhistory] at hhealths
  obtain ⟨h1, h2, h3⟩ : first.actor.health = 85 ∧ second.actor.health = 70 ∧
      third.actor.health = 70 := by simpa using hhealths
  refine ⟨program, start, r, first, second, third, hparse, hstart, hrun, hhistory, by omega, ?_,
    by omega, ?_⟩
  · have hbefore : (start :: r.history.map Record.world)[1]? = some first.world := by
      rw [hhistory]; rfl
    have hrec : r.history[1]? = some second := by rw [hhistory]; rfl
    refine (trace_tells_of_fire_iff ⟨1, _, hparse⟩ hstart hrun hbefore hrec).mpr ?_
    change second.actor.health < first.actor.health
    omega
  · have hbefore : (start :: r.history.map Record.world)[2]? = some second.world := by
      rw [hhistory]; rfl
    have hrec : r.history[2]? = some third := by rw [hhistory]; rfl
    rw [trace_tells_of_fire_iff ⟨1, _, hparse⟩ hstart hrun hbefore hrec]
    change ¬ third.actor.health < second.actor.health
    omega

end TankArena.Match
