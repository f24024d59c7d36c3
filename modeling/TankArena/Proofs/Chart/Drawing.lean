import Mathlib.Data.Int.Range
import TankArena.Chart.Board
import TankArena.Proofs.Match.Bounds
import TankArena.Proofs.Text.Decimal

/-!
# Boards read back

A board with both tanks in bounds can be drawn. Where the tanks stand, where they face and how much
health they have can be read back from the figure, so no other tanks give the same one.
-/

namespace TankArena.Chart

open Arena Text

variable {typesetter : Typesetter} {t t' : Tank} {d : TankDrawing} {w w' : World} {f : Figure}
  {title color : String}
  {a b a' b' : Int}

/-! ## Measures -/

/-- The cell that a measure along a side of the board lies in. -/
def Measure.cell (m : Measure) : Int := m.steps / Measure.one

/-- Which way a line of two points runs along one axis: back, nowhere or forth. -/
def heading : List Measure → Int
  | [first, last] => (last.steps - first.steps).sign
  | _ => 0

/-- The health that a bar stands for, seven tenths of a cell for all of it. -/
def barHealth (width : Measure) : Int := roundDiv (width.size * 1000) (7 * Measure.one)

/-- Measures are rounded, so the cells of the board are gone through one by one. -/
theorem isFinite_units : ∀ i : Int, 0 ≤ i → i < gridSize → (units i).isFinite = true := by
  decide +kernel

theorem cell_body : ∀ i : Int, 0 ≤ i → i < gridSize →
    (units i + hundredths 15).cell = i ∧ (units i + hundredths 15 + hundredths 70).cell = i := by
  decide +kernel

theorem heading_barrel : ∀ i : Int, 0 ≤ i → i < gridSize → ∀ d : Int, -1 ≤ d → d ≤ 1 →
    heading [units i + hundredths 50, units i + hundredths 50 + hundredths (45 * d)] = d := by
  decide +kernel

theorem barHealth_healthWidth : ∀ h : Int, 0 ≤ h → h ≤ maxHealth →
    (healthWidth h).map barHealth = .ok h := by
  decide +kernel

theorem finite_eq_ok {e : ChartError} {m : Measure} (h : m.isFinite = true) :
    finite e m = .ok m := if_pos h

/-! ## Texts -/

theorem telling_eq_ok_iff {n : Int} {text : String} :
    telling n text = .ok title ↔ isWritable n = true ∧ title = text := by
  unfold telling
  split
  · rename_i h
    simp [h, eq_comm]
  · rename_i h
    simp [h]

theorem telling_of_not_isWritable {n : Int} (h : isWritable n = false) (text : String) :
    telling n text = .error .tooManyDigits := by simp [telling, h]

/-- Sets every text without two dollar signs and refuses the others. -/
def Typesetter.plainOnly (reason : String) : Typesetter where
  set text := if text.toList.count '$' ≤ 1 then .ok () else .error reason
  plain _ h := if_pos h

/-- A text without two dollar signs is set by whatever sets it. -/
theorem checkText_eq_ok (h : title.toList.count '$' ≤ 1) : checkText typesetter title = .ok () := by
  rw [checkText, typesetter.plain title h]
  rfl

/-- The title that a board gets for want of another. -/
def worldTitle (w : World) : String :=
  "Tick " ++ decimal w.tick ++ ": " ++ (if w.message.isEmpty then "Ready." else w.message)

theorem boardTitle_eq_ok_iff :
    boardTitle w = .ok title ↔ isWritable w.tick = true ∧ title = worldTitle w := telling_eq_ok_iff

/-- The legend of a board. -/
def healthLegend (actor opponent : Int) : List String :=
  ["Player " ++ decimal actor ++ " HP", "Enemy " ++ decimal opponent ++ " HP"]

theorem healthLegend_inj : healthLegend a b = healthLegend a' b' ↔ a = a' ∧ b = b' := by
  simp [healthLegend, decimal_inj]

/-! ## Tanks -/

/-- A drawing shows a tank in a colour: the body lies in its cell, the barrel runs along its facing,
and the bar stands for its health. -/
structure TankDrawing.Shows (d : TankDrawing) (t : Tank) (color : String) : Prop where
  columns : d.body.x.cell = t.x ∧ (d.body.x + d.body.width).cell = t.x
  rows : d.body.y.cell = t.y ∧ (d.body.y + d.body.height).cell = t.y
  across : heading d.turret.xs = t.facing.vector.1
  down : heading d.turret.ys = t.facing.vector.2
  health : barHealth d.healthBar.width = t.health
  colors : d.body.color = color ∧ d.turret.color = color

theorem exists_drawTank (h : t.InBounds) (color : String) :
    ∃ d, drawTank t color = .ok d ∧ d.Shows t color := by
  obtain ⟨⟨hleft, hright, htop, hbottom⟩, hlow, hhigh⟩ := h
  obtain ⟨width, hwidth, hbar⟩ :
      ∃ width, healthWidth t.health = .ok width ∧ barHealth width = t.health := by
    have hhealth := barHealth_healthWidth t.health hlow hhigh
    cases hw : healthWidth t.health with
    | error e => rw [hw] at hhealth; cases hhealth
    | ok width => rw [hw] at hhealth; exact ⟨width, rfl, Except.ok.inj hhealth⟩
  have hvector : ∀ g : Facing, (-1 ≤ g.vector.1 ∧ g.vector.1 ≤ 1) ∧
      -1 ≤ g.vector.2 ∧ g.vector.2 ≤ 1 := by
    intro g
    cases g <;> decide
  obtain ⟨⟨hdx, hdx'⟩, hdy, hdy'⟩ := hvector t.facing
  rw [drawTank, finite_eq_ok (isFinite_units t.x hleft hright),
    finite_eq_ok (isFinite_units t.y htop hbottom), hwidth]
  exact ⟨_, rfl, cell_body _ hleft hright, cell_body _ htop hbottom,
    heading_barrel _ hleft hright _ hdx hdx', heading_barrel _ htop hbottom _ hdy hdy', hbar,
    rfl, rfl⟩

theorem vector_inj {g g' : Facing} : g.vector = g'.vector ↔ g = g' := by
  cases g <;> cases g' <;> decide

theorem TankDrawing.Shows.tank_eq {color' : String} {d' : TankDrawing} (h : d.Shows t color)
    (h' : d'.Shows t' color') (hbody : d.body = d'.body) (hturret : d.turret = d'.turret)
    (hbar : d.healthBar = d'.healthBar) : t = t' := by
  have hx : t.x = t'.x := by rw [← h.columns.1, ← h'.columns.1, hbody]
  have hy : t.y = t'.y := by rw [← h.rows.1, ← h'.rows.1, hbody]
  have hfacing : t.facing = t'.facing := by
    refine vector_inj.mp (Prod.ext ?_ ?_)
    · rw [← h.across, ← h'.across, hturret]
    · rw [← h.down, ← h'.down, hturret]
  have hhealth : t.health = t'.health := by rw [← h.health, ← h'.health, hbar]
  cases t
  cases t'
  simp_all

/-! ## Worlds -/

/-- A figure shows the tanks of a world: both are drawn, and the legend tells their healths. -/
structure Figure.Shows (f : Figure) (w : World) : Prop where
  drawn : ∃ actor opponent : TankDrawing,
    actor.Shows w.actor actorColor ∧ opponent.Shows w.opponent opponentColor ∧
    f.patches = [actor.body, actor.healthBar, opponent.body, opponent.healthBar] ∧
    f.curves = [actor.turret, opponent.turret]
  legend : f.legend = healthLegend w.actor.health w.opponent.health

/-- Tanks in bounds can always be drawn, so a board fails at its title alone. -/
theorem exists_board_of_checkText (hw : w.InBounds) (h : checkText typesetter title = .ok ()) :
    ∃ f, board typesetter w (some title) = .ok f ∧ f.Shows w ∧ f.title = title := by
  obtain ⟨actor, hactor, hshows⟩ := exists_drawTank hw.actor actorColor
  obtain ⟨opponent, hopponent, hshows'⟩ := exists_drawTank hw.opponent opponentColor
  rw [board, hactor, hopponent]
  simp only [bind, Except.bind, Option.map_some, Option.getD_some, h]
  exact ⟨_, rfl, ⟨⟨actor, opponent, hshows, hshows', rfl, rfl⟩, rfl⟩, rfl⟩

theorem exists_board (typesetter : Typesetter) (hw : w.InBounds) (h : title.toList.count '$' ≤ 1) :
    ∃ f, board typesetter w (some title) = .ok f ∧ f.Shows w ∧ f.title = title :=
  exists_board_of_checkText hw (checkText_eq_ok h)

theorem board_none_eq (h : boardTitle w = .ok title) :
    board typesetter w none = board typesetter w (some title) := by
  unfold board
  rw [Option.map_none, Option.getD_none, h]
  rfl

/-- A figure shows the tanks of one world only. -/
theorem Figure.Shows.tanks_eq (h : f.Shows w) (h' : f.Shows w') :
    w.actor = w'.actor ∧ w.opponent = w'.opponent := by
  obtain ⟨actor, opponent, ha, ho, hpatches, hcurves⟩ := h.drawn
  obtain ⟨actor', opponent', ha', ho', hpatches', hcurves'⟩ := h'.drawn
  obtain ⟨hbody, hbar, hbody', hbar'⟩ : actor.body = actor'.body ∧
      actor.healthBar = actor'.healthBar ∧ opponent.body = opponent'.body ∧
      opponent.healthBar = opponent'.healthBar := by
    simpa using hpatches.symm.trans hpatches'
  obtain ⟨hturret, hturret'⟩ : actor.turret = actor'.turret ∧
      opponent.turret = opponent'.turret := by
    simpa using hcurves.symm.trans hcurves'
  exact ⟨ha.tank_eq ha' hbody hturret hbar, ho.tank_eq ho' hbody' hturret' hbar'⟩

theorem Figure.Shows.shows_iff (h : f.Shows w) :
    f.Shows w' ↔ w'.actor = w.actor ∧ w'.opponent = w.opponent := by
  refine ⟨fun h' => h'.tanks_eq h, fun ⟨ha, ho⟩ => ?_⟩
  obtain ⟨hdrawn, hlegend⟩ := h
  rw [← ha, ← ho] at hdrawn hlegend
  exact ⟨hdrawn, hlegend⟩

theorem Figure.Shows.legend_eq_iff (h : f.Shows w) :
    f.legend = healthLegend a b ↔ a = w.actor.health ∧ b = w.opponent.health := by
  rw [h.legend, healthLegend_inj, eq_comm, @eq_comm _ b]

end TankArena.Chart
