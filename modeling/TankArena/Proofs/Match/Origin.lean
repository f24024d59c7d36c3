import TankArena.Proofs.Machine.Safety
import TankArena.Proofs.Match.Play

/-!
# Where values come from

A match that starts with a program that was read, and takes only such programs while it is played,
keeps its counters in range and its variables at 0, at 1, or at numbers that one of these programs
assigns. So a tick can come to one fault only, a scan that sees the opponent too far away to say how
far, and with both tanks on the board to none.
-/

namespace TankArena.Script

open Text

/-- The numbers that a statement assigns, its branches included. -/
def Stmt.assigned : Stmt → List Int
  | .assign _ (.literal n) => [n]
  | .ifThen _ yes => yes.assigned
  | .ifElse _ yes no => yes.assigned ++ no.assigned
  | _ => []

def Program.assigned (p : Program) : List Int :=
  (p.main ++ p.functions.entries.flatMap Prod.snd).flatMap Stmt.assigned

/-- The program was read from some script. -/
def Program.IsRead (p : Program) : Prop := ∃ room source, Program.parse room source = .ok p

variable {p : Program} {stmt yes chosen : Stmt} {no : Option Stmt} {test : Expr} {n : Int}

theorem Program.IsRead.wellFormed (h : p.IsRead) : p.WellFormed := by
  obtain ⟨room, source, hp⟩ := h
  exact Program.parse_wellFormed hp

theorem Stmt.mem_assigned_of_branch (hb : stmt.branches? = some (test, yes, no))
    (hc : chosen = yes ∨ no = some chosen) (hn : n ∈ chosen.assigned) : n ∈ stmt.assigned := by
  cases stmt with
  | ifThen test' yes' =>
      cases hb
      rcases hc with rfl | hc
      · exact hn
      · cases hc
  | ifElse test' yes' no' =>
      cases hb
      rcases hc with rfl | hc
      · exact List.mem_append_left _ hn
      · cases hc
        exact List.mem_append_right _ hn
  | _ => cases hb

theorem Stmt.IsSimple.isWritable_assigned (h : stmt.IsSimple) (hn : n ∈ stmt.assigned) :
    isWritable n = true := by
  cases stmt with
  | assign name value =>
      rcases value with m | other
      · rw [List.mem_singleton.mp hn]
        exact h.2
      · cases hn
  | ifThen => exact h.elim
  | ifElse => exact h.elim
  | _ => cases hn

theorem Stmt.IsLine.isWritable_assigned (h : stmt.IsLine) (hn : n ∈ stmt.assigned) :
    isWritable n = true := by
  rcases h.cases with h | ⟨e, y, rfl, -, hy⟩ | ⟨e, y, o, rfl, -, hy, ho, -⟩
  · exact h.isWritable_assigned hn
  · exact hy.isWritable_assigned hn
  · rcases List.mem_append.mp hn with hn | hn
    · exact hy.isWritable_assigned hn
    · exact ho.isWritable_assigned hn

theorem Program.mem_assigned_of_main (hs : stmt ∈ p.main) (hn : n ∈ stmt.assigned) :
    n ∈ p.assigned :=
  List.mem_flatMap.mpr ⟨stmt, List.mem_append_left _ hs, hn⟩

theorem Program.mem_assigned_of_body {name : String} {body : List Stmt}
    (hb : p.functions.get? name = some body) (hs : stmt ∈ body) (hn : n ∈ stmt.assigned) :
    n ∈ p.assigned := by
  have hbody : stmt ∈ p.functions.entries.flatMap Prod.snd :=
    List.mem_flatMap.mpr ⟨_, Table.mem_of_get? hb, hs⟩
  exact List.mem_flatMap.mpr ⟨stmt, List.mem_append_right _ hbody, hn⟩

theorem Program.WellFormed.isWritable_assigned (h : p.WellFormed) (hn : n ∈ p.assigned) :
    isWritable n = true := by
  obtain ⟨stmt, hs, hn⟩ := List.mem_flatMap.mp hn
  rcases List.mem_append.mp hs with hs | hs
  · exact (h.main stmt hs).isWritable_assigned hn
  · obtain ⟨e, he, hs⟩ := List.mem_flatMap.mp hs
    exact (h.bodies e he stmt hs).isWritable_assigned hn

end TankArena.Script

namespace TankArena.Machine

open Script Text

variable {p : Program} {ps : List Program} {s : State} {f : Frame} {fs gs : List Frame}

/-! ## Frames -/

/-- The frame is sound and assigns no other numbers than the programs do. -/
structure Frame.Traced (ps : List Program) (f : Frame) : Prop where
  sound : f.Sound
  assigned : ∀ stmt ∈ f.body, ∀ n ∈ stmt.assigned, ∃ q ∈ ps, n ∈ q.assigned

/-- The counter is in range, and a branch is one statement. -/
structure Frame.Proper (f : Frame) : Prop where
  inRange : f.InRange
  branch : f.label = branchLabel → f.body.length = 1

theorem Shift.assigned (hp : p ∈ ps) (hs : Shift p fs gs)
    (h : ∀ f ∈ fs, ∀ stmt ∈ f.body, ∀ n ∈ stmt.assigned, ∃ q ∈ ps, n ∈ q.assigned) :
    ∀ f ∈ gs, ∀ stmt ∈ f.body, ∀ n ∈ stmt.assigned, ∃ q ∈ ps, n ∈ q.assigned := by
  refine hs.forall_mem h (fun f hf => hf) ?_ ?_
  · intro f hf stmt hstmt test yes no chosen hb hc branch hbranch n hn
    rw [List.mem_singleton.mp hbranch] at hn
    exact h f hf stmt hstmt n (Stmt.mem_assigned_of_branch hb hc hn)
  · intro name body hb stmt hstmt n hn
    exact ⟨p, hp, Program.mem_assigned_of_body hb hstmt hn⟩

theorem Shift.traced (hps : ∀ q ∈ ps, q.WellFormed) (hp : p ∈ ps) (h : ∀ f ∈ fs, f.Traced ps)
    (hs : Shift p fs gs) : ∀ f ∈ gs, f.Traced ps := fun f hf =>
  ⟨hs.sound (hps p hp) (fun f hf => (h f hf).sound) f hf,
    hs.assigned hp (fun f hf => (h f hf).assigned) f hf⟩

theorem Frame.Proper.next {stmt : Stmt} (h : f.Proper) (hs : f.current? = some stmt) :
    f.next.Proper := ⟨h.inRange.next hs, h.branch⟩

/-- The main sequence is left out: its counter may lie anywhere behind another program. -/
theorem proper_next {stmt : Stmt} (h : ∀ g ∈ (f :: fs).dropLast, g.Proper)
    (hs : f.current? = some stmt) : ∀ g ∈ (f.next :: fs).dropLast, g.Proper := by
  cases fs with
  | nil => intro g hg; cases hg
  | cons d ds =>
      obtain ⟨hf, hrest⟩ := List.forall_mem_cons.mp h
      exact List.forall_mem_cons.mpr ⟨hf.next hs, hrest⟩

theorem Shift.proper (hp : p.WellFormed) (h : ∀ f ∈ fs.dropLast, f.Proper) (hs : Shift p fs gs) :
    ∀ f ∈ gs.dropLast, f.Proper := by
  cases hs with
  | stay => exact h
  | next hcur => exact proper_next h hcur
  | branch _ _ _ => exact List.forall_mem_cons.mpr ⟨⟨Frame.inRange_start _ _, fun _ => rfl⟩, h⟩
  | @call f fs name body hcur hb =>
      refine List.forall_mem_cons.mpr ⟨⟨Frame.inRange_start _ _, fun hlabel => ?_⟩,
        proper_next h hcur⟩
      -- No script can name a function as branches are labelled.
      have hname : name = branchLabel := hlabel
      rw [hname, get?_branchLabel hp] at hb
      cases hb
  | pop _ => exact (List.forall_mem_cons.mp h).2

end TankArena.Machine

namespace TankArena.Match

open Arena Machine Script Text

variable {p : Program} {ps : List Program} {u v : Simulation}

/-! ## Matches -/

/-- The value is 0, 1 or a number that one of the programs assigns. -/
def IsKnown (ps : List Program) (n : Int) : Prop := n = 0 ∨ n = 1 ∨ ∃ q ∈ ps, n ∈ q.assigned

theorem IsKnown.isWritable {n : Int} (h : IsKnown ps n) (hps : ∀ q ∈ ps, q.WellFormed) :
    isWritable n = true := by
  rcases h with rfl | rfl | ⟨q, hq, hn⟩
  · decide
  · decide
  · exact (hps q hq).isWritable_assigned hn

structure Simulation.Traced (ps : List Program) (u : Simulation) : Prop where
  program : u.program ∈ ps
  frames : ∀ f ∈ u.frames, f.Traced ps
  stack : ∀ f ∈ u.runtime.stack, f.Proper
  store : ∀ e ∈ u.runtime.store.entries, IsKnown ps e.2

/-- The next statement is a scan that sees the opponent too far away. -/
def Simulation.ScansTooFar (u : Simulation) : Prop :=
  u.isOver = false ∧ (u.state.top u.program).current? = some .scan ∧ u.state.TooFar

theorem Simulation.Traced.tick_eq_error_iff (h : u.Traced ps) (hps : ∀ q ∈ ps, q.WellFormed)
    {e : Fault} : u.tick = .error e ↔ e = .tooManyDigits ∧ u.ScansTooFar := by
  rw [Match.tick_eq_error_iff]
  constructor
  · rintro ⟨hover, herr⟩
    have hsound := fun f hf => (h.frames f hf).sound
    have hstore := fun e he => (h.store e he).isWritable hps
    rcases step_of_sound hsound hstore with hnone | ⟨t, ht⟩ | ⟨hs, hfar⟩
    · rw [hnone] at herr
      cases herr
    · rw [step_eq_ok_some_iff.mpr ht] at herr
      cases herr
    · rw [step_of_tooFar hs hfar] at herr
      cases herr
      exact ⟨rfl, hover, hs, hfar⟩
  · rintro ⟨rfl, hover, hs, hfar⟩
    exact ⟨hover, step_of_tooFar hs hfar⟩

/-- The value of an assignment of the active frame. -/
theorem isKnown_eval {s : State} {name : String} {value : Expr}
    (h : ∀ e ∈ s.runtime.store.entries, IsKnown ps e.2)
    (hf : ∀ f ∈ s.frames p, ∀ stmt ∈ f.body, ∀ n ∈ stmt.assigned, ∃ q ∈ ps, n ∈ q.assigned)
    (hs : (s.top p).current? = some (.assign name value)) : IsKnown ps (s.runtime.eval value) := by
  refine forall_eval (IsKnown ps) (.inl rfl) h ?_
  rintro n rfl
  have hbody := Frame.mem_body_of_current? hs
  exact .inr (.inr (hf _ (s.top_mem_frames p) _ hbody n (List.mem_singleton.mpr rfl)))

theorem isKnown_transition {s t : State} (h : ∀ e ∈ s.runtime.store.entries, IsKnown ps e.2)
    (hf : ∀ f ∈ s.frames p, ∀ stmt ∈ f.body, ∀ n ∈ stmt.assigned, ∃ q ∈ ps, n ∈ q.assigned)
    (ht : Transition p s t) : ∀ e ∈ t.runtime.store.entries, IsKnown ps e.2 := by
  rcases ht.store_cases with heq | ⟨name, value, hcur, -, heq⟩ | ⟨value, hvalue, heq⟩
  · rw [heq]
    exact h
  · rw [heq]
    exact forall_mem_insert (IsKnown ps) h (isKnown_eval h hf hcur)
  · rw [heq]
    refine forall_mem_insert (IsKnown ps) h ?_
    rcases hvalue with rfl | rfl
    · exact .inl rfl
    · exact .inr (.inl rfl)

theorem Simulation.Traced.store_ticked (h : u.Traced ps) (hps : ∀ q ∈ ps, q.WellFormed) :
    ∀ e ∈ u.ticked.runtime.store.entries, IsKnown ps e.2 := by
  rcases u.ticked_cases with ⟨executed, v, ht, hv⟩ | ⟨e, he, hv⟩
  · rw [hv]
    cases ht with
    | ended _ => exact h.store
    | idle _ _ => exact h.store
    | act _ ht => exact isKnown_transition h.store (fun f hf => (h.frames f hf).assigned) ht
  · obtain ⟨rfl, -, hcur, -⟩ := (h.tick_eq_error_iff hps).mp he
    -- The scan has kept its answer before it fails to say the distance.
    have hstore : (u.afterFault .tooManyDigits).runtime.store =
        u.runtime.store.insert enemyVariable 1 :=
      congrArg (·.runtime.store) (afterFault_of_current hcur)
    rw [hv, hstore]
    exact forall_mem_insert (IsKnown ps) h.store (.inr (.inl rfl))

theorem traced_mainFrame {s : State} (hps : ∀ q ∈ ps, q.WellFormed) (hp : p ∈ ps)
    (hs : 0 ≤ s.runtime.counter) : (s.mainFrame p).Traced ps :=
  ⟨⟨hs, (hps p hp).main⟩, fun _ hstmt _ hn => ⟨p, hp, Program.mem_assigned_of_main hstmt hn⟩⟩

theorem Simulation.Traced.counter (h : u.Traced ps) : 0 ≤ u.runtime.counter :=
  (h.frames (u.state.mainFrame u.program)
    (List.mem_append_right _ (List.mem_singleton.mpr rfl))).sound.counter

theorem Simulation.Traced.ticked (h : u.Traced ps) (hps : ∀ q ∈ ps, q.WellFormed) :
    u.ticked.Traced ps := by
  refine ⟨u.program_ticked ▸ h.program, u.shift_ticked.traced hps h.program h.frames, ?_,
    h.store_ticked hps⟩
  have hstack : ∀ v : Simulation, v.frames.dropLast = v.runtime.stack :=
    fun v => List.dropLast_concat
  rw [← hstack]
  exact u.shift_ticked.proper (hps _ h.program) (hstack u ▸ h.stack)

theorem Simulation.Traced.load (h : u.Traced ps) (hps : ∀ q ∈ ps, q.WellFormed) (hp : p ∈ ps) :
    (u.load p).Traced ps := by
  refine ⟨hp, fun f hf => ?_, h.stack, h.store⟩
  rcases List.mem_append.mp hf with hf | hf
  · exact h.frames f (List.mem_append_left _ hf)
  · rw [List.mem_singleton.mp hf]
    exact traced_mainFrame hps hp h.counter

theorem Simulation.traced_start (hps : ∀ q ∈ ps, q.WellFormed) (hp : p ∈ ps) (w : World) :
    ({ program := p, world := w } : Simulation).Traced ps := by
  refine ⟨hp, fun f hf => ?_, fun f hf => ?_, fun e he => ?_⟩
  · rw [List.mem_singleton.mp hf]
    exact traced_mainFrame hps hp (Int.le_refl 0)
  · cases hf
  · cases he

/-- The program that an operation brings in. -/
def Operation.loaded? : Operation → Option Program
  | .load q => some q
  | _ => none

theorem Simulation.traced_play {ops : List Operation} (h : u.Traced ps)
    (hps : ∀ q ∈ ps, q.WellFormed) (hops : ∀ q, .load q ∈ ops → q ∈ ps) :
    (u.play ops).Traced ps := by
  refine Simulation.play_induction h (fun v hv => hv.ticked hps)
    (fun v q hq hv => hv.load hps (hops q hq)) fun v hv => ?_
  exact Simulation.traced_start hps hv.program .initial

/-- The programs that a match has had: the first one and those that operations brought in. -/
def programsOf (p : Program) (ops : List Operation) : List Program :=
  p :: ops.filterMap Operation.loaded?

theorem wellFormed_of_mem_programsOf {ops : List Operation} (hp : p.IsRead)
    (hops : ∀ q, .load q ∈ ops → q.IsRead) : ∀ q ∈ programsOf p ops, q.WellFormed := by
  intro q hq
  rcases List.mem_cons.mp hq with rfl | hq
  · exact hp.wellFormed
  · obtain ⟨op, hop, hload⟩ := List.mem_filterMap.mp hq
    cases op with
    | load q' =>
        cases hload
        exact (hops q hop).wellFormed
    | _ => cases hload

theorem Simulation.traced_of_isRead {ops : List Operation} (hp : p.IsRead) (w : World)
    (hops : ∀ q, .load q ∈ ops → q.IsRead) :
    (Simulation.play { program := p, world := w } ops).Traced (programsOf p ops) := by
  have hps := wellFormed_of_mem_programsOf hp hops
  have hstart := Simulation.traced_start hps List.mem_cons_self w
  refine Simulation.traced_play hstart hps fun q hq => ?_
  exact List.mem_cons_of_mem _ (List.mem_filterMap.mpr ⟨_, hq, rfl⟩)

theorem Simulation.Traced.exists_tick (h : u.Traced ps) (hps : ∀ q ∈ ps, q.WellFormed)
    (hu : u.world.OnBoard) : ∃ executed v, u.tick = .ok (executed, v) := by
  cases htick : u.tick with
  | ok r => exact ⟨r.1, r.2, rfl⟩
  | error e =>
      obtain ⟨-, -, -, hfar⟩ := (h.tick_eq_error_iff hps).mp htick
      exact absurd hfar (not_tooFar hu)

/-- However a match is played that starts with a program that was read, and takes only such
programs: the counters are in range, a branch is one statement, and a variable is 0, 1 or a number
that a program taken so far assigns, which can be written. A tick comes to a fault exactly if it
scans for an opponent too far away, which tanks that start on the board never are. -/
theorem play_of_isRead {ops : List Operation} (hp : p.IsRead) (w : World)
    (hops : ∀ q, .load q ∈ ops → q.IsRead) :
    let u := Simulation.play { program := p, world := w } ops
    0 ≤ u.runtime.counter ∧
    (∀ f ∈ u.runtime.stack, 0 ≤ f.counter ∧ f.counter ≤ f.body.length ∧
      (f.label = branchLabel → f.body.length = 1)) ∧
    (∀ e ∈ u.runtime.store.entries, isWritable e.2 = true ∧
      (e.2 = 0 ∨ e.2 = 1 ∨ ∃ q ∈ programsOf p ops, e.2 ∈ q.assigned)) ∧
    (∀ e, u.tick = .error e ↔ e = .tooManyDigits ∧ u.ScansTooFar) ∧
    (w.OnBoard → ∃ executed v, u.tick = .ok (executed, v)) := by
  intro u
  have hps := wellFormed_of_mem_programsOf hp hops
  have h : u.Traced (programsOf p ops) := Simulation.traced_of_isRead hp w hops
  refine ⟨h.counter, fun f hf => ?_, fun e he => ?_, fun e => h.tick_eq_error_iff hps, fun hw => ?_⟩
  · obtain ⟨⟨hlow, hhigh⟩, hbranch⟩ := h.stack f hf
    exact ⟨hlow, hhigh, hbranch⟩
  · exact ⟨(h.store e he).isWritable hps, h.store e he⟩
  · exact h.exists_tick hps (Simulation.onBoard_play hw ops)

/-- A branch that was chosen before another program came still assigns its own number. -/
theorem play_of_isRead_load : ∃ p q u, Program.parse 1 "A = 7; IF 1 THEN A = 5;" = .ok p ∧
    Program.parse 1 "SCAN_FOR_ENEMY;" = .ok q ∧
    u = Simulation.play { program := p } [.tick, .tick, .load q, .tick] ∧
    u.runtime.store.entries = [("A", 5)] ∧ 5 ∉ q.assigned ∧ (∃ r ∈ [p, q], 5 ∈ r.assigned) ∧
    ∃ executed v, u.tick = .ok (executed, v) := by
  let p : Program :=
    { main := [.assign "A" (.literal 7), .ifThen (.literal 1) (.assign "A" (.literal 5))] }
  let q : Program := { main := [.scan] }
  have hp : Program.parse 1 "A = 7; IF 1 THEN A = 5;" = .ok p :=
    parse_eq_ok_of_toOption (by decide +kernel)
  have hq : Program.parse 1 "SCAN_FOR_ENEMY;" = .ok q := parse_eq_ok_of_toOption (by decide +kernel)
  let ops : List Operation := [.tick, .tick, .load q, .tick]
  have hops : ∀ r, .load r ∈ ops → r.IsRead := by
    intro r hr
    have hr : r = q := by simpa [ops] using hr
    exact ⟨1, _, hr ▸ hq⟩
  obtain ⟨-, -, hvalues, -, hok⟩ := play_of_isRead ⟨1, _, hp⟩ .initial hops
  have hstore : (Simulation.play { program := p } ops).runtime.store.entries = [("A", 5)] := by
    decide
  have hfive := (hvalues ("A", 5) (hstore ▸ List.mem_singleton.mpr rfl)).2
  refine ⟨p, q, _, hp, hq, rfl, hstore, by decide, ?_, hok World.onBoard_initial⟩
  exact (hfive.resolve_left (by decide)).resolve_left (by decide)

/-- Off the board the tanks can be too far apart: a scan then fails to say the distance. -/
theorem scan_fails_off_board :
    Program.parse 1 "SCAN_FOR_ENEMY;" = .ok { main := [.scan] } ∧
    Simulation.tick
      { program := { main := [.scan] }
        world :=
          { actor := { x := 5, y := -(5 * 10 ^ 4299) }
            opponent := { x := 5, y := 5 * 10 ^ 4299 } } } = .error .tooManyDigits := by
  refine ⟨parse_eq_ok_of_toOption (by decide +kernel), tick_eq_error_iff.mpr ⟨rfl, ?_⟩⟩
  exact step_of_tooFar rfl (tooFar_of_digits rfl 5 _)

end TankArena.Match
