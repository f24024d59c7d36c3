import Mathlib.Data.List.DropRight
import TankArena.Proofs.Match.Play
import TankArena.Proofs.Playground.Atomicity

/-!
# A session as a match and its log

Each request that is not refused stands for one call on the match: a tick, a load or a reset. As
long as no request fails, the session is the match after these calls, next to the last of the lines
that they leave since the last reset: `session_refines`. One request is one call (`handle_cases`),
and one call keeps what the session is to be (`Refines.afterCall`).
-/

namespace TankArena.Playground

open Arena Match Script Text

variable {s : Session} {server : Server} {r : Request}

/-- What a request asks of the match. -/
inductive Call
  | tick
  | load (source : List Symbol)
  | reset (source : Option (List Symbol))
  deriving DecidableEq

/-- The program of a text, or none at all if it cannot be read. -/
def Server.programOf (server : Server) (source : List Symbol) : Program :=
  (server.parse (Symbol.text source)).toOption.getD {}

namespace Call

/-- The text that a call puts into the editor. -/
def source? : Call → Option (List Symbol)
  | .tick => none
  | .load source => some source
  | .reset source => source

def isReset : Call → Bool
  | .reset _ => true
  | _ => false

/-- A program that comes with a reset is loaded before it. -/
def operations (server : Server) : Call → List Operation
  | .tick => [.tick]
  | .load source => [.load (server.programOf source)]
  | .reset source => source.toList.map (fun source => .load (server.programOf source)) ++ [.reset]

/-- The lines that a call leaves in the log of a match. -/
def lines (server : Server) (u : Simulation) : Call → List String
  | .tick =>
    if u.isOver then []
    else tickLine u.ticked.world :: if u.ticked.isOver then ["Match over"] else []
  | .load source =>
    let program := server.programOf source
    ["Program loaded: " ++ decimal program.main.length ++ " statements, " ++
      decimal program.functions.size ++ " functions"]
  | .reset _ => ["Reset"]

/-- The text of the call, if it has one, can be read. -/
def IsReadable (server : Server) (c : Call) : Prop :=
  ∀ source ∈ c.source?, server.parse (Symbol.text source) = .ok (server.programOf source)

end Call

/-- All lines that calls leave, in their order. -/
def history (server : Server) (u : Simulation) : List Call → List String
  | [] => []
  | c :: cs => c.lines server u ++ history server (u.play (c.operations server)) cs

/-- The call that a request stands for. One that is refused stands for none. -/
def Server.call? (server : Server) (r : Request) (reply : Reply) : Option Call :=
  if reply.status = 400 then none
  else
    match server.served? r with
    | some .step => some .tick
    | some .program => some (.load (r.text?.getD []))
    | some .reset => some (.reset r.text?)
    | _ => none

def Session.after (server : Server) (s : Session) (rs : List Request) : Session :=
  rs.foldl (fun s r => (s.handle server r).2) s

def Session.exchanges (server : Server) : Session → List Request → List (Request × Reply)
  | _, [] => []
  | s, r :: rs =>
    (r, (s.handle server r).1) :: exchanges server (s.handle server r).2 rs

def Session.calls (server : Server) (s : Session) (rs : List Request) : List Call :=
  (s.exchanges server rs).filterMap fun (r, reply) => server.call? r reply

/-! ## One request -/

/-- The session after a call. A reset empties the log first. -/
def Session.afterCall (s : Session) (server : Server) (c : Call) : Session where
  source := c.source?.getD s.source
  simulation := s.simulation.play (c.operations server)
  log := (c.lines server s.simulation).foldl addLog (if c.isReset then [] else s.log)

theorem Session.source_afterCall (s : Session) (server : Server) (c : Call) :
    (s.afterCall server c).source = c.source?.getD s.source := rfl

/-- The program of the text that a call puts into the editor is the one that runs. -/
theorem Session.program_afterCall (s : Session) (server : Server) (c : Call) :
    (s.afterCall server c).simulation.program =
      (c.source?.map server.programOf).getD s.simulation.program := by
  simp only [Session.afterCall, Simulation.play]
  cases c with
  | tick => exact Simulation.program_ticked s.simulation
  | load source =>
      simp only [Call.operations, Call.source?, List.foldl_cons, List.foldl_nil, Simulation.perform,
        Simulation.load, Option.map_some, Option.getD_some]
  | reset source =>
      cases source with
      | none => rfl
      | some source =>
          simp only [Call.operations, Call.source?, Option.toList_some, List.map_singleton,
            List.foldl_append, List.foldl_cons, List.foldl_nil, Simulation.perform, Simulation.load,
            Simulation.reset, Option.map_some, Option.getD_some]

theorem Server.programOf_eq {source : List Symbol} {program : Program}
    (h : server.parse (Symbol.text source) = .ok program) : server.programOf source = program := by
  simp only [Server.programOf, h, Except.toOption, Option.getD_some]

theorem isReadable_of_source {c : Call} {source : List Symbol} {program : Program}
    (hc : c.source? = some source) (h : server.parse (Symbol.text source) = .ok program) :
    c.IsReadable server := by
  intro source' hsource'
  rw [Option.mem_def, hc] at hsource'
  cases hsource'
  rw [Server.programOf_eq h, h]

/-- What a session makes of a call: it fails, refuses it or carries it out. -/
inductive Session.Outcome (s : Session) (server : Server) (c : Call) : Reply × Session → Prop
  | failed {t : Session} : Outcome s server c (.failed, t)
  | refused {reason : String} : Outcome s server c (.refused reason, s)
  | done {reply : Reply} : c.IsReadable server → reply.status = 200 →
      Outcome s server c (reply, s.afterCall server c)

theorem Session.show_cases (s : Session) (executed : Option Bool) :
    s.show executed = .failed ∨
      (s.show executed).status = 200 ∧ isWritable s.simulation.world.tick = true := by
  unfold Session.show
  split
  · exact .inr ⟨rfl, by assumption⟩
  · exact .inl rfl

theorem Session.afterCall_tick_of_isOver (h : s.simulation.isOver = true) :
    s.afterCall server .tick = s := by
  simp only [Session.afterCall, Call.source?, Call.operations, Call.lines, Call.isReset,
    Simulation.play, Simulation.perform, List.foldl_cons, List.foldl_nil,
    Simulation.ticked_of_isOver h, h, ↓reduceIte, Option.getD_none, Bool.false_eq_true]

theorem Session.afterCall_tick {v : Simulation} (hover : s.simulation.isOver = false)
    (hv : s.simulation.ticked = v) (hw : isWritable v.world.tick = true) :
    s.afterCall server .tick = ({ s with simulation := v } : Session).noteTick := by
  simp only [Session.afterCall, Call.source?, Call.operations, Call.lines, Call.isReset,
    Simulation.play, Simulation.perform, List.foldl_cons, List.foldl_nil, hover, hv,
    Session.noteTick, hw, ↓reduceIte, Option.getD_none, Bool.false_eq_true, Session.note_simulation]
  split <;> simp only [List.foldl_cons, List.foldl_nil, Session.note]

theorem Session.outcome_step (s : Session) : s.Outcome server .tick s.step := by
  have hreadable : Call.tick.IsReadable server := fun source hsource => by cases hsource
  cases hover : s.simulation.isOver with
  | true =>
      rw [Session.step_of_isOver hover]
      rcases s.show_cases (some false) with hshow | ⟨hstatus, -⟩
      · rw [hshow]
        exact .failed
      · have hdone := Session.Outcome.done hreadable hstatus (s := s)
        rwa [Session.afterCall_tick_of_isOver hover] at hdone
  | false =>
      rcases s.simulation.ticked_cases with ⟨executed, v, ht, hv⟩ | ⟨e, he, -⟩
      · rw [Session.step_of_tick hover ht]
        -- The lines are left and the state is shown under one condition: the clock can be written.
        generalize hnext : ({ s with simulation := v } : Session).noteTick = next
        rcases next.show_cases (some executed) with hshow | ⟨hstatus, hw⟩
        · rw [hshow]
          exact .failed
        · rw [← hnext, Session.noteTick_simulation] at hw
          rw [← hnext, ← Session.afterCall_tick hover hv hw] at hstatus ⊢
          exact .done hreadable hstatus
      · unfold Session.step
        rw [he]
        exact .failed

theorem Session.afterCall_load {source : List Symbol} {program : Program}
    (h : server.parse (Symbol.text source) = .ok program) :
    s.afterCall server (.load source) =
      ({ s with source, simulation := s.simulation.load program } : Session).note
        ("Program loaded: " ++ decimal program.main.length ++ " statements, " ++
          decimal program.functions.size ++ " functions") := by
  simp only [Session.afterCall, Call.source?, Call.operations, Call.lines, Call.isReset,
    Simulation.play, Simulation.perform, List.foldl_cons, List.foldl_nil, Server.programOf_eq h,
    Option.getD_some, Bool.false_eq_true, ↓reduceIte, Session.note]

theorem Session.outcome_submit (s : Session) (r : Request) :
    s.Outcome server (.load (r.text?.getD [])) (s.submit server r) := by
  unfold Session.submit
  split
  · exact .failed
  · exact .refused
  · rename_i fields hfields
    split
    · rename_i source hfield
      rw [Request.text?_eq_some_iff.mpr ⟨fields, hfields, hfield⟩, Option.getD_some]
      cases hp : server.parse (Symbol.text source) with
      | error e => exact .failed
      | ok program =>
          have hdone : s.Outcome server (.load source)
              (.loaded program, s.afterCall server (.load source)) :=
            .done (isReadable_of_source rfl hp) rfl
          rwa [Session.afterCall_load hp] at hdone
    · exact .refused

theorem addLog_nil (line : String) : addLog [] line = [line] := by
  simp only [addLog, maxLog, List.nil_append, List.length_singleton, Nat.reduceSub, List.drop_zero]

theorem Session.afterCall_reset (s : Session) (source : Option (List Symbol)) :
    s.afterCall server (.reset source) =
      { source := source.getD s.source
        simulation :=
          (s.simulation.play (source.toList.map fun source => .load (server.programOf source))).reset
        log := ["Reset"] } := by
  simp only [Session.afterCall, Call.source?, Call.operations, Call.lines, Call.isReset,
    Simulation.play, List.foldl_append, List.foldl_cons, List.foldl_nil, Simulation.perform,
    addLog_nil, ↓reduceIte]

theorem Session.outcome_restart (s : Session) : s.Outcome server (.reset none) s.restart := by
  have hdone : s.Outcome server (.reset none)
      (s.restart.1, s.afterCall server (.reset none)) :=
    .done (fun source hsource => by cases hsource) s.status_restart
  rw [Session.afterCall_reset] at hdone
  exact hdone

theorem Session.outcome_restart_load {source : List Symbol} {program : Program}
    (h : server.parse (Symbol.text source) = .ok program) :
    s.Outcome server (.reset (some source))
      ({ s with source, simulation := s.simulation.load program } : Session).restart := by
  have hdone := Session.Outcome.done (s := s)
    (isReadable_of_source (c := .reset (some source)) rfl h)
    ({ s with source, simulation := s.simulation.load program } : Session).status_restart
  rw [Session.afterCall_reset, Option.toList_some, List.map_singleton, Server.programOf_eq h]
    at hdone
  exact hdone

theorem Session.outcome_reset (s : Session) (r : Request) :
    s.Outcome server (.reset r.text?) (s.reset server r) := by
  unfold Session.reset
  split
  · exact .failed
  · exact .refused
  · rename_i fields hfields
    split
    · rename_i hfield
      have htext : r.text? = none := by simp only [Request.text?, hfields, hfield]
      rw [htext]
      exact s.outcome_restart
    · rename_i hfield
      have htext : r.text? = none := by simp only [Request.text?, hfields, hfield]
      rw [htext]
      exact s.outcome_restart
    · rename_i source hfield
      rw [Request.text?_eq_some_iff.mpr ⟨fields, hfields, hfield⟩]
      cases hp : server.parse (Symbol.text source) with
      | error e => exact .failed
      | ok program => exact Session.outcome_restart_load hp
    · exact .refused

theorem Server.call?_of_status {reply : Reply} (h : reply.status = 400) :
    server.call? r reply = none := by
  rw [Server.call?, if_pos h]

theorem Session.Outcome.cases {c : Call} {answer : Reply × Session} (h : s.Outcome server c answer)
    (hok : answer.1.status ≠ 500)
    (hcall : answer.1.status ≠ 400 → server.call? r answer.1 = some c) :
    (server.call? r answer.1 = none ∧ answer.2 = s) ∨
      ∃ c, server.call? r answer.1 = some c ∧ c.IsReadable server ∧
        answer.2 = s.afterCall server c := by
  cases h with
  | failed => exact absurd rfl hok
  | refused => exact .inl ⟨Server.call?_of_status rfl, rfl⟩
  | done hreadable hstatus => exact .inr ⟨c, hcall (by rw [hstatus]; decide), hreadable, rfl⟩

/-- A request that does not fail leaves the session as it is, or does what the call it stands for
does. -/
theorem Session.handle_cases (h : (s.handle server r).1.status ≠ 500) :
    (server.call? r (s.handle server r).1 = none ∧ (s.handle server r).2 = s) ∨
      ∃ c, server.call? r (s.handle server r).1 = some c ∧ c.IsReadable server ∧
        (s.handle server r).2 = s.afterCall server c := by
  cases hr : server.served? r with
  | none =>
      refine .inl ⟨?_, s.handle_of_not_served hr⟩
      simp only [Server.call?, hr, ite_self]
  | some route =>
      rw [s.handle_of_served hr] at h ⊢
      cases route with
      | step =>
          exact s.outcome_step.cases h fun hne => by simp only [Server.call?, if_neg hne, hr]
      | program =>
          exact (s.outcome_submit r).cases h fun hne => by
            simp only [Server.call?, if_neg hne, hr]
      | reset =>
          exact (s.outcome_reset r).cases h fun hne => by
            simp only [Server.call?, if_neg hne, hr]
      | _ => exact .inl ⟨by simp only [Server.call?, hr, ite_self], rfl⟩

/-! ## The log -/

/-- Lines that are dropped at once or one after the other leave the same log. -/
theorem addLog_rtake (lines : List String) (line : String) :
    addLog (lines.rtake maxLog) line = (lines ++ [line]).rtake maxLog := by
  -- What `addLog` drops from the front is all but the last lines.
  change (lines.rtake maxLog ++ [line]).rtake maxLog = _
  rw [maxLog, List.rtake_concat_succ, List.rtake_concat_succ]
  simp only [List.rtake_eq_reverse_take_reverse, List.reverse_reverse, List.take_take]
  rfl

theorem foldl_addLog_rtake (lines more : List String) :
    more.foldl addLog (lines.rtake maxLog) = (lines ++ more).rtake maxLog := by
  induction more generalizing lines with
  | nil => rw [List.append_nil, List.foldl_nil]
  | cons line more ih =>
      rw [List.foldl_cons, addLog_rtake, ih, List.append_assoc, List.singleton_append]

theorem history_concat (u : Simulation) (cs : List Call) (c : Call) :
    history server u (cs ++ [c]) =
      history server u cs ++ c.lines server (u.play (cs.flatMap (·.operations server))) := by
  induction cs generalizing u with
  | nil =>
      simp only [List.nil_append, history, List.append_nil, List.flatMap_nil, Simulation.play,
        List.foldl_nil]
  | cons d cs ih =>
      simp only [List.cons_append, history, ih, List.append_assoc, List.flatMap_cons,
        Simulation.play, List.foldl_append]

/-! ## All requests -/

/-- The calls of `since` go back to the last reset, which is the first of them, or to the start if
there was none. -/
structure SinceReset (before since : List Call) : Prop where
  head : before = [] ∨ ∃ c ∈ since.head?, c.isReset = true
  tail : ∀ c ∈ since.tail, c.isReset = false

theorem SinceReset.start : SinceReset [] [] := ⟨.inl rfl, fun _ hc => by cases hc⟩

theorem SinceReset.reset {c : Call} (before : List Call) (hc : c.isReset = true) :
    SinceReset before [c] :=
  ⟨.inr ⟨c, rfl, hc⟩, fun _ hd => by cases hd⟩

theorem SinceReset.concat {before since : List Call} {c : Call} (h : SinceReset before since)
    (hc : c.isReset = false) : SinceReset before (since ++ [c]) := by
  cases since with
  | nil =>
      obtain hbefore | ⟨d, hd, -⟩ := h.head
      · exact ⟨.inl hbefore, fun _ he => by cases he⟩
      · cases hd
  | cons d ds =>
      refine ⟨h.head, fun e he => ?_⟩
      rcases List.mem_append.mp he with he | he
      · exact h.tail e he
      · rw [List.mem_singleton.mp he, hc]

/-- What a session is after some calls, the first of them made at the start. -/
structure Session.Refines (s : Session) (server : Server) (calls : List Call) : Prop where
  readable : ∀ c ∈ calls, c.IsReadable server
  simulation : s.simulation =
    (Session.initial server).simulation.play (calls.flatMap (·.operations server))
  source : s.source = (calls.filterMap Call.source?).getLastD (Session.initial server).source
  program : server.parse (Symbol.text s.source) = .ok s.simulation.program
  log : ∃ before since, calls = before ++ since ∧ SinceReset before since ∧
    s.log = (history server ((Session.initial server).simulation.play
      (before.flatMap (·.operations server))) since).rtake maxLog

theorem Session.text_initial (server : Server) :
    Symbol.text (Session.initial server).source = sampleSource := by
  simp only [Symbol.text, Session.initial, List.map_map, Function.comp_def, Symbol.char?,
    Option.getD_some, List.map_id', String.ofList_toList]

theorem Session.parse_initial (server : Server) :
    server.parse (Symbol.text (Session.initial server).source) =
      .ok (Session.initial server).simulation.program :=
  (congrArg server.parse (Session.text_initial server)).trans server.parse_sample

namespace Session.Refines

theorem initial (server : Server) : (Session.initial server).Refines server [] where
  readable _ hc := (List.not_mem_nil hc).elim
  simulation := by rw [List.flatMap_nil, Simulation.play, List.foldl_nil]
  source := by rw [List.filterMap_nil, List.getLastD_nil]
  program := Session.parse_initial server
  log := ⟨[], [], rfl, .start, by rw [history, List.rtake_nil, Session.initial]⟩

theorem afterCall {calls : List Call} {c : Call} (h : s.Refines server calls)
    (hc : c.IsReadable server) :
    (s.afterCall server c).Refines server (calls ++ [c]) where
  readable := List.forall_mem_append.mpr ⟨h.readable, List.forall_mem_singleton.mpr hc⟩
  simulation := by
    simp only [Session.afterCall, h.simulation, Simulation.play, List.flatMap_append,
      List.flatMap_singleton, List.foldl_append]
  source := by
    rw [List.filterMap_append]
    cases hsource : c.source? with
    | none =>
        simp only [Session.afterCall, hsource, h.source, Option.getD_none, List.filterMap_cons,
          List.filterMap_nil, List.append_nil]
    | some source =>
        simp only [Session.afterCall, hsource, Option.getD_some, List.filterMap_cons,
          List.filterMap_nil, List.getLastD_concat]
  program := by
    rw [Session.source_afterCall, Session.program_afterCall]
    cases hsource : c.source? with
    | none =>
        rw [Option.getD_none, Option.map_none, Option.getD_none]
        exact h.program
    | some source =>
        rw [Option.getD_some, Option.map_some, Option.getD_some]
        exact hc source hsource
  log := by
    cases hreset : c.isReset with
    | true =>
        refine ⟨calls, [c], rfl, .reset calls hreset, ?_⟩
        have hlines := foldl_addLog_rtake [] (c.lines server s.simulation)
        rw [List.rtake_nil, List.nil_append] at hlines
        simp only [Session.afterCall, hreset, ↓reduceIte, history, List.append_nil,
          ← h.simulation, hlines]
    | false =>
        -- The lines are those of the match as the calls so far left it.
        obtain ⟨before, since, rfl, hsince, hlog⟩ := h.log
        refine ⟨before, since ++ [c], List.append_assoc _ _ _, hsince.concat hreset, ?_⟩
        have hsimulation := h.simulation
        simp only [Simulation.play, List.flatMap_append, List.foldl_append] at hsimulation
        simp only [Session.afterCall, hreset, hlog, foldl_addLog_rtake, history_concat,
          hsimulation, Simulation.play, Bool.false_eq_true, ↓reduceIte]

/-- Requests, none of which fails, one after the other. -/
theorem after {calls : List Call} (h : s.Refines server calls) (rs : List Request)
    (hok : ∀ e ∈ s.exchanges server rs, e.2.status ≠ 500) :
    (s.after server rs).Refines server (calls ++ s.calls server rs) := by
  induction rs generalizing s calls with
  | nil =>
      rw [show s.calls server [] = [] from rfl, List.append_nil]
      exact h
  | cons r rs ih =>
      obtain ⟨hr, hrs⟩ := List.forall_mem_cons.mp hok
      rcases Session.handle_cases hr with ⟨hcall, hnext⟩ | ⟨c, hcall, hc, hnext⟩
      · have hcalls : s.calls server (r :: rs) = s.calls server rs := by
          simp only [Session.calls, Session.exchanges, List.filterMap_cons, hcall, hnext]
        have hafter : s.after server (r :: rs) = s.after server rs := by
          simp only [Session.after, List.foldl_cons, hnext]
        rw [hcalls, hafter]
        rw [hnext] at hrs
        exact ih h hrs
      · have hcalls : s.calls server (r :: rs) = c :: (s.afterCall server c).calls server rs := by
          simp only [Session.calls, Session.exchanges, List.filterMap_cons, hcall, hnext]
        have hafter : s.after server (r :: rs) = (s.afterCall server c).after server rs := by
          simp only [Session.after, List.foldl_cons, hnext]
        rw [hcalls, hafter, List.append_cons]
        rw [hnext] at hrs
        exact ih (h.afterCall hc) hrs

end Session.Refines

/-- After requests none of which failed, the match is that of their calls, the editor holds the text
that came last, whose program is the one that runs, and the log ends the lines since the last reset.
-/
theorem session_refines (server : Server) (rs : List Request)
    (h : ∀ e ∈ (Session.initial server).exchanges server rs, e.2.status ≠ 500) :
    let s := (Session.initial server).after server rs
    let calls := (Session.initial server).calls server rs
    (∀ c ∈ calls, c.IsReadable server) ∧
    s.simulation =
      (Session.initial server).simulation.play (calls.flatMap (·.operations server)) ∧
    s.source = (calls.filterMap Call.source?).getLastD (Session.initial server).source ∧
    server.parse (Symbol.text s.source) = .ok s.simulation.program ∧
    ∃ before since, calls = before ++ since ∧ SinceReset before since ∧
      let events :=
        history server
          ((Session.initial server).simulation.play (before.flatMap (·.operations server))) since
      s.log <:+ events ∧ s.log.length = min 200 events.length := by
  intro s calls
  have hrefines := (Session.Refines.initial server).after rs h
  rw [List.nil_append] at hrefines
  refine ⟨hrefines.readable, hrefines.simulation, hrefines.source, hrefines.program, ?_⟩
  obtain ⟨before, since, hcalls, hsince, hlog⟩ := hrefines.log
  refine ⟨before, since, hcalls, hsince, ?_, ?_⟩
  · rw [hlog]
    exact List.drop_suffix _ _
  · rw [hlog, List.rtake, List.length_drop, maxLog]
    omega

/-- A refused reset and a look at the state are skipped. -/
theorem session_refines_skipping :
    let send (route : Route) (body : String) : Request :=
      { method := route.method, path := route.path, contentType := "application/json"
        body := body.toUTF8.toList }
    let rs :=
      [send .program "\x7b\"source\":\"ATTACK;\"\x7d", send .step "", send .reset "",
       send .reset "\x7b\"source\":1\x7d", send .step "", send .state ""]
    let source : List Symbol := "ATTACK;".toList.map .char
    let s := (Session.initial .small).after .small rs
    s.simulation = (Session.initial .small).simulation.play
        [.load (Server.small.programOf source), .tick, .reset, .tick] ∧
      s.source = source ∧
      Server.small.parse (Symbol.text s.source) = .ok s.simulation.program := by
  intro send rs source s
  have hok : ∀ e ∈ (Session.initial .small).exchanges .small rs, e.2.status ≠ 500 := by
    decide +kernel
  have hcalls : (Session.initial .small).calls .small rs =
      [.load source, .tick, .reset none, .tick] := by decide +kernel
  obtain ⟨-, hsimulation, hsource, hprogram, -⟩ := session_refines .small rs hok
  rw [hcalls] at hsimulation hsource
  exact ⟨hsimulation, hsource, hprogram⟩

end TankArena.Playground
