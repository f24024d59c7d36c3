import TankArena.Playground.Session
import TankArena.Proofs.Machine.Safety

/-!
# Requests that fail

A request that fails should leave the session as it was. It does, but for two requests: a reset with
a program that cannot be read has already put that program into the editor, and a step past the last
tick that can be written has already been played. `failed_request_keeps_session_iff` says that there
are no others.
-/

namespace TankArena.Playground

open Arena Match Script Text

variable {s : Session} {server : Server} {r : Request} {route : Route}

/-- The request is refused, or it could not be worked on to its end. -/
def Reply.IsFailure (reply : Reply) : Prop := reply.status = 400 ∨ reply.status = 500

/-- The sessions that requests lead to. -/
inductive Session.Reachable (server : Server) : Session → Prop
  | initial : Reachable server (.initial server)
  | handle {s : Session} (r : Request) : Reachable server s →
      Reachable server (s.handle server r).2

/-! ## Requests that a route works on -/

/-- The route that works on a request, if there is one. A request for the head of a reply leaves no
trace. -/
def Server.served? (server : Server) (r : Request) : Option Route :=
  match server.router.dispatch r.method r.path with
  | .view route => some route
  | _ => none

theorem Server.served?_eq_some_iff :
    server.served? r = some route ↔ server.router.dispatch r.method r.path = .view route := by
  unfold Server.served?
  cases server.router.dispatch r.method r.path <;> simp

/-- A route works on what is sent to its path with its method. -/
theorem Server.served?_of_route (hmethod : r.method = route.method) (hpath : r.path = route.path) :
    server.served? r = some route := by
  rw [Server.served?_eq_some_iff, hmethod, hpath]
  exact server.router.dispatch_route route

theorem Session.handle_of_served (s : Session) (h : server.served? r = some route) :
    s.handle server r = s.serve server r route := by
  simp only [Session.handle, Server.served?_eq_some_iff.mp h]

/-- A route that is only looked at leaves the session as it is. -/
theorem Session.serve_of_isRead (s : Session) (server : Server) (r : Request)
    (h : route.isRead = true) : (s.serve server r route).2 = s := by
  cases route with
  | program => cases h
  | step => cases h
  | reset => cases h
  | _ => rfl

theorem Session.handle_of_not_served (s : Session) (h : server.served? r = none) :
    (s.handle server r).2 = s := by
  unfold Server.served? at h
  unfold Session.handle
  cases hdispatch : server.router.dispatch r.method r.path with
  | view route =>
      rw [hdispatch] at h
      cases h
  | head route => exact s.serve_of_isRead server r (server.router.isRead_of_head _ _ _ hdispatch)
  | bare status => rfl

/-! ## The match on the page comes to no fault -/

theorem Session.initial_safe (server : Server) : (Session.initial server).simulation.Safe :=
  Simulation.safe_start (Program.parse_wellFormed server.parse_sample)

theorem Session.submit_safe (h : s.simulation.Safe) (server : Server) (r : Request) :
    (s.submit server r).2.simulation.Safe := by
  unfold Session.submit
  split
  · exact h
  · exact h
  · split
    · split
      · exact h
      · rename_i hp
        exact h.load (Program.parse_wellFormed hp)
    · exact h

theorem Session.reset_safe (h : s.simulation.Safe) (server : Server) (r : Request) :
    (s.reset server r).2.simulation.Safe := by
  unfold Session.reset
  split
  · exact h
  · exact h
  · split
    · exact h.reset
    · exact h.reset
    · split
      · exact h
      · rename_i hp
        exact (h.load (Program.parse_wellFormed hp)).reset
    · exact h

@[simp] theorem Session.note_simulation (s : Session) (line : String) :
    (s.note line).simulation = s.simulation := by
  simp only [Session.note]

@[simp] theorem Session.noteTick_simulation (s : Session) :
    s.noteTick.simulation = s.simulation := by
  simp only [Session.noteTick]
  split
  · split <;> simp
  · rfl

theorem Session.step_of_isOver (h : s.simulation.isOver = true) :
    s.step = (s.show (some false), s) := by
  simp only [Session.step, Simulation.tick_of_isOver h, h, ↓reduceIte]

theorem Session.step_of_tick {executed : Bool} {v : Simulation} (h : s.simulation.isOver = false)
    (ht : Tick s.simulation executed v) :
    s.step = (({ s with simulation := v } : Session).noteTick.show (some executed),
      ({ s with simulation := v } : Session).noteTick) := by
  simp only [Session.step, tick_eq_ok_iff.mpr ht, h, Bool.false_eq_true, ↓reduceIte]

theorem Session.step_safe (h : s.simulation.Safe) : s.step.2.simulation.Safe := by
  cases hover : s.simulation.isOver with
  | true => rw [Session.step_of_isOver hover]; exact h
  | false =>
      obtain ⟨executed, v, ht⟩ := h.exists_tick
      rw [Session.step_of_tick hover ht, Session.noteTick_simulation]
      exact h.tick ht

theorem Session.handle_safe (h : s.simulation.Safe) (server : Server) (r : Request) :
    (s.handle server r).2.simulation.Safe := by
  cases hr : server.served? r with
  | none => rw [s.handle_of_not_served hr]; exact h
  | some route =>
      rw [s.handle_of_served hr]
      cases route with
      | program => exact Session.submit_safe h server r
      | step => exact Session.step_safe h
      | reset => exact Session.reset_safe h server r
      | _ => exact h

theorem Session.Reachable.safe (h : s.Reachable server) : s.simulation.Safe := by
  induction h with
  | initial => exact Session.initial_safe server
  | handle r _ ih => exact Session.handle_safe ih server r

/-! ## What failing requests leave behind -/

/-- The program that a body sends. -/
def Request.text? (r : Request) : Option (List Symbol) :=
  match r.fields with
  | .ok fields =>
    match Json.field? fields "source" with
    | some (.string source) => some source
    | _ => none
  | .error _ => none

/-- The request starts over with a program that cannot be read and is not the one in the editor. -/
def Session.LosesEditor (s : Session) (server : Server) (r : Request) : Prop :=
  server.served? r = some .reset ∧ ∃ source e, r.text? = some source ∧
    server.parse (Symbol.text source) = .error e ∧ source ≠ s.source

/-- The request plays a tick whose number cannot be written. -/
def Session.Overruns (s : Session) (server : Server) (r : Request) : Prop :=
  server.served? r = some .step ∧ s.simulation.isOver = false ∧
    isWritable (s.simulation.world.tick + 1) = false

theorem Reply.not_isFailure {reply : Reply} (h : reply.status = 200) : ¬ reply.IsFailure := by
  unfold Reply.IsFailure
  omega

theorem Session.submit_cases (s : Session) (server : Server) (r : Request) :
    (s.submit server r).2 = s ∨ (s.submit server r).1.status = 200 := by
  unfold Session.submit
  split
  · exact .inl rfl
  · exact .inl rfl
  · split
    · split
      · exact .inl rfl
      · exact .inr rfl
    · exact .inl rfl

theorem Session.status_restart (s : Session) : s.restart.1.status = 200 := by
  have hzero : isWritable World.initial.tick = true := by decide
  simp only [Session.restart, Session.show, Simulation.reset, hzero, ↓reduceIte]
  rfl

theorem Request.text?_eq_some_iff {source : List Symbol} : r.text? = some source ↔
    ∃ fields, r.fields = .ok fields ∧ Json.field? fields "source" = some (.string source) := by
  unfold Request.text?
  constructor
  · intro h
    split at h
    · rename_i fields hfields
      split at h
      · rename_i hfield
        cases h
        exact ⟨fields, hfields, hfield⟩
      · cases h
    · cases h
  · rintro ⟨fields, hfields, hfield⟩
    simp only [hfields, hfield]

theorem Session.reset_of_text (s : Session) {source : List Symbol} {e : ReadError}
    (h : r.text? = some source) (hp : server.parse (Symbol.text source) = .error e) :
    s.reset server r = (.failed, { s with source }) := by
  obtain ⟨fields, hfields, hfield⟩ := Request.text?_eq_some_iff.mp h
  simp only [Session.reset, hfields, hfield, hp]

/-- A reset keeps the session, works, or was sent a program that cannot be read. -/
theorem Session.reset_cases (s : Session) (server : Server) (r : Request) :
    (s.reset server r).2 = s ∨ (s.reset server r).1.status = 200 ∨
      ∃ source e, r.text? = some source ∧ server.parse (Symbol.text source) = .error e := by
  unfold Session.reset
  split
  · exact .inl rfl
  · exact .inl rfl
  · rename_i fields hfields
    split
    · exact .inr (.inl (Session.status_restart _))
    · exact .inr (.inl (Session.status_restart _))
    · rename_i source hfield
      cases hp : server.parse (Symbol.text source) with
      | error e =>
          have htext := Request.text?_eq_some_iff.mpr ⟨fields, hfields, hfield⟩
          exact .inr (.inr ⟨source, e, htext, hp⟩)
      | ok program => exact .inr (.inl (Session.status_restart _))
    · exact .inl rfl

/-- A step keeps the session, works, or plays a tick whose number cannot be written. -/
theorem Session.step_cases (h : s.simulation.Safe) : s.step.2 = s ∨ s.step.1.status = 200 ∨
    (s.simulation.isOver = false ∧ isWritable (s.simulation.world.tick + 1) = false) := by
  cases hover : s.simulation.isOver with
  | true => exact .inl (by rw [Session.step_of_isOver hover])
  | false =>
      cases hw : isWritable (s.simulation.world.tick + 1) with
      | false => exact .inr (.inr ⟨rfl, rfl⟩)
      | true =>
          obtain ⟨executed, v, ht⟩ := h.exists_tick
          rw [← ht.tick_eq hover] at hw
          refine .inr (.inl ?_)
          simp only [Session.step_of_tick hover ht, Session.show, Session.noteTick_simulation, hw,
            ↓reduceIte]
          rfl

theorem Session.step_of_overrun (h : s.simulation.Safe) (hover : s.simulation.isOver = false)
    (hw : isWritable (s.simulation.world.tick + 1) = false) :
    ∃ executed v, Tick s.simulation executed v ∧ s.step = (.failed, { s with simulation := v }) := by
  obtain ⟨executed, v, ht⟩ := h.exists_tick
  rw [← ht.tick_eq hover] at hw
  refine ⟨executed, v, ht, ?_⟩
  simp only [Session.step_of_tick hover ht, Session.noteTick, Session.show, hw, Bool.false_eq_true,
    ↓reduceIte]

theorem Session.handle_of_losesEditor (h : s.LosesEditor server r) :
    ∃ source, source ≠ s.source ∧ s.handle server r = (.failed, { s with source }) := by
  obtain ⟨hr, source, e, htext, hp, hne⟩ := h
  refine ⟨source, hne, ?_⟩
  rw [s.handle_of_served hr]
  exact s.reset_of_text htext hp

theorem Session.handle_of_overruns (hs : s.simulation.Safe)
    (h : s.Overruns server r) : ∃ executed v, Tick s.simulation executed v ∧
      s.handle server r = (.failed, { s with simulation := v }) := by
  obtain ⟨hr, hover, hw⟩ := h
  rw [s.handle_of_served hr]
  exact Session.step_of_overrun hs hover hw

/-- All other requests keep the session when they fail. -/
theorem Session.handle_of_isFailure (hs : s.simulation.Safe)
    (hfail : (s.handle server r).1.IsFailure) (hedit : ¬ s.LosesEditor server r)
    (hrun : ¬ s.Overruns server r) : (s.handle server r).2 = s := by
  cases hr : server.served? r with
  | none => exact s.handle_of_not_served hr
  | some route =>
      rw [s.handle_of_served hr] at hfail ⊢
      cases route with
      | program => exact (s.submit_cases server r).resolve_right fun h => Reply.not_isFailure h hfail
      | step =>
          rcases Session.step_cases hs with h | h | h
          · exact h
          · exact absurd hfail (Reply.not_isFailure h)
          · exact absurd ⟨hr, h⟩ hrun
      | reset =>
          rcases s.reset_cases server r with h | h | ⟨source, e, htext, hp⟩
          · exact h
          · exact absurd hfail (Reply.not_isFailure h)
          · have heq : source = s.source := by
              by_contra hne
              exact hedit ⟨hr, source, e, htext, hp, hne⟩
            have hreset := s.reset_of_text htext hp
            subst heq
            exact congrArg Prod.snd hreset
      | _ => rfl

/-- A failing request keeps the session, unless it is a reset with another program that cannot be
read, which keeps all but the editor, or a step past the last tick that can be written, which keeps
all but the match. -/
theorem failed_request_keeps_session_iff (hs : s.Reachable server) (r : Request) :
    (((s.handle server r).1.IsFailure → (s.handle server r).2 = s) ↔
      ¬ s.LosesEditor server r ∧ ¬ s.Overruns server r) ∧
    (s.LosesEditor server r →
      ∃ source, source ≠ s.source ∧ s.handle server r = (.failed, { s with source })) ∧
    (s.Overruns server r → ∃ executed v, Tick s.simulation executed v ∧
      s.handle server r = (.failed, { s with simulation := v })) := by
  refine ⟨⟨fun hkeep => ⟨fun hedit => ?_, fun hrun => ?_⟩, fun ⟨hedit, hrun⟩ hfail => ?_⟩,
    Session.handle_of_losesEditor, Session.handle_of_overruns hs.safe⟩
  · obtain ⟨source, hne, heq⟩ := Session.handle_of_losesEditor hedit
    rw [heq] at hkeep
    exact hne (congrArg Session.source (hkeep (.inr rfl)))
  · obtain ⟨executed, v, ht, heq⟩ := Session.handle_of_overruns hs.safe hrun
    rw [heq] at hkeep
    have hover := ht.eq_iff.mp (congrArg Session.simulation (hkeep (.inr rfl)))
    rw [hrun.2.1] at hover
    cases hover
  · exact Session.handle_of_isFailure hs.safe hfail hedit hrun

/-! ## A small server -/

/-- Finds every route under its own path and method, and nothing else. -/
def Router.exact : Router where
  dispatch method path :=
    ((Route.all.find? fun route => route.method = method ∧ route.path = path).map .view).getD
      (.bare 404)
  dispatch_route route := by cases route <;> decide +kernel
  isRead_of_head method path route h := by
    cases hfind : Route.all.find? fun route => route.method = method ∧ route.path = path with
    | none => rw [hfind] at h; cases h
    | some found => rw [hfind] at h; cases h

/-- A server with room for eight readings inside one another. -/
def Server.small : Server :=
  .ofRoom {} .exact (fun _ => 8) (by decide +kernel)

/-- A turn with a dotted capital, sent to a fresh page, stays in the editor. -/
theorem failed_request_keeps_session_iff_reset : (Session.initial .small).Reachable .small ∧
    ∃ r : Request, (Session.initial .small).LosesEditor .small r ∧
      ¬ (((Session.initial .small).handle .small r).1.IsFailure →
        ((Session.initial .small).handle .small r).2 = Session.initial .small) := by
  let r : Request :=
    { method := "POST", path := "/api/reset", contentType := "application/json"
      body := "\x7b\"source\":\"TURN R\u0130GHT;\"\x7d".toUTF8.toList }
  let source : List Symbol := "TURN R\u0130GHT;".toList.map .char
  obtain ⟨e, hp⟩ : ∃ e, Server.small.parse (Symbol.text source) = .error e :=
    exists_parse_eq_error (by decide +kernel)
  have hserved : Server.small.served? r = some .reset := Server.served?_of_route rfl rfl
  have hedit : (Session.initial .small).LosesEditor .small r :=
    ⟨hserved, source, e, by decide +kernel, hp, by decide +kernel⟩
  have hinit : (Session.initial .small).Reachable .small := .initial
  have hiff := (failed_request_keeps_session_iff hinit r).1
  exact ⟨hinit, r, hedit, fun hkeep => (hiff.mp hkeep).1 hedit⟩

end TankArena.Playground
