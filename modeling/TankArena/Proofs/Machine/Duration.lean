import TankArena.Proofs.Machine.Evaluation
import TankArena.Proofs.Machine.Safety
import TankArena.Proofs.Script.CallGraph

/-!
# How long a program without conditionals runs

Without conditionals and without recursion the program alone decides how many steps a statement
takes. A call of a known function is one step, followed by the steps of the body and one that drops
the frame; any other statement is one step. The machine takes as many steps as the main sequence
costs, unless it comes to a number that it cannot say.
-/

namespace TankArena.Script

def Program.IfFree (p : Program) : Prop :=
  (∀ s ∈ p.main, s.branches? = none) ∧ ∀ e ∈ p.functions.entries, ∀ s ∈ e.2, s.branches? = none

instance (p : Program) : Decidable p.IfFree := inferInstanceAs (Decidable (_ ∧ _))

/-- How many steps a list of statements costs: two and the cost of its body for the call of a
function, one for any other statement. -/
inductive Program.Costs (p : Program) : List Stmt → Nat → Prop
  | nil : Costs p [] 0
  | call {name body rest m n} : p.functions.get? name = some body → Costs p body m →
      Costs p rest n → Costs p (.call name :: rest) (2 + m + n)
  | other {s rest n} : (∀ name, s = .call name → p.functions.get? name = none) →
      Costs p rest n → Costs p (s :: rest) (1 + n)

variable {p : Program} {s : Stmt} {body rest : List Stmt} {name : String} {m n : Nat}

theorem Program.Costs.of_call (h : p.Costs (.call name :: rest) n)
    (hget : p.functions.get? name = some body) :
    ∃ k l, p.Costs body k ∧ p.Costs rest l ∧ n = 2 + k + l := by
  cases h with
  | call hget' hbody hrest =>
      rw [hget] at hget'
      cases hget'
      exact ⟨_, _, hbody, hrest, rfl⟩
  | other hs _ =>
      rw [hs name rfl] at hget
      cases hget

theorem Program.Costs.of_other (h : p.Costs (s :: rest) n)
    (hs : ∀ name, s = .call name → p.functions.get? name = none) :
    ∃ k, p.Costs rest k ∧ n = 1 + k := by
  cases h with
  | call hget _ _ =>
      rw [hs _ rfl] at hget
      cases hget
  | other _ hrest => exact ⟨_, hrest, rfl⟩

theorem Program.Costs.unique (h : p.Costs body m) (h' : p.Costs body n) : m = n := by
  induction h generalizing n with
  | nil =>
      cases h'
      rfl
  | call hget _ _ ihbody ihrest =>
      obtain ⟨k, l, hbody, hrest, rfl⟩ := h'.of_call hget
      rw [ihbody hbody, ihrest hrest]
  | other hs _ ih =>
      obtain ⟨k, hrest, rfl⟩ := h'.of_other hs
      rw [ih hrest]

theorem Program.Costs.eq_zero_iff (h : p.Costs body n) : n = 0 ↔ body = [] := by
  cases h with
  | nil => exact iff_of_true rfl rfl
  | call _ _ _ => exact iff_of_false (by omega) (List.cons_ne_nil _ _)
  | other _ _ => exact iff_of_false (by omega) (List.cons_ne_nil _ _)

theorem Program.exists_costs (h : ∀ name inner, .call name ∈ body →
    p.functions.get? name = some inner → ∃ n, p.Costs inner n) : ∃ n, p.Costs body n := by
  induction body with
  | nil => exact ⟨0, .nil⟩
  | cons s rest ih =>
      obtain ⟨n, hrest⟩ := ih fun name inner hcall => h name inner (List.mem_cons_of_mem _ hcall)
      by_cases hs : ∃ name inner, s = .call name ∧ p.functions.get? name = some inner
      · obtain ⟨name, inner, rfl, hget⟩ := hs
        obtain ⟨m, hinner⟩ := h name inner List.mem_cons_self hget
        exact ⟨2 + m + n, .call hget hinner hrest⟩
      · refine ⟨1 + n, .other (fun name hname => ?_) hrest⟩
        exact Option.eq_none_iff_forall_ne_some.mpr fun inner hget => hs ⟨name, inner, hname, hget⟩

theorem Program.Acyclic.exists_costs (h : p.Acyclic) (body : List Stmt) : ∃ n, p.Costs body n := by
  have hfunction : ∀ f inner, p.functions.get? f = some inner → ∃ n, p.Costs inner n := by
    intro f
    induction f using h.induction with
    | step f ih =>
        intro inner hget
        refine Program.exists_costs fun g called hcall hcalled => ?_
        have hcalls : p.Calls f g := Program.calls_iff.mpr
          ⟨inner, hget, ⟨_, hcall, List.mem_singleton_self g⟩, Table.mem_keys_of_get? hcalled⟩
        exact ih g hcalls called hcalled
  exact Program.exists_costs fun name inner _ hget => hfunction name inner hget

end TankArena.Script

namespace TankArena.Machine

open Arena Script

variable {p : Program} {s t : State} {c d : Scene} {fs : List Frame} {stmt : Stmt} {m n : Nat}

/-! ## Steps that are left -/

/-- The steps that are left for a row of frames: those of the rest of each body, and one to drop the
frame. -/
inductive Left (p : Program) : List Frame → Nat → Prop
  | nil : Left p [] 0
  | cons {f : Frame} {fs : List Frame} {i m n : Nat} : f.counter = i →
      p.Costs (f.body.drop i) m → Left p fs n → Left p (f :: fs) (m + 1 + n)

theorem Left.cons_inv {f : Frame} (h : Left p (f :: fs) n) :
    ∃ i k l : Nat, f.counter = i ∧ p.Costs (f.body.drop i) k ∧ Left p fs l ∧ n = k + 1 + l := by
  cases h with
  | cons hi hcost hrest => exact ⟨_, _, _, hi, hcost, hrest, rfl⟩

def IfFree (fs : List Frame) : Prop := ∀ f ∈ fs, ∀ stmt ∈ f.body, stmt.branches? = none

theorem IfFree.shift {gs : List Frame} (hp : p.IfFree) (h : IfFree fs) (hs : Shift p fs gs) :
    IfFree gs := by
  refine hs.forall_mem h (fun f hf => hf) ?_ ?_
  · intro f hf stmt hstmt test yes no chosen hb _
    rw [h f hf stmt hstmt] at hb
    cases hb
  · intro name body hget
    exact hp.2 _ (Table.mem_of_get? hget)

/-- A call that is done in one step is one of an unknown function. -/
theorem Effect.unknown (h : Effect p c stmt d) :
    ∀ name, stmt = .call name → p.functions.get? name = none := by
  rintro name rfl
  cases h with
  | unknownCall hget => exact hget
  | leave hb _ => cases hb

/-- The main frame stays, so that one more is left than there are steps to take. -/
theorem Left.isFinished_iff (h : Left p (s.frames p) (n + 1)) :
    s.runtime.isFinished p = true ↔ n = 0 := by
  rw [Runtime.isFinished, Bool.and_eq_true_iff, decide_eq_true_iff, List.isEmpty_iff]
  cases hstack : s.runtime.stack with
  | nil =>
      rw [State.frames, hstack, List.nil_append] at h
      obtain ⟨i, k, l, hi, hcost, hrest, hn⟩ := h.cons_inv
      cases hrest
      have hcounter : s.runtime.counter = i := hi
      have hdone : p.main.length ≤ s.runtime.counter ↔ k = 0 := by
        rw [hcost.eq_zero_iff, List.drop_eq_nil_iff, hcounter, Int.ofNat_le]
        rfl
      exact (and_iff_right rfl).trans (hdone.trans (by omega))
  | cons f fs =>
      rw [State.frames, hstack, List.cons_append] at h
      obtain ⟨_, k, l, _, _, hrest, hn⟩ := h.cons_inv
      obtain ⟨g, gs, hbelow⟩ : ∃ g gs, fs ++ [s.mainFrame p] = g :: gs :=
        List.exists_cons_of_ne_nil (by simp)
      rw [hbelow] at hrest
      obtain ⟨_, _, _, _, _, _, hl⟩ := hrest.cons_inv
      exact iff_of_false (fun hnil => List.cons_ne_nil f fs hnil.1) (by omega)

/-- Every step is one of those that were left. -/
theorem Left.transition (hfree : IfFree (s.frames p)) (h : Left p (s.frames p) n)
    (ht : Transition p s t) : ∃ k, n = k + 1 ∧ Left p (t.frames p) k := by
  have htop := hfree _ (s.top_mem_frames p)
  rw [State.frames_eq_top_cons] at h
  obtain ⟨i, k, l, hi, hcost, hrest, rfl⟩ := h.cons_inv
  have hnext : (s.top p).next.counter = (i + 1 : Nat) := by
    rw [Frame.next, hi]
    rfl
  cases ht with
  | @next stmt c hs he =>
      rw [Frame.drop_eq_cons hi hs] at hcost
      obtain ⟨k, hcost', rfl⟩ := hcost.of_other he.unknown
      refine ⟨k + 1 + l, by omega, ?_⟩
      rw [State.frames_done]
      exact .cons hnext hcost' hrest
  | branch hs hb _ =>
      rw [htop _ (Frame.mem_body_of_current? hs)] at hb
      cases hb
  | @call name body hs hget =>
      rw [Frame.drop_eq_cons hi hs] at hcost
      obtain ⟨a, b, hbody, hcost', rfl⟩ := hcost.of_call hget
      refine ⟨a + 1 + (b + 1 + l), by omega, ?_⟩
      rw [State.frames_call]
      exact .cons (i := 0) rfl hbody (.cons hnext hcost' hrest)
  | @pop f fs hstack hle =>
      rw [State.top_cons hstack] at hi hcost
      have hdone : f.body.drop i = [] := List.drop_eq_nil_of_le (by omega)
      have hk := hcost.eq_zero_iff.mpr hdone
      rw [State.frames_pop hstack, List.tail_cons] at hrest
      exact ⟨l, by omega, hrest⟩

/-! ## Rows of calls of `step` -/

/-- The answers to a number of calls of `step`, whether each of them took a step, with the state
after them. -/
def answers (p : Program) : Nat → State → Except Fault (List Bool × State)
  | 0, s => .ok ([], s)
  | n + 1, s =>
    match step p s with
    | .ok next => (answers p n (next.getD s)).map fun r => (next.isSome :: r.1, r.2)
    | .error e => .error e

/-- Of any number of calls the first `n` take a step, and the rest find the program finished and
leave everything as it is. -/
def FinishesAfter (p : Program) (s : State) (n : Nat) : Prop :=
  ∃ final, ∀ m, ∃ t,
    answers p m s = .ok (List.replicate (min m n) true ++ List.replicate (m - n) false, t) ∧
    (t.runtime.isFinished p = true ↔ n ≤ m) ∧ (n ≤ m → t = final)

/-- One of the first `n` calls fails over a number that is too long to say. Those before it take a
step, and up to it the program is not finished. -/
def FailsWithin (p : Program) (s : State) (n : Nat) : Prop :=
  ∃ k < n, ∀ m ≤ k, ∃ t, answers p m s = .ok (List.replicate m true, t) ∧
    t.runtime.isFinished p = false ∧ (m = k → step p t = .error .tooManyDigits)

theorem answers_succ {next : Option State} (h : step p s = .ok next) (m : Nat) :
    answers p (m + 1) s =
      (answers p m (next.getD s)).map fun r => (next.isSome :: r.1, r.2) := by
  rw [answers, h]

theorem answers_of_isFinished (h : s.runtime.isFinished p = true) (m : Nat) :
    answers p m s = .ok (List.replicate m false, s) := by
  induction m with
  | zero => rfl
  | succ m ih =>
      rw [answers_succ (step_eq_ok_none_iff.mpr h), Option.getD_none, ih]
      rfl

theorem FinishesAfter.of_isFinished (h : s.runtime.isFinished p = true) : FinishesAfter p s 0 := by
  refine ⟨s, fun m => ⟨s, ?_, iff_of_true h (Nat.zero_le m), fun _ => rfl⟩⟩
  rw [answers_of_isFinished h, Nat.min_zero, List.replicate_zero, List.nil_append, Nat.sub_zero]

theorem FinishesAfter.succ (hs : s.runtime.isFinished p = false) (hstep : step p s = .ok (some t))
    (h : FinishesAfter p t n) : FinishesAfter p s (n + 1) := by
  obtain ⟨final, h⟩ := h
  refine ⟨final, fun m => ?_⟩
  cases m with
  | zero => exact ⟨s, by simp [answers], by simp [hs], fun hle => absurd hle (by omega)⟩
  | succ m =>
      obtain ⟨u, hu, hfinished, hfinal⟩ := h m
      refine ⟨u, ?_, hfinished.trans Nat.succ_le_succ_iff.symm, fun hle => hfinal (by omega)⟩
      rw [answers_succ hstep, Option.getD_some, hu, Nat.add_min_add_right, Nat.add_sub_add_right]
      rfl

theorem FailsWithin.of_error (hs : s.runtime.isFinished p = false)
    (h : step p s = .error .tooManyDigits) : FailsWithin p s (n + 1) := by
  refine ⟨0, Nat.succ_pos n, fun m hm => ?_⟩
  obtain rfl := Nat.le_zero.mp hm
  exact ⟨s, rfl, hs, fun _ => h⟩

theorem FailsWithin.succ (hs : s.runtime.isFinished p = false) (hstep : step p s = .ok (some t))
    (h : FailsWithin p t n) : FailsWithin p s (n + 1) := by
  obtain ⟨k, hk, h⟩ := h
  refine ⟨k + 1, Nat.succ_lt_succ hk, fun m hm => ?_⟩
  cases m with
  | zero => exact ⟨s, rfl, hs, fun h => absurd h (by omega)⟩
  | succ m =>
      obtain ⟨u, hu, hfinished, herror⟩ := h m (Nat.le_of_succ_le_succ hm)
      refine ⟨u, ?_, hfinished, fun hmk => herror (Nat.succ.inj hmk)⟩
      rw [answers_succ hstep, Option.getD_some, hu]
      rfl

theorem Left.eq_tooManyDigits (h : Left p (s.frames p) n) {e : Fault} (he : step p s = .error e) :
    e = .tooManyDigits := by
  rcases step_eq_error_iff.mp he with ⟨stmt, -, hfault⟩ | ⟨hlow, -⟩
  · exact eq_tooManyDigits_of_fault? hfault
  · rw [State.frames_eq_top_cons] at h
    obtain ⟨i, -, -, hi, -⟩ := h.cons_inv
    omega

/-- By induction on the steps that are left, each of which takes one away or fails. -/
theorem Left.finishes_or_fails (hp : p.IfFree) (hfree : IfFree (s.frames p))
    (h : Left p (s.frames p) (n + 1)) : FinishesAfter p s n ∨ FailsWithin p s n := by
  induction n generalizing s with
  | zero => exact .inl (.of_isFinished (h.isFinished_iff.mpr rfl))
  | succ n ih =>
      have hs : s.runtime.isFinished p = false :=
        Bool.eq_false_iff.mpr fun hfinished => absurd (h.isFinished_iff.mp hfinished) (by omega)
      cases hstep : step p s with
      | error e =>
          rw [h.eq_tooManyDigits hstep] at hstep
          exact .inr (.of_error hs hstep)
      | ok next =>
          cases next with
          | none =>
              rw [step_eq_ok_none_iff.mp hstep] at hs
              cases hs
          | some t =>
              have ht := step_eq_ok_some_iff.mp hstep
              obtain ⟨k, hk, hleft⟩ := h.transition hfree ht
              obtain rfl := Nat.succ.inj hk
              exact (ih (hfree.shift hp ht.shift) hleft).imp (.succ hs hstep) (.succ hs hstep)

/-! ## Programs that were read -/

theorem Safe.next {next : Option State} (h : Safe p s) (hstep : step p s = .ok next) :
    Safe p (next.getD s) := by
  cases next with
  | none => exact h
  | some t => exact h.transition (step_eq_ok_some_iff.mp hstep)

theorem Safe.answers {r : List Bool} (h : Safe p s) (ha : answers p m s = .ok (r, t)) :
    Safe p t := by
  induction m generalizing s r with
  | zero =>
      cases ha
      exact h
  | succ m ih =>
      cases hstep : step p s with
      | error e =>
          rw [Machine.answers, hstep] at ha
          cases ha
      | ok next =>
          rw [answers_succ hstep] at ha
          cases hrest : Machine.answers p m (next.getD s) with
          | error e =>
              rw [hrest] at ha
              cases ha
          | ok rest =>
              rw [hrest] at ha
              cases ha
              exact ih (h.next hstep) hrest

theorem Safe.not_failsWithin (h : Safe p s) : ¬ FailsWithin p s n := by
  rintro ⟨k, -, hfails⟩
  obtain ⟨t, ht, -, herror⟩ := hfails k (Nat.le_refl k)
  rcases (h.answers ht).step_ok with hstep | ⟨u, hstep, -⟩
  · rw [herror rfl] at hstep
    cases hstep
  · rw [herror rfl] at hstep
    cases hstep

theorem safe_fresh (hp : p.WellFormed) {w : World} (hw : w.OnBoard) : Safe p { world := w } := by
  refine ⟨hp, fun f hf => ?_, fun e he => ?_, hw⟩
  · rw [List.mem_singleton.mp hf]
    exact ⟨Int.le_refl 0, hp.main⟩
  · cases he

/-- The main sequence of a program without conditionals and without recursion has one cost. From a
fresh runtime the machine takes that many steps and is finished then, and not before, unless one of
these steps has too long a number to say. A program that was read takes them all when both tanks are
on the board. -/
theorem ifFree_runs_for_cost (hfree : p.IfFree) (hacyclic : p.Acyclic) (w : World) :
    ∃ n, p.Costs p.main n ∧ (∀ m, p.Costs p.main m → m = n) ∧
      (FinishesAfter p { world := w } n ∨ FailsWithin p { world := w } n) ∧
      ∀ room source, Program.parse room source = .ok p → w.OnBoard →
        FinishesAfter p { world := w } n := by
  obtain ⟨n, hn⟩ := hacyclic.exists_costs p.main
  have hleft : Left p (State.frames { world := w } p) (n + 1) :=
    .cons (i := 0) rfl hn .nil
  have hframes : IfFree (State.frames { world := w } p) := by
    intro f hf
    rw [List.mem_singleton.mp hf]
    exact hfree.1
  have hruns := hleft.finishes_or_fails hfree hframes
  refine ⟨n, hn, fun m hm => hm.unique hn, hruns, fun room source hp hw => ?_⟩
  have hsafe : Safe p { world := w } := safe_fresh (Program.parse_wellFormed hp) hw
  exact hruns.resolve_right hsafe.not_failsWithin

/-- A call in a function that is called costs its body and two steps, and a call of nothing one. -/
theorem ifFree_runs_for_cost_nested :
    let source :=
      "FUNCTION F:\nATTACK;\nCALL G;\nEND\nFUNCTION G:\nTURN LEFT;\nEND\nCALL F;\nCALL X;"
    ∃ p, Program.parse 2 source = .ok p ∧ p.IfFree ∧ p.Acyclic ∧ p.Costs p.main 7 ∧
      FinishesAfter p { world := .initial } 7 := by
  intro source
  let p : Program :=
    { main := [.call "F", .call "X"]
      functions := .ofList [("F", [.attack, .call "G"]), ("G", [.turn .left])] }
  have hp : Program.parse 2 source = .ok p := parse_eq_ok_of_toOption (by decide +kernel)
  have hfree : p.IfFree := by decide
  have hacyclic : p.Acyclic :=
    Program.acyclic_of_rank (fun f => if f = "F" then 1 else 0) (by decide)
  obtain ⟨n, hn, -, -, hfinishes⟩ := ifFree_runs_for_cost hfree hacyclic .initial
  have hinner : p.Costs [.turn .left] 1 := .other (by simp) .nil
  have houter : p.Costs [.attack, .call "G"] 4 := .other (by simp) (.call rfl hinner .nil)
  have hmain : p.Costs p.main 7 := by
    refine .call rfl houter (.other (fun name hname => ?_) .nil)
    cases hname
    rfl
  obtain rfl := hn.unique hmain
  exact ⟨p, hp, hfree, hacyclic, hmain, hfinishes 2 source hp World.onBoard_initial⟩

/-- Off the board the tanks can be so far apart that the one scan of a program fails. -/
theorem ifFree_fails_off_board : ∃ p w, Program.parse 1 "SCAN_FOR_ENEMY;" = .ok p ∧ p.IfFree ∧
    p.Acyclic ∧ p.Costs p.main 1 ∧ ¬ FinishesAfter p { world := w } 1 := by
  refine ⟨{ main := [.scan] },
    { actor := { x := 5, y := -(5 * 10 ^ 4299) }, opponent := { x := 5, y := 5 * 10 ^ 4299 } },
    parse_eq_ok_of_toOption (by decide +kernel), by decide,
    Program.acyclic_of_rank (fun _ => 0) (by decide), .other (by simp) .nil, ?_⟩
  rintro ⟨final, h⟩
  obtain ⟨t, ht, -⟩ := h 1
  rw [answers, step_of_tooFar rfl (tooFar_of_digits rfl 5 _)] at ht
  cases ht

end TankArena.Machine
