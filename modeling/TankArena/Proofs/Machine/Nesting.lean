import TankArena.Proofs.Machine.Linkage
import TankArena.Proofs.Script.CallGraph

/-!
# How deep calls nest

Without recursion a function is never called while it is being run, since the functions on the stack
are a chain of calls. Branches stand between them one at a time, because a branch that was read is
no conditional itself. So the number of functions alone bounds the depth of the stack.
-/

namespace TankArena.Machine

open Arena Script

/-! ## Stacks and the bodies below them -/

/-- The body that the top of a stack runs, which is the main sequence where there is no frame. -/
def bodyUnder (p : Program) : List Frame → List Stmt
  | [] => p.main
  | f :: _ => f.body

/-- Each frame is a branch or a function that the body below it starts. -/
inductive Nested (p : Program) : List Frame → Prop
  | nil : Nested p []
  | branch {f fs stmt b} : f.label = branchLabel → f.body = [b] → stmt ∈ bodyUnder p fs →
      b ∈ stmt.branches → Nested p fs → Nested p (f :: fs)
  | call {f fs} : p.functions.get? f.label = some f.body → .call f.label ∈ bodyUnder p fs →
      Nested p fs → Nested p (f :: fs)

/-- The functions that are being run, the last called first. -/
def functionsOf (stack : List Frame) : List String :=
  (stack.map Frame.label).filter (· ≠ branchLabel)

variable {p : Program} {s : State} {f m : Frame} {stack : List Frame} {stmt b : Stmt}

theorem functionsOf_branch (h : f.label = branchLabel) :
    functionsOf (f :: stack) = functionsOf stack :=
  List.filter_cons_of_neg (by simp [h])

theorem functionsOf_call (h : f.label ≠ branchLabel) :
    functionsOf (f :: stack) = f.label :: functionsOf stack :=
  List.filter_cons_of_pos (by simp [h])

theorem ne_branchLabel_of_get? (hp : p.WellFormed) {name : String} {body : List Stmt}
    (h : p.functions.get? name = some body) : name ≠ branchLabel := by
  rintro rfl
  rw [get?_branchLabel hp] at h
  cases h

theorem mem_branches_of_branches? {test : Expr} {yes : Stmt} {no : Option Stmt}
    (hb : stmt.branches? = some (test, yes, no)) (hc : b = yes ∨ no = some b) :
    b ∈ stmt.branches := by
  cases stmt with
  | ifThen =>
      cases hb
      rcases hc with rfl | hc
      · exact List.mem_singleton_self _
      · cases hc
  | ifElse =>
      cases hb
      rcases hc with rfl | hc
      · exact List.mem_cons_self
      · cases hc
        exact List.mem_cons_of_mem _ (List.mem_singleton_self _)
  | _ => cases hb

theorem Nested.of_linked (hm : m.body = p.main) (h : Linked p (stack ++ [m])) : Nested p stack := by
  induction stack with
  | nil => exact .nil
  | cons f fs ih =>
      have hrest := ih h.tail
      -- What lies below the frame is another frame or the main sequence.
      obtain ⟨g, gs, hbelow, hbody⟩ : ∃ g gs, fs ++ [m] = g :: gs ∧ g.body = bodyUnder p fs := by
        cases fs with
        | nil => exact ⟨m, [], rfl, hm⟩
        | cons g gs => exact ⟨g, gs ++ [m], rfl, rfl⟩
      have hchain := h.chain
      rw [List.cons_append, hbelow] at hchain
      rcases (List.isChain_cons_cons.mp hchain).1 with
        ⟨hlabel, i, stmt, test, yes, no, b, -, hstmt, hb, hc, hf⟩ | ⟨hget, i, -, hcall⟩
      · rw [hbody] at hstmt
        exact .branch hlabel hf (List.mem_of_getElem? hstmt) (mem_branches_of_branches? hb hc) hrest
      · rw [hbody] at hcall
        exact .call hget (List.mem_of_getElem? hcall) hrest

theorem Reachable.nested (h : Reachable p s) : Nested p s.runtime.stack :=
  Nested.of_linked rfl h.linked

/-! ## Functions -/

theorem Nested.label_cases (h : Nested p stack) :
    ∀ f ∈ stack, f.label = branchLabel ∨ p.functions.get? f.label = some f.body := by
  induction h with
  | nil => exact List.forall_mem_nil _
  | branch hlabel _ _ _ _ ih => exact List.forall_mem_cons.mpr ⟨.inl hlabel, ih⟩
  | call hget _ _ ih => exact List.forall_mem_cons.mpr ⟨.inr hget, ih⟩

theorem Nested.functionsOf_subset (h : Nested p stack) : functionsOf stack ⊆ p.functions.keys := by
  intro name hname
  obtain ⟨hlabel, hne⟩ := List.mem_filter.mp hname
  obtain ⟨f, hf, rfl⟩ := List.mem_map.mp hlabel
  rcases h.label_cases f hf with hbranch | hget
  · exact absurd hbranch (by simpa using hne)
  · exact Table.mem_keys_of_get? hget

/-- By induction on the stack: the functions are a chain of calls, and whatever function the top
body mentions would go on with the chain. -/
theorem Nested.isChain (hp : p.WellFormed) (h : Nested p stack) :
    (functionsOf stack).IsChain (fun g f => p.Calls f g) ∧
      ∀ stmt ∈ bodyUnder p stack, ∀ g ∈ stmt.callees, g ∈ p.functions.keys →
        (g :: functionsOf stack).IsChain fun g f => p.Calls f g := by
  induction h with
  | nil => exact ⟨.nil, fun stmt _ g _ _ => .singleton g⟩
  | @branch f fs stmt b hlabel hbody hstmt hb _ ih =>
      rw [functionsOf_branch hlabel]
      refine ⟨ih.1, fun d hd g hg hkey => ?_⟩
      rw [bodyUnder, hbody] at hd
      rw [List.mem_singleton.mp hd] at hg
      exact ih.2 stmt hstmt g (Stmt.callees_subset_of_mem_branches hb hg) hkey
  | @call f fs hget hcall _ ih =>
      have hlabel := ne_branchLabel_of_get? hp hget
      have hchain := ih.2 _ hcall f.label (List.mem_singleton_self _) (Table.mem_keys_of_get? hget)
      rw [functionsOf_call hlabel]
      refine ⟨hchain, fun stmt hstmt g hg hkey => ?_⟩
      have hcalls : p.Calls f.label g :=
        Program.calls_iff.mpr ⟨f.body, hget, ⟨stmt, hstmt, hg⟩, hkey⟩
      exact List.isChain_cons_cons.mpr ⟨hcalls, hchain⟩

/-! ## Branches -/

theorem Nested.isLine (hp : p.WellFormed) (h : Nested p stack) :
    ∀ stmt ∈ bodyUnder p stack, stmt.IsLine := by
  induction h with
  | nil => exact hp.main
  | branch _ hbody hstmt hb _ ih =>
      rw [bodyUnder, hbody]
      exact List.forall_mem_singleton.mpr ((ih _ hstmt).isSimple_of_mem_branches hb).isLine
  | call hget _ _ _ => exact hp.bodies _ (Table.mem_of_get? hget)

theorem Nested.branches_apart (hp : p.WellFormed) (h : Nested p stack) :
    (stack.map Frame.label).IsChain fun a b => ¬ (a = branchLabel ∧ b = branchLabel) := by
  induction h with
  | nil => exact .nil
  | @branch f fs stmt b hlabel hbody hstmt hb hrest ih =>
      cases hrest with
      | nil => exact .singleton _
      | @branch g gs upper c hlabel' hbody' hupper hc hrest' =>
          -- The statement below would be a branch of a line and have branches of its own.
          rw [bodyUnder, hbody'] at hstmt
          rw [List.mem_singleton.mp hstmt] at hb
          have hsimple := (hrest'.isLine hp _ hupper).isSimple_of_mem_branches hc
          rw [hsimple.branches_eq_nil] at hb
          cases hb
      | @call g gs hget _ _ =>
          have hlabel := ne_branchLabel_of_get? hp hget
          exact List.isChain_cons_cons.mpr ⟨fun h => hlabel h.2, ih⟩
  | @call f fs hget _ _ ih =>
      have hlabel := ne_branchLabel_of_get? hp hget
      exact ih.cons fun _ _ h => hlabel h.1

/-! ## Depth -/

/-- A list in which some value never comes twice in a row has at least every other place for the
other values. -/
theorem length_le_of_apart {α : Type} [DecidableEq α] {x : α} : ∀ {l : List α},
    (l.IsChain fun a b => ¬ (a = x ∧ b = x)) → l.length ≤ 2 * (l.filter (· ≠ x)).length + 1
  | [], _ => Nat.zero_le _
  | [_], _ => Nat.le_add_left _ _
  | a :: b :: l, h => by
      obtain ⟨hne, hrest⟩ := List.isChain_cons_cons.mp h
      by_cases ha : a = x
      · have hb : b ≠ x := fun hb => hne ⟨ha, hb⟩
        have hle := length_le_of_apart hrest.tail
        rw [List.filter_cons_of_neg (by simp [ha]), List.filter_cons_of_pos (by simp [hb])]
        simp only [List.length_cons, List.tail_cons] at hle ⊢
        omega
      · have hle := length_le_of_apart hrest
        rw [List.filter_cons_of_pos (by simp [ha])]
        simp only [List.length_cons] at hle ⊢
        omega

/-- A program without recursion never runs a function in two frames at once. Every other frame is a
branch, and no two of these stand on each other, so that the stack of a program with `n` functions
has no more than `2 * n + 1` frames. -/
theorem acyclic_stack_bounded {room : Nat} {source : String} (hp : Program.parse room source = .ok p)
    (hacyclic : p.Acyclic) (h : Reachable p s) :
    (functionsOf s.runtime.stack).Nodup ∧
    (∀ f ∈ s.runtime.stack, f.label = branchLabel ∨ p.functions.get? f.label = some f.body) ∧
    ((s.runtime.stack.map Frame.label).IsChain fun a b => ¬ (a = branchLabel ∧ b = branchLabel)) ∧
    s.runtime.stack.length ≤ 2 * p.functions.size + 1 := by
  have hwf := Program.parse_wellFormed hp
  have hnested := h.nested
  have hnodup : (functionsOf s.runtime.stack).Nodup :=
    hacyclic.nodup_of_isChain (hnested.isChain hwf).1
  have hapart := hnested.branches_apart hwf
  refine ⟨hnodup, hnested.label_cases, hapart, ?_⟩
  have hfunctions : (functionsOf s.runtime.stack).length ≤ p.functions.size :=
    Table.length_le_size hnodup hnested.functionsOf_subset
  have hdepth := length_le_of_apart hapart
  rw [List.length_map] at hdepth
  calc s.runtime.stack.length
      ≤ 2 * (functionsOf s.runtime.stack).length + 1 := hdepth
    _ ≤ 2 * p.functions.size + 1 := by omega

/-- The bound is met: a branch in a function that a branch has called. -/
theorem acyclic_stack_bounded_attained : ∃ p s,
    Program.parse 2 "FUNCTION F:\nIF 1 THEN ATTACK;\nEND\nIF 1 THEN CALL F;" = .ok p ∧ p.Acyclic ∧
    Reachable p s ∧ s.runtime.stack.map Frame.label = ["<if>", "F", "<if>"] ∧
    (functionsOf s.runtime.stack).Nodup ∧ s.runtime.stack.length = 2 * p.functions.size + 1 := by
  let p : Program :=
    { main := [.ifThen (.literal 1) (.call "F")]
      functions := .ofList [("F", [.ifThen (.literal 1) .attack])] }
  have hp : Program.parse 2 "FUNCTION F:\nIF 1 THEN ATTACK;\nEND\nIF 1 THEN CALL F;" = .ok p :=
    parse_eq_ok_of_toOption (by decide +kernel)
  have hacyclic : p.Acyclic := Program.acyclic_of_rank (fun _ => 0) (by decide)
  have hs : Reachable p _ := .step (.step (.step (.fresh .initial) rfl) rfl) rfl
  obtain ⟨hnodup, -, -, hdepth⟩ := acyclic_stack_bounded hp hacyclic hs
  exact ⟨p, _, hp, hacyclic, hs, by decide, hnodup, Nat.le_antisymm hdepth (by decide)⟩

end TankArena.Machine
