import Mathlib.Data.Finset.Card
import Mathlib.Data.List.Chain
import Mathlib.Logic.Relation
import TankArena.Proofs.Script.Declarations
import TankArena.Proofs.Table

/-!
# Which function calls which

The calls of a program form a graph on its functions. A program without recursion is one whose graph
has no cycle. Its functions then have ranks that every call lowers, so that facts on functions can
be proved from the called ones up, and no chain of calls comes to a function twice.
-/

namespace TankArena.Script

/-! ## Calls -/

/-- The names that a statement calls, itself or in a branch. -/
def Stmt.callees : Stmt → List String
  | .call name => [name]
  | .ifThen _ yes => yes.callees
  | .ifElse _ yes no => yes.callees ++ no.callees
  | _ => []

/-- The functions of a program that the body of one of them calls. -/
def Program.callees (p : Program) (name : String) : List String :=
  (((p.functions.get? name).getD []).flatMap Stmt.callees).filter (· ∈ p.functions.keys)

/-- One function calls another; a call of an unknown name is none. -/
def Program.Calls (p : Program) (f g : String) : Prop := g ∈ p.callees f

instance (p : Program) (f : String) : DecidablePred (p.Calls f) :=
  fun g => inferInstanceAs (Decidable (g ∈ p.callees f))

/-- No function calls itself, be it through others. -/
def Program.Acyclic (p : Program) : Prop := ∀ f, ¬ Relation.TransGen p.Calls f f

variable {p : Program} {s b : Stmt} {f g : String} {body : List Stmt}

theorem Stmt.callees_subset_of_mem_branches (hb : b ∈ s.branches) : b.callees ⊆ s.callees := by
  cases s with
  | ifThen =>
      rw [List.mem_singleton.mp hb]
      exact List.Subset.refl _
  | ifElse =>
      rcases List.mem_cons.mp hb with rfl | hb
      · exact List.subset_append_left _ _
      · rw [List.mem_singleton.mp hb]
        exact List.subset_append_right _ _
  | _ => cases hb

theorem Program.calls_iff : p.Calls f g ↔ ∃ body, p.functions.get? f = some body ∧
    (∃ s ∈ body, g ∈ s.callees) ∧ g ∈ p.functions.keys := by
  rw [Calls, callees, List.mem_filter, List.mem_flatMap, decide_eq_true_iff]
  cases p.functions.get? f with
  | none => simp
  | some body => simp

theorem Program.Calls.mem_keys (h : p.Calls f g) : f ∈ p.functions.keys ∧ g ∈ p.functions.keys := by
  obtain ⟨body, hget, -, hg⟩ := Program.calls_iff.mp h
  exact ⟨Table.mem_keys_of_get? hget, hg⟩

/-! ## Ranks -/

noncomputable def Program.reached (p : Program) (f : String) : Finset String :=
  open Classical in p.functions.keys.toFinset.filter (Relation.TransGen p.Calls f)

theorem Program.mem_reached : g ∈ p.reached f ↔ Relation.TransGen p.Calls f g := by
  classical
  rw [reached, Finset.mem_filter, List.mem_toFinset, and_iff_right_iff_imp]
  intro h
  cases h with
  | single h => exact h.mem_keys.2
  | tail _ h => exact h.mem_keys.2

/-- A called function leads to fewer functions: not to itself, to which its caller leads. -/
theorem Program.Acyclic.card_reached_lt (h : p.Acyclic) (hcall : p.Calls f g) :
    (p.reached g).card < (p.reached f).card := by
  refine Finset.card_lt_card (Finset.ssubset_iff_of_subset ?_ |>.mpr ⟨g, ?_, ?_⟩)
  · intro d hd
    exact mem_reached.mpr (.head hcall (mem_reached.mp hd))
  · exact mem_reached.mpr (.single hcall)
  · exact fun hg => h g (mem_reached.mp hg)

/-- A program has no recursion exactly when its functions have ranks that every call lowers. -/
theorem Program.acyclic_iff_exists_rank :
    p.Acyclic ↔ ∃ rank : String → Nat, ∀ f g, p.Calls f g → rank g < rank f := by
  constructor
  · intro h
    exact ⟨fun f => (p.reached f).card, fun f g hcall => h.card_reached_lt hcall⟩
  · rintro ⟨rank, hrank⟩ f hcycle
    have hlower : ∀ g, Relation.TransGen p.Calls f g → rank g < rank f := by
      intro g hg
      induction hg with
      | single h => exact hrank _ _ h
      | tail _ h ih => exact Nat.lt_trans (hrank _ _ h) ih
    exact Nat.lt_irrefl _ (hlower f hcycle)

theorem Program.acyclic_of_rank (rank : String → Nat)
    (h : ∀ f ∈ p.functions.keys, ∀ g ∈ p.callees f, rank g < rank f) : p.Acyclic :=
  acyclic_iff_exists_rank.mpr ⟨rank, fun f g hcall => h f hcall.mem_keys.1 g hcall⟩

/-- Induction from the called functions to their callers. -/
theorem Program.Acyclic.induction {P : String → Prop} (h : p.Acyclic)
    (step : ∀ f, (∀ g, p.Calls f g → P g) → P f) (f : String) : P f := by
  obtain ⟨rank, hrank⟩ := acyclic_iff_exists_rank.mp h
  induction hn : rank f using Nat.strongRecOn generalizing f with
  | ind n ih =>
      subst hn
      exact step f fun g hcall => ih _ (hrank f g hcall) g rfl

/-- In a chain of calls, the last first, each function comes once. -/
theorem Program.Acyclic.nodup_of_isChain (h : p.Acyclic) {names : List String}
    (hchain : names.IsChain fun g f => p.Calls f g) : names.Nodup := by
  obtain ⟨rank, hrank⟩ := acyclic_iff_exists_rank.mp h
  have hranks : (names.map rank).IsChain (· < ·) :=
    (List.isChain_map rank).mpr (hchain.imp fun g f hcall => hrank f g hcall)
  have hsorted : names.Pairwise (rank · < rank ·) :=
    List.pairwise_map.mp (List.isChain_iff_pairwise.mp hranks)
  refine hsorted.imp fun hlt heq => ?_
  rw [heq] at hlt
  exact Nat.lt_irrefl _ hlt

end TankArena.Script
