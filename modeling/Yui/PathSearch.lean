import Mathlib.Data.Finset.Card
import Mathlib.Order.FixedPoints
import Mathlib.Order.CompletePartialOrder

/-!
# Search along a path

A node holds when its own condition does and each of its needs is served by a node that holds. A search goes down
from a node and gives up where the path meets one of its own nodes. Although its answer at a node depends on the
path, from the empty path it answers for the least solution.
-/

namespace PathSearch

variable {α κ : Type*}

/-- `own` is the condition of a node by itself. -/
structure Graph (α κ : Type*) where
  nodes : List α
  own : α → Prop
  needs : α → List κ
  serves : κ → α → Prop

/-- The nodes of a path are distinct, so at most the nodes beside it are still to come. -/
def remaining [DecidableEq α] (nodes path : List α) (node : α) : ℕ :=
  ((node :: nodes).toFinset \ path.toFinset).card

theorem remaining_lt [DecidableEq α] {nodes path : List α} {node other : α} (hnode : node ∉ path)
    (hother : other ∈ nodes) : remaining nodes (path ++ [node]) other < remaining nodes path node := by
  apply Finset.card_lt_card
  rw [Finset.ssubset_iff_of_subset]
  · refine ⟨node, ?_, ?_⟩ <;> simp [hnode]
  · intro value hvalue
    simp only [List.toFinset_cons, List.toFinset_append, List.toFinset_nil, Finset.mem_sdiff, Finset.mem_insert,
      List.mem_toFinset, Finset.mem_union, not_or] at hvalue ⊢
    obtain ⟨rfl | hvalue, hpath, -⟩ := hvalue
    · exact ⟨.inr hother, hpath⟩
    · exact ⟨.inr hvalue, hpath⟩

namespace Graph

variable (graph : Graph α κ)

/-- The nodes that hold when the known ones do. -/
def derive : Set α →o Set α where
  toFun known := {node | graph.own node ∧
    ∀ need ∈ graph.needs node, ∃ other ∈ graph.nodes, graph.serves need other ∧ other ∈ known}
  monotone' := by
    intro known larger hle node hnode
    refine ⟨hnode.1, fun need hneed => ?_⟩
    obtain ⟨other, hother, hserves, hknown⟩ := hnode.2 need hneed
    exact ⟨other, hother, hserves, hle hknown⟩

def solution : Set α := OrderHom.lfp graph.derive

variable {node : α}

theorem mem_solution : node ∈ graph.solution ↔ graph.own node ∧
    ∀ need ∈ graph.needs node, ∃ other ∈ graph.nodes, graph.serves need other ∧ other ∈ graph.solution := by
  have hfixed : graph.derive graph.solution = graph.solution := graph.derive.map_lfp
  conv_lhs => rw [← hfixed]
  rfl

/-- The nodes that hold by a derivation of the given depth. -/
def stage : ℕ → Set α
  | 0 => ∅
  | depth + 1 => graph.derive (stage depth)

theorem stage_mono : Monotone graph.stage := by
  refine monotone_nat_of_le_succ fun depth => ?_
  induction depth with
  | zero => exact Set.empty_subset _
  | succ depth ih => exact graph.derive.monotone ih

theorem exists_stage_of_needs {needs : List κ}
    (h : ∀ need ∈ needs, ∃ depth, ∃ other ∈ graph.nodes, graph.serves need other ∧ other ∈ graph.stage depth) :
    ∃ depth, ∀ need ∈ needs, ∃ other ∈ graph.nodes, graph.serves need other ∧ other ∈ graph.stage depth := by
  induction needs with
  | nil => exact ⟨0, fun need hneed => absurd hneed List.not_mem_nil⟩
  | cons first needs ih =>
    obtain ⟨late, hrest⟩ := ih fun need hneed => h need (List.mem_cons_of_mem _ hneed)
    obtain ⟨early, other, hother, hserves, hstage⟩ := h first List.mem_cons_self
    refine ⟨max early late, fun need hneed => ?_⟩
    obtain rfl | hneed := List.mem_cons.1 hneed
    · exact ⟨other, hother, hserves, graph.stage_mono (le_max_left _ _) hstage⟩
    · obtain ⟨served, hserved, hwith, hin⟩ := hrest need hneed
      exact ⟨served, hserved, hwith, graph.stage_mono (le_max_right _ _) hin⟩

theorem exists_stage (h : node ∈ graph.solution) : ∃ depth, node ∈ graph.stage depth := by
  have hle : graph.solution ≤ {node | ∃ depth, node ∈ graph.stage depth} := by
    refine graph.derive.lfp_le ?_
    rintro other ⟨hown, hneeds⟩
    obtain ⟨depth, hall⟩ := graph.exists_stage_of_needs fun need hneed => by
      obtain ⟨served, hserved, hwith, depth, hin⟩ := hneeds need hneed
      exact ⟨depth, served, hserved, hwith, hin⟩
    exact ⟨depth + 1, hown, hall⟩
  exact hle h

/-- The answers of a search that cuts a path at a node that is already on it. -/
structure Answers (search : List α → α → Prop) : Prop where
  unfold : ∀ path node, search path node ↔ graph.own node ∧ node ∉ path ∧
    ∀ need ∈ graph.needs node, ∃ other ∈ graph.nodes, graph.serves need other ∧ search (path ++ [node]) other

variable {graph} {search : List α → α → Prop}

theorem Answers.sound (h : graph.Answers search) {path : List α}
    (hfound : search path node) : node ∈ graph.solution := by
  classical
  induction hsize : remaining graph.nodes path node using Nat.strong_induction_on generalizing path node with
  | h size ih =>
    obtain ⟨hown, hpath, hneeds⟩ := (h.unfold path node).1 hfound
    refine graph.mem_solution.2 ⟨hown, fun need hneed => ?_⟩
    obtain ⟨other, hother, hserves, hbelow⟩ := hneeds need hneed
    exact ⟨other, hother, hserves, ih _ (hsize ▸ remaining_lt hpath hother) hbelow rfl⟩

theorem Answers.complete_stage (h : graph.Answers search) (depth : ℕ) :
    ∀ {path : List α} {node : α}, node ∈ graph.stage depth → (∀ above ∈ path, above ∉ graph.stage depth) →
      search path node := by
  induction depth with
  | zero => exact fun hnode => absurd hnode (Set.notMem_empty _)
  | succ depth ih =>
    intro path node hnode hpath
    by_cases hearlier : node ∈ graph.stage depth
    · exact ih hearlier fun above habove hin => hpath above habove (graph.stage_mono (Nat.le_succ _) hin)
    · refine (h.unfold path node).2 ⟨hnode.1, fun hmem => hpath node hmem hnode, fun need hneed => ?_⟩
      obtain ⟨other, hother, hserves, hin⟩ := hnode.2 need hneed
      refine ⟨other, hother, hserves, ih hin fun above habove => ?_⟩
      obtain habove | habove := List.mem_append.1 habove
      · exact fun hbelow => hpath above habove (graph.stage_mono (Nat.le_succ _) hbelow)
      · rwa [List.mem_singleton.1 habove]

theorem Answers.iff_solution (h : graph.Answers search) (node : α) : search [] node ↔ node ∈ graph.solution := by
  refine ⟨h.sound, fun hnode => ?_⟩
  obtain ⟨depth, hstage⟩ := graph.exists_stage hnode
  exact h.complete_stage depth hstage fun above habove => absurd habove List.not_mem_nil

end Graph

end PathSearch
