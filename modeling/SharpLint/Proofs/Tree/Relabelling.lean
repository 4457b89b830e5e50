import SharpLint.Proofs.Tree.Walks

/-!
# Trees with other labels

Relabelling a tree keeps its shape, so a walk over the relabelled tree visits the same places
(`reached_map`, `descendants_map`). Two trees that become the same under a relabelling are the two
sides of one tree of pairs (`exists_twins`).
-/

namespace SharpLint.Tree

universe u v w

variable {α : Type u} {β : Type v} {γ : Type w}

mutual

def map (f : α → β) : Tree α → Tree β
  | node label children => node (f label) (mapAll f children)

def mapAll (f : α → β) : List (Tree α) → List (Tree β)
  | [] => []
  | tree :: trees => map f tree :: mapAll f trees

end

theorem mapAll_eq_map (f : α → β) (trees : List (Tree α)) : mapAll f trees = trees.map (map f) := by
  induction trees with
  | nil => rfl
  | cons tree trees ih => rw [mapAll, ih, List.map_cons]

theorem map_node (f : α → β) (label : α) (children : List (Tree α)) :
    map f (node label children) = node (f label) (children.map (map f)) := by
  rw [map, mapAll_eq_map]

@[simp] theorem label_map (f : α → β) (tree : Tree α) : (tree.map f).label = f tree.label := by
  cases tree with
  | node label children => rfl

@[simp] theorem children_map (f : α → β) (tree : Tree α) :
    (tree.map f).children = tree.children.map (map f) := by
  cases tree with
  | node label children => rw [map_node, Tree.children, Tree.children]

theorem map_map (g : β → γ) (f : α → β) (tree : Tree α) :
    (tree.map f).map g = tree.map fun label => g (f label) := by
  induction tree with
  | node label children ih =>
      rw [map_node, map_node, map_node, List.map_map]
      congr 1
      exact List.map_congr_left ih

/-! ## Walks -/

theorem reached_map (f : α → β) (enters : Tree β → Bool) (tree : Tree α) :
    reached enters (tree.map f) = (reached (fun tree => enters (tree.map f)) tree).map (map f) := by
  induction tree with
  | node label children ih =>
      rw [reached_eq, reached_eq, List.map_cons]
      congr 1
      split
      · rw [children_map, List.flatMap_map, List.map_flatMap]
        exact List.flatMap_congr ih
      · rfl

@[simp] theorem descendants_map (f : α → β) (tree : Tree α) :
    (tree.map f).descendants = tree.descendants.map (map f) := by
  rw [descendants_eq, descendants_eq, children_map, List.flatMap_map, List.map_flatMap]
  apply List.flatMap_congr
  intro child _
  exact reached_map f (fun _ => true) child

/-! ## Trees that differ in their labels only -/

/-- Two labels that a relabelling does not tell apart. -/
structure Twins (f : α → β) where
  first : α
  second : α
  alike : f first = f second

theorem exists_twins_all {f : α → β} {trees others : List (Tree α)}
    (each : ∀ tree ∈ trees, ∀ other, tree.map f = other.map f →
      ∃ twins : Tree (Twins f), twins.map (·.first) = tree ∧ twins.map (·.second) = other)
    (same : trees.map (map f) = others.map (map f)) :
    ∃ pairs : List (Tree (Twins f)),
      pairs.map (map (·.first)) = trees ∧ pairs.map (map (·.second)) = others := by
  induction trees generalizing others with
  | nil => exact ⟨[], rfl, (List.map_eq_nil_iff.mp same.symm).symm⟩
  | cons tree trees ih =>
      rw [List.forall_mem_cons] at each
      obtain ⟨other, others, rfl, sameFirst, sameOthers⟩ := List.map_eq_cons_iff.mp same.symm
      obtain ⟨twins, rfl, rfl⟩ := each.1 other sameFirst.symm
      obtain ⟨pairs, rfl, rfl⟩ := ih each.2 sameOthers.symm
      exact ⟨twins :: pairs, rfl, rfl⟩

theorem exists_twins {f : α → β} {tree other : Tree α} (same : tree.map f = other.map f) :
    ∃ twins : Tree (Twins f), twins.map (·.first) = tree ∧ twins.map (·.second) = other := by
  induction tree generalizing other with
  | node label children ih =>
      obtain ⟨otherLabel, otherChildren⟩ := other
      rw [map_node, map_node, node.injEq] at same
      obtain ⟨pairs, rfl, rfl⟩ := exists_twins_all (fun child member _ => ih child member) same.2
      exact ⟨node ⟨label, otherLabel, same.1⟩ pairs, map_node _ _ _, map_node _ _ _⟩

end SharpLint.Tree
