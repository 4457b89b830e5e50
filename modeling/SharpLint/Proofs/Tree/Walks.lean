import Mathlib.Data.List.Chain
import SharpLint.Tree

/-!
# What a walk visits

A walk keeps the trees that it has still to visit on a stack. What it visits can be read off the
trees themselves:

* `Walk.toList_eq`: a walk visits what is `reached` from its pending trees, one after another;
* `descendants_eq`, `mem_descendants`: the descendants are the trees that lie `Below` the root, in
  pre-order;
* `map_fst_lineages`, `isChain_of_mem_lineages`: the descendants again, each with the trees around
  it.
-/

namespace SharpLint.Tree

universe u

variable {α : Type u} {enters : Tree α → Bool}

@[elab_as_elim, induction_eliminator]
theorem induction {motive : Tree α → Prop}
    (node : ∀ label children, (∀ child ∈ children, motive child) → motive (.node label children))
    (tree : Tree α) : motive tree :=
  @Tree.rec α motive (fun trees => ∀ tree ∈ trees, motive tree) node (by simp)
    (fun _ _ first others => List.forall_mem_cons.mpr ⟨first, others⟩) tree

mutual

/-- The trees that a walk reaches from a tree on: the tree, and what lies below it if the walk goes
into it. -/
def reached (enters : Tree α → Bool) : Tree α → List (Tree α)
  | node label children =>
    node label children :: if enters (node label children) then reachedAll enters children else []

def reachedAll (enters : Tree α → Bool) : List (Tree α) → List (Tree α)
  | [] => []
  | tree :: trees => reached enters tree ++ reachedAll enters trees

end

/-- A tree lies below another one: as a child, or below a child. -/
inductive Below : Tree α → Tree α → Prop where
  | child {inner outer : Tree α} (member : inner ∈ outer.children) : Below inner outer
  | deeper {inner middle outer : Tree α} (below : Below inner middle)
      (member : middle ∈ outer.children) : Below inner outer

/-- A tree is another one or lies below it. -/
def Within (inner outer : Tree α) : Prop := inner = outer ∨ inner.Below outer

mutual

/-- The tree and all trees below it in pre-order, each with the trees around it, the innermost
first. The tree itself stands inside those given. -/
def lineagesWithin (around : List (Tree α)) : Tree α → List (Tree α × List (Tree α))
  | node label children =>
    (node label children, around) :: lineagesWithinAll (node label children :: around) children

def lineagesWithinAll (around : List (Tree α)) :
    List (Tree α) → List (Tree α × List (Tree α))
  | [] => []
  | tree :: trees => lineagesWithin around tree ++ lineagesWithinAll around trees

end

/-- The trees strictly below the root in pre-order, each with the trees around it other than the
root, the innermost first. -/
def lineages (root : Tree α) : List (Tree α × List (Tree α)) := lineagesWithinAll [] root.children

/-! ## The stack -/

theorem reachedAll_eq_flatMap (trees : List (Tree α)) :
    reachedAll enters trees = trees.flatMap (reached enters) := by
  induction trees with
  | nil => rfl
  | cons tree trees ih => rw [reachedAll, ih, List.flatMap_cons]

theorem reached_eq (tree : Tree α) :
    reached enters tree =
      tree :: if enters tree then tree.children.flatMap (reached enters) else [] := by
  cases tree with
  | node label children => rw [reached, reachedAll_eq_flatMap, Tree.children]

theorem size_eq (tree : Tree α) : tree.size = sizeAll tree.children + 1 := by
  cases tree with
  | node label children => rw [size, Tree.children]

theorem sizeAll_append (front back : List (Tree α)) :
    sizeAll (front ++ back) = sizeAll front + sizeAll back := by
  induction front with
  | nil => simp [sizeAll]
  | cons tree front ih => rw [List.cons_append, sizeAll, sizeAll, ih, Nat.add_assoc]

theorem Walk.take_eq {steps : Nat} {pending : List (Tree α)} (enough : sizeAll pending ≤ steps) :
    Walk.take steps { enters, pending } = pending.flatMap (reached enters) := by
  -- What is pending shrinks with every step: a tree makes room for at most its children.
  induction steps generalizing pending with
  | zero =>
      cases pending with
      | nil => rfl
      | cons tree pending =>
          rw [sizeAll, size_eq] at enough
          omega
  | succ steps ih =>
      cases pending with
      | nil => rfl
      | cons tree pending =>
          rw [sizeAll, size_eq] at enough
          simp only [take, next?]
          rw [List.flatMap_cons, reached_eq]
          by_cases entered : enters tree = true
          · rw [if_pos entered, if_pos entered, List.cons_append, ← List.flatMap_append]
            rw [ih (by rw [sizeAll_append]; omega)]
          · rw [if_neg entered, if_neg entered, List.singleton_append, ih (by omega)]

theorem Walk.toList_eq (walk : Walk α) :
    walk.toList = walk.pending.flatMap (reached walk.enters) :=
  Walk.take_eq (Nat.le_refl _)

/-! ## Descendants -/

theorem descendants_eq (tree : Tree α) :
    tree.descendants = tree.children.flatMap (reached fun _ => true) :=
  Walk.toList_eq _

theorem preorder_eq (tree : Tree α) : tree.preorder = reached (fun _ => true) tree := by
  rw [preorder, descendants_eq, reached_eq, if_pos rfl]

theorem filter_preorder (condition : Tree α → Bool) (tree : Tree α) :
    tree.preorder.filter condition =
      (if condition tree then [tree] else []) ++
        tree.children.flatMap fun child => child.preorder.filter condition := by
  rw [preorder, List.filter_cons, descendants_eq, List.filter_flatMap]
  simp only [preorder_eq]
  split <;> rfl

theorem mem_descendants {inner outer : Tree α} :
    inner ∈ outer.descendants ↔ inner.Below outer := by
  constructor
  · induction outer with
    | node label children ih =>
        intro member
        rw [descendants_eq] at member
        obtain ⟨child, isChild, reached⟩ := List.mem_flatMap.mp member
        rw [← preorder_eq, preorder, List.mem_cons] at reached
        rcases reached with rfl | lower
        · exact .child isChild
        · exact .deeper (ih child isChild lower) isChild
  · intro below
    induction below with
    | child isChild =>
        rw [descendants_eq]
        refine List.mem_flatMap.mpr ⟨_, isChild, ?_⟩
        rw [reached_eq]
        exact List.mem_cons_self
    | deeper _ isChild ih =>
        rw [descendants_eq]
        refine List.mem_flatMap.mpr ⟨_, isChild, ?_⟩
        rw [← preorder_eq, preorder]
        exact List.mem_cons_of_mem _ ih

theorem mem_preorder {inner outer : Tree α} : inner ∈ outer.preorder ↔ inner.Within outer := by
  rw [preorder, List.mem_cons, mem_descendants, Within]

theorem Within.below {inner middle outer : Tree α} (within : inner.Within middle)
    (member : middle ∈ outer.children) : inner.Below outer := by
  rcases within with rfl | below
  · exact .child member
  · exact .deeper below member

theorem Below.exists_child {inner outer : Tree α} (below : inner.Below outer) :
    ∃ child ∈ outer.children, inner.Within child := by
  cases below with
  | child member => exact ⟨inner, member, .inl rfl⟩
  | deeper below member => exact ⟨_, member, .inr below⟩

theorem Below.trans {inner middle outer : Tree α} (lower : inner.Below middle)
    (upper : middle.Below outer) : inner.Below outer := by
  induction upper with
  | child member => exact .deeper lower member
  | deeper _ member ih => exact .deeper ih member

theorem Below.trans_within {inner middle outer : Tree α} (lower : inner.Below middle)
    (upper : middle.Within outer) : inner.Below outer := by
  rcases upper with rfl | upper
  · exact lower
  · exact lower.trans upper

theorem Within.trans {inner middle outer : Tree α} (lower : inner.Within middle)
    (upper : middle.Within outer) : inner.Within outer := by
  rcases lower with rfl | below
  · exact upper
  · exact .inr (below.trans_within upper)

theorem within_of_mem_reached {inner tree : Tree α} (member : inner ∈ reached enters tree) :
    inner.Within tree := by
  induction tree with
  | node label children ih =>
      rw [reached_eq, List.mem_cons] at member
      rcases member with rfl | lower
      · exact .inl rfl
      · split at lower
        · obtain ⟨child, isChild, lower⟩ := List.mem_flatMap.mp lower
          exact .inr ((ih child isChild lower).below isChild)
        · cases lower

/-! ## Lineages -/

theorem lineagesWithinAll_eq_flatMap (around trees : List (Tree α)) :
    lineagesWithinAll around trees = trees.flatMap (lineagesWithin around) := by
  induction trees with
  | nil => rfl
  | cons tree trees ih => rw [lineagesWithinAll, ih, List.flatMap_cons]

theorem map_fst_lineagesWithin (around : List (Tree α)) (tree : Tree α) :
    (lineagesWithin around tree).map (·.1) = tree.preorder := by
  induction tree generalizing around with
  | node label children ih =>
      rw [lineagesWithin, lineagesWithinAll_eq_flatMap, List.map_cons, List.map_flatMap, preorder,
        descendants_eq, Tree.children]
      congr 1
      apply List.flatMap_congr
      intro child isChild
      rw [ih child isChild, preorder_eq]

theorem map_fst_lineages (root : Tree α) : root.lineages.map (·.1) = root.descendants := by
  rw [lineages, lineagesWithinAll_eq_flatMap, List.map_flatMap, descendants_eq]
  apply List.flatMap_congr
  intro child _
  rw [map_fst_lineagesWithin, preorder_eq]

theorem flatMap_filter_descendants {β : Type} (keep : Tree α → Bool) (produce : Tree α → List β)
    (root : Tree α) :
    (root.descendants.filter keep).flatMap produce =
      root.lineages.flatMap fun lineage => if keep lineage.1 then produce lineage.1 else [] := by
  rw [← map_fst_lineages]
  induction root.lineages with
  | nil => rfl
  | cons lineage lineages ih =>
      rw [List.map_cons, List.filter_cons, List.flatMap_cons, ← ih]
      split <;> rfl

theorem isChain_of_mem_lineagesWithin {around : List (Tree α)} {tree : Tree α}
    {lineage : Tree α × List (Tree α)} {root : Tree α}
    (chain : (tree :: (around ++ [root])).IsChain fun inner outer => inner ∈ outer.children)
    (member : lineage ∈ lineagesWithin around tree) :
    (lineage.1 :: (lineage.2 ++ [root])).IsChain fun inner outer => inner ∈ outer.children := by
  induction tree generalizing around with
  | node label children ih =>
      rw [lineagesWithin, lineagesWithinAll_eq_flatMap, List.mem_cons] at member
      rcases member with rfl | lower
      · exact chain
      · obtain ⟨child, isChild, lower⟩ := List.mem_flatMap.mp lower
        exact ih child isChild (List.isChain_cons_cons.mpr ⟨isChild, chain⟩) lower

theorem isChain_of_mem_lineages {root : Tree α} {lineage : Tree α × List (Tree α)}
    (member : lineage ∈ root.lineages) :
    (lineage.1 :: (lineage.2 ++ [root])).IsChain fun inner outer => inner ∈ outer.children := by
  rw [lineages, lineagesWithinAll_eq_flatMap] at member
  obtain ⟨child, isChild, member⟩ := List.mem_flatMap.mp member
  refine isChain_of_mem_lineagesWithin ?_ member
  exact List.isChain_cons_cons.mpr ⟨isChild, List.isChain_singleton _⟩

end SharpLint.Tree
