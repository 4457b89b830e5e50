import Mathlib.Data.List.Sort
import SharpLint.Proofs.Tree.Ancestry
import SharpLint.Proofs.Tree.Relabelling

/-!
# What a walk does step by step

A walk takes one tree from its stack in every step, until there is none. `Walk.Runs` says which
trees it visits on the way to its end:

* `Walk.runs_toList`: every walk comes to its end, and what it visits is what it lists;
* `descendants_eq_properSubtrees`, `length_descendants`: the descendants are found by recursion over
  the children as well, and there are as many of them as nodes, apart from the root.

Equal trees may stand at several places, and the trees that are visited do not show which of them a
walk has come to. In `placed`, every node has its path as part of its label, and a walk over it
visits the same trees (`map_snd_reached_placed`). There the descendants have the paths that lead
below the root (`mem_map_place_descendants`), in their order (`pairwise_lt_place_descendants`), and
a walk reaches those parts around which it goes into every tree (`reached_placed`).
-/

namespace SharpLint.Tree

universe u v

variable {α : Type u} {β : Type v} {enters : Tree α → Bool} {tree : Tree α} {path front : List Nat}

mutual

/-- The trees strictly below a tree, by recursion: every child, and after it those below it. -/
def properSubtrees : Tree α → List (Tree α)
  | node _ children => withSubtrees children

def withSubtrees : List (Tree α) → List (Tree α)
  | [] => []
  | tree :: trees => tree :: properSubtrees tree ++ withSubtrees trees

end

/-- The walk visits the trees in their order, one in each step, and has then come to its end. -/
inductive Walk.Runs : Walk α → List (Tree α) → Prop where
  | ended {walk : Walk α} (exhausted : walk.next? = none) : Runs walk []
  | step {walk later : Walk α} {tree : Tree α} {trees : List (Tree α)}
      (visits : walk.next? = some (tree, later)) (rest : Runs later trees) :
      Runs walk (tree :: trees)

mutual

/-- The tree with the path to every node added to its label. The given one leads to the root. -/
def placedAt (front : List Nat) : Tree α → Tree (List Nat × α)
  | node label children => node (front, label) (placedFrom front 0 children)

def placedFrom (front : List Nat) (index : Nat) : List (Tree α) → List (Tree (List Nat × α))
  | [] => []
  | tree :: trees => placedAt (front ++ [index]) tree :: placedFrom front (index + 1) trees

end

def placed (tree : Tree α) : Tree (List Nat × α) := placedAt [] tree

def place (part : Tree (List Nat × α)) : List Nat := part.label.1

/-- Places in pre-order: each of them is listed once, before the places below it and before those of
the later siblings. -/
structure Preordered (places : List (List Nat)) : Prop where
  nodup : places.Nodup
  before_below : ∀ front back, back ≠ [] → front ∈ places → front ++ back ∈ places →
    [front, front ++ back].Sublist places
  before_siblings : ∀ front index later, index < later → front ++ [index] ∈ places →
    front ++ [later] ∈ places → [front ++ [index], front ++ [later]].Sublist places

/-! ## Steps -/

theorem Walk.Runs.flatMap_reached {trees pending visited : List (Tree α)}
    (each : ∀ tree ∈ trees, ∀ {pending visited : List (Tree α)}, Runs { enters, pending } visited →
      Runs { enters, pending := tree :: pending } (reached enters tree ++ visited))
    (rest : Runs { enters, pending } visited) :
    Runs { enters, pending := trees ++ pending } (trees.flatMap (reached enters) ++ visited) := by
  induction trees with
  | nil => exact rest
  | cons tree trees ih =>
      rw [List.forall_mem_cons] at each
      rw [List.flatMap_cons, List.append_assoc]
      exact each.1 (ih each.2)

theorem Walk.Runs.reached {pending visited : List (Tree α)} (tree : Tree α)
    (rest : Runs { enters, pending } visited) :
    Runs { enters, pending := tree :: pending } (reached enters tree ++ visited) := by
  -- A tree makes room for its children, which are gone before what was pending below it.
  induction tree generalizing pending visited with
  | node label children ih =>
      rw [reached_eq, List.cons_append]
      refine .step rfl ?_
      split
      · exact rest.flatMap_reached fun child isChild => ih child isChild
      · exact rest

theorem Walk.runs_toList (walk : Walk α) : walk.Runs walk.toList := by
  have runs : Runs { enters := walk.enters, pending := walk.pending ++ [] }
      (walk.pending.flatMap (reached walk.enters) ++ []) :=
    Runs.flatMap_reached (fun tree _ _ _ => .reached tree) (.ended rfl)
  rwa [List.append_nil, List.append_nil, ← toList_eq] at runs

/-! ## Recursion over the children -/

theorem descendants_eq_flatMap (tree : Tree α) :
    tree.descendants = tree.children.flatMap fun child => child :: child.descendants := by
  rw [descendants_eq, ← funext preorder_eq]
  rfl

theorem withSubtrees_eq_flatMap (trees : List (Tree α)) :
    withSubtrees trees = trees.flatMap fun tree => tree :: tree.properSubtrees := by
  induction trees with
  | nil => rfl
  | cons tree trees ih => rw [withSubtrees, ih, List.flatMap_cons]

theorem descendants_eq_properSubtrees (tree : Tree α) : tree.descendants = tree.properSubtrees := by
  induction tree with
  | node label children ih =>
      rw [descendants_eq_flatMap, properSubtrees, withSubtrees_eq_flatMap]
      apply List.flatMap_congr
      intro child isChild
      rw [ih child isChild]

theorem length_flatMap_descendants {trees : List (Tree α)}
    (each : ∀ tree ∈ trees, tree.descendants.length + 1 = tree.size) :
    (trees.flatMap fun tree => tree :: tree.descendants).length = sizeAll trees := by
  induction trees with
  | nil => rfl
  | cons tree trees ih =>
      rw [List.forall_mem_cons] at each
      rw [List.flatMap_cons, List.length_append, List.length_cons, each.1, ih each.2, sizeAll]

theorem length_descendants (tree : Tree α) : tree.descendants.length + 1 = tree.size := by
  induction tree with
  | node label children ih =>
      rw [descendants_eq_flatMap, Tree.children, length_flatMap_descendants ih, size]

theorem size_le_sizeAll {trees : List (Tree α)} (member : tree ∈ trees) :
    tree.size ≤ sizeAll trees := by
  induction member with
  | head trees => exact Nat.le_add_right _ _
  | tail first _ ih => exact ih.trans (Nat.le_add_left _ _)

theorem size_lt_of_mem_children {child : Tree α} (isChild : child ∈ tree.children) :
    child.size < tree.size := by
  rw [size_eq tree]
  exact Nat.lt_succ_of_le (size_le_sizeAll isChild)

theorem Below.size_lt {inner outer : Tree α} (below : inner.Below outer) :
    inner.size < outer.size := by
  induction below with
  | child isChild => exact size_lt_of_mem_children isChild
  | deeper _ isChild ih => exact ih.trans (size_lt_of_mem_children isChild)

theorem self_notMem_descendants (tree : Tree α) : tree ∉ tree.descendants := by
  intro member
  exact Nat.lt_irrefl _ (mem_descendants.mp member).size_lt

/-! ## Relabelled trees -/

theorem at?_map (f : α → β) (path : List Nat) (tree : Tree α) :
    at? path (tree.map f) = (at? path tree).map (map f) := by
  induction path generalizing tree with
  | nil => rfl
  | cons index path ih =>
      rw [at?, at?, children_map, List.getElem?_map]
      cases tree.children[index]? with
      | none => rfl
      | some child => exact ih child

theorem ancestors_map (f : α → β) (path : List Nat) (tree : Tree α) :
    ancestors path (tree.map f) = (ancestors path tree).map (map f) := by
  induction path generalizing tree with
  | nil => rfl
  | cons index path ih =>
      rw [ancestors, ancestors, children_map, List.getElem?_map, List.map_append]
      cases tree.children[index]? with
      | none => rfl
      | some child =>
          simp only [Option.map_some, Option.getD_some, ih]
          rfl

/-! ## Trees with paths -/

theorem getElem?_placedFrom (front : List Nat) (start index : Nat) (trees : List (Tree α)) :
    (placedFrom front start trees)[index]? =
      trees[index]?.map (placedAt (front ++ [start + index])) := by
  induction trees generalizing start index with
  | nil => rfl
  | cons tree trees ih =>
      cases index with
      | zero => rfl
      | succ index =>
          rw [placedFrom, List.getElem?_cons_succ, List.getElem?_cons_succ, ih, Nat.add_assoc,
            Nat.add_comm 1]

theorem map_snd_placedFrom {trees : List (Tree α)}
    (each : ∀ tree ∈ trees, ∀ front, (placedAt front tree).map Prod.snd = tree) (front : List Nat)
    (start : Nat) : (placedFrom front start trees).map (map Prod.snd) = trees := by
  induction trees generalizing start with
  | nil => rfl
  | cons tree trees ih =>
      rw [List.forall_mem_cons] at each
      rw [placedFrom, List.map_cons, each.1, ih each.2]

theorem map_snd_placedAt (front : List Nat) (tree : Tree α) :
    (placedAt front tree).map Prod.snd = tree := by
  induction tree generalizing front with
  | node label children ih =>
      rw [placedAt, map_node, map_snd_placedFrom fun child isChild front => ih child isChild front]

theorem map_snd_placed (tree : Tree α) : tree.placed.map Prod.snd = tree := map_snd_placedAt [] tree

theorem at?_placedAt (front path : List Nat) (tree : Tree α) :
    at? path (placedAt front tree) = (at? path tree).map (placedAt (front ++ path)) := by
  induction path generalizing front tree with
  | nil => rw [at?, at?, List.append_nil, Option.map_some]
  | cons index path ih =>
      cases tree with
      | node label children =>
          rw [at?, at?, placedAt, Tree.children, Tree.children, getElem?_placedFrom, Nat.zero_add]
          cases children[index]? with
          | none => rfl
          | some child =>
              rw [Option.map_some, Option.bind_some, Option.bind_some, ih, List.append_assoc]
              rfl

theorem place_placedAt (front : List Nat) (tree : Tree α) :
    (placedAt front tree).place = front := by
  cases tree with
  | node label children => rfl

theorem place_of_at? {part : Tree (List Nat × α)} (found : at? path tree.placed = some part) :
    part.place = path := by
  rw [placed, at?_placedAt] at found
  obtain ⟨_, -, rfl⟩ := Option.map_eq_some_iff.mp found
  exact place_placedAt path _

theorem isSome_at?_placed (path : List Nat) (tree : Tree α) :
    (at? path tree.placed).isSome = (at? path tree).isSome := by
  rw [placed, at?_placedAt, Option.isSome_map]

/-! ## Walks over trees with paths -/

theorem map_snd_reached_placed (enters : Tree α → Bool) (tree : Tree α) :
    (reached (fun part => enters (part.map Prod.snd)) tree.placed).map (map Prod.snd) =
      reached enters tree := by
  rw [← reached_map, map_snd_placed]

theorem reached_placed (enters : Tree α → Bool) (tree : Tree α) :
    reached (fun part => enters (part.map Prod.snd)) tree.placed =
      tree.placed.preorder.filter fun part => (ancestors part.place tree).all enters := by
  have around (path : List Nat) :
      (ancestors path tree.placed).all (fun part => enters (part.map Prod.snd)) =
        (ancestors path tree).all enters := by
    conv_rhs => rw [← map_snd_placed tree, ancestors_map, List.all_map]
    rfl
  -- Every part knows its path, so a condition on the path is one on the part.
  have listed : ∀ entry ∈ tree.placed.placedDescendants,
      (ancestors entry.1 tree.placed).all (fun part => enters (part.map Prod.snd)) =
        (ancestors entry.2.place tree).all enters := by
    rintro ⟨path, part⟩ member
    rw [around, place_of_at? (mem_placedDescendants.mp member).2]
  have root : (ancestors tree.placed.place tree).all enters = true := by
    rw [placed, place_placedAt]
    rfl
  rw [← cons_map_snd_placedReached, placedReached, List.filter_congr listed, preorder,
    List.filter_cons, if_pos root, ← map_snd_placedDescendants, List.filter_map]
  rfl

theorem mem_descendants_placed {part : Tree (List Nat × α)} :
    part ∈ tree.placed.descendants ↔ part.place ≠ [] ∧ at? part.place tree.placed = some part := by
  rw [← map_snd_placedDescendants, List.mem_map]
  constructor
  · rintro ⟨⟨path, _⟩, member, rfl⟩
    obtain ⟨proper, found⟩ := mem_placedDescendants.mp member
    rw [place_of_at? found]
    exact ⟨proper, found⟩
  · rintro ⟨proper, found⟩
    exact ⟨(part.place, part), mem_placedDescendants.mpr ⟨proper, found⟩, rfl⟩

theorem at?_place {part : Tree (List Nat × α)} (member : part ∈ tree.placed.preorder) :
    at? part.place tree = some (part.map Prod.snd) := by
  have found : at? part.place tree.placed = some part := by
    rcases List.mem_cons.mp member with rfl | below
    · rw [placed, place_placedAt]
      rfl
    · exact (mem_descendants_placed.mp below).2
  rw [← map_snd_placed tree, at?_map, found, Option.map_some]

theorem mem_map_place_descendants :
    path ∈ tree.placed.descendants.map place ↔ path ≠ [] ∧ (at? path tree).isSome := by
  rw [List.mem_map, ← isSome_at?_placed, Option.isSome_iff_exists]
  constructor
  · rintro ⟨part, member, rfl⟩
    obtain ⟨proper, found⟩ := mem_descendants_placed.mp member
    exact ⟨proper, part, found⟩
  · rintro ⟨proper, part, found⟩
    obtain rfl := place_of_at? found
    exact ⟨part, mem_descendants_placed.mpr ⟨proper, found⟩, rfl⟩

theorem pairwise_lt_place_descendants (tree : Tree α) :
    (tree.placed.descendants.map place).Pairwise (· < ·) := by
  rw [← map_snd_placedDescendants, List.map_map, List.pairwise_map]
  refine (pairwise_lt_placedDescendants tree.placed).imp_of_mem ?_
  rintro ⟨path, part⟩ ⟨other, otherPart⟩ member otherMember before
  rw [Function.comp_apply, Function.comp_apply, place_of_at? (mem_placedDescendants.mp member).2,
    place_of_at? (mem_placedDescendants.mp otherMember).2]
  exact before

example : (node 'a' [node 'b' [node 'c' []], node 'b' [node 'c' []]]).placed.descendants.map place =
    [[0], [0, 0], [1], [1, 0]] := by decide

theorem preordered_of_pairwise_lt {places : List (List Nat)} (ordered : places.Pairwise (· < ·)) :
    Preordered places := by
  have before {first second : List Nat} (less : first < second) (listed : first ∈ places)
      (alsoListed : second ∈ places) : [first, second].Sublist places := by
    have pair : [first, second].Pairwise (· < ·) := List.pairwise_pair.mpr less
    refine List.sublist_of_subperm_of_pairwise (List.subperm_of_subset pair.nodup ?_) pair ordered
    simp [listed, alsoListed]
  refine ⟨ordered.nodup, ?_, ?_⟩
  · intro front back proper
    refine before ?_
    cases back with
    | nil => exact absurd rfl proper
    | cons index back =>
        have less : front ++ [] < front ++ index :: back :=
          List.append_left_lt (List.nil_lt_cons index back)
        rwa [List.append_nil] at less
  · intro front index later less
    exact before (List.append_left_lt (List.cons_lt_cons_iff.mpr (.inl less)))

end SharpLint.Tree
