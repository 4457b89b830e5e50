import SharpLint.Proofs.Tree.Walks

/-!
# Paths into a tree

A path leads from the root to a tree below it and says at every node which child to go to. The paths
of a tree lead to its descendants, in pre-order (`filterMap_at?_paths`), and every way that leads
below the root is one of them (`mem_paths`). Changing the label at the end of a path changes nothing
else there (`at?_relabelAt`).
-/

namespace SharpLint.Tree

universe u

variable {α : Type u}

/-- The tree at the end of a path. -/
def at? : List Nat → Tree α → Option (Tree α)
  | [], tree => some tree
  | index :: path, tree => tree.children[index]?.bind (at? path)

def relabelAt (f : α → α) : List Nat → Tree α → Tree α
  | [], tree => node (f tree.label) tree.children
  | index :: path, tree => node tree.label (tree.children.modify index (relabelAt f path))

mutual

/-- The paths to the tree itself and to all trees below it, in pre-order. -/
def pathsWithin : Tree α → List (List Nat)
  | node _ children => [] :: pathsFrom 0 children

def pathsFrom (index : Nat) : List (Tree α) → List (List Nat)
  | [] => []
  | tree :: trees => (pathsWithin tree).map (index :: ·) ++ pathsFrom (index + 1) trees

end

/-- The paths to the trees strictly below the root, in pre-order. -/
def paths (root : Tree α) : List (List Nat) := pathsFrom 0 root.children

theorem pathsFrom_eq_flatMap (index : Nat) (trees : List (Tree α)) :
    pathsFrom index trees =
      (trees.zipIdx index).flatMap fun (tree, index) => (pathsWithin tree).map (index :: ·) := by
  induction trees generalizing index with
  | nil => rfl
  | cons tree trees ih => rw [pathsFrom, ih, List.zipIdx_cons, List.flatMap_cons]

theorem filterMap_at?_pathsFrom {tree : Tree α}
    (each : ∀ child ∈ tree.children, child.pathsWithin.filterMap (at? · child) = child.preorder) :
    tree.paths.filterMap (at? · tree) = tree.descendants := by
  have step : ∀ numbered ∈ tree.children.zipIdx,
      ((pathsWithin numbered.1).map (numbered.2 :: ·)).filterMap (at? · tree) =
        numbered.1.preorder := by
    rintro ⟨child, index⟩ member
    have found := List.mk_mem_zipIdx_iff_getElem?.mp member
    have isChild := List.mem_of_getElem? found
    rw [List.filterMap_map, ← each child isChild]
    simp only [Function.comp_def, at?, found, Option.bind_some]
  calc tree.paths.filterMap (at? · tree)
      = tree.children.zipIdx.flatMap fun numbered => numbered.1.preorder := by
        rw [paths, pathsFrom_eq_flatMap, List.filterMap_flatMap]
        exact List.flatMap_congr step
    _ = tree.children.flatMap preorder := by rw [← List.flatMap_map, List.zipIdx_map_fst]
    _ = tree.descendants := by rw [descendants_eq, funext preorder_eq]

theorem filterMap_at?_pathsWithin (tree : Tree α) :
    tree.pathsWithin.filterMap (at? · tree) = tree.preorder := by
  induction tree with
  | node label children ih =>
      rw [pathsWithin, preorder, ← filterMap_at?_pathsFrom ih]
      rfl

theorem filterMap_at?_paths (tree : Tree α) :
    tree.paths.filterMap (at? · tree) = tree.descendants :=
  filterMap_at?_pathsFrom fun child _ => filterMap_at?_pathsWithin child

theorem cons_mem_pathsFrom {index : Nat} {path : List Nat} {trees : List (Tree α)} :
    index :: path ∈ pathsFrom 0 trees ↔
      ∃ tree, trees[index]? = some tree ∧ path ∈ tree.pathsWithin := by
  simp [pathsFrom_eq_flatMap, List.mk_mem_zipIdx_iff_getElem?]

theorem mem_pathsWithin {path : List Nat} {tree : Tree α} :
    path ∈ tree.pathsWithin ↔ (at? path tree).isSome := by
  induction path generalizing tree with
  | nil => cases tree with | node label children => simp [pathsWithin, at?]
  | cons index path ih =>
      cases tree with
      | node label children =>
          simp [pathsWithin, cons_mem_pathsFrom, ih, at?, Option.isSome_bind, Option.any_eq_true,
            Tree.children]

theorem mem_paths {path : List Nat} {tree : Tree α} :
    path ∈ tree.paths ↔ path ≠ [] ∧ (at? path tree).isSome := by
  cases path with
  | nil => simp [paths, pathsFrom_eq_flatMap]
  | cons index path =>
      rw [← mem_pathsWithin]
      cases tree with
      | node label children => simp [paths, pathsWithin, Tree.children]

theorem mem_descendants_of_at? {path : List Nat} {inner tree : Tree α}
    (listed : path ∈ tree.paths) (found : at? path tree = some inner) :
    inner ∈ tree.descendants := by
  rw [← filterMap_at?_paths]
  exact List.mem_filterMap.mpr ⟨path, listed, found⟩

theorem at?_relabelAt (f : α → α) (path : List Nat) (tree : Tree α) :
    at? path (relabelAt f path tree) =
      (at? path tree).map fun inner => node (f inner.label) inner.children := by
  induction path generalizing tree with
  | nil => rfl
  | cons index path ih =>
      rw [relabelAt, at?, at?, Tree.children, List.getElem?_modify_eq]
      cases tree.children[index]? with
      | none => rfl
      | some child => exact ih child

end SharpLint.Tree
