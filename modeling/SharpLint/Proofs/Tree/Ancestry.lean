import Mathlib.Data.List.Induction
import Mathlib.Data.List.Infix
import Mathlib.Data.List.Nodup
import SharpLint.Proofs.Tree.Paths

/-!
# What stands around a place in a tree

Equal trees may stand at several places, so a place is its path. Around it stand the trees at the
ends of the shorter paths:

* `ancestors`, listed from the innermost outwards (`mem_ancestors`, `ancestors_concat`);
* `siblingsBefore`, listed from the nearest one backwards (`siblingsBefore_concat`).

The `trail` is what is met on the way from the root to the place.

Pre-order is the lexicographic order of the paths (`pairwise_lt_pathsWithin`). A walk reaches those
places around which it goes into every tree (`map_snd_placedReached`).
-/

namespace SharpLint.Tree

universe u

variable {α : Type u} {enters : Tree α → Bool} {tree parent : Tree α} {path front : List Nat}
  {index : Nat}

/-- The trees around the end of a path, the innermost first and the root last. -/
def ancestors : List Nat → Tree α → List (Tree α)
  | [], _ => []
  | index :: path, tree => (tree.children[index]?.map (ancestors path)).getD [] ++ [tree]

/-- The children of the same parent before the end of a path, the nearest first. -/
def siblingsBefore (path : List Nat) (tree : Tree α) : List (Tree α) :=
  match path.getLast?, at? path.dropLast tree with
  | some index, some parent => (parent.children.take index).reverse
  | _, _ => []

/-- The trees on the way from the root to the end of a path, the end first. The root is left out. -/
def trail : List Nat → Tree α → List (Tree α)
  | [], _ => []
  | index :: path, tree =>
    (tree.children[index]?.map fun child => trail path child ++ [child]).getD []

theorem at?_append (front back : List Nat) (tree : Tree α) :
    at? (front ++ back) tree = (at? front tree).bind (at? back) := by
  induction front generalizing tree with
  | nil => rfl
  | cons index front ih =>
      rw [List.cons_append, at?, at?]
      cases tree.children[index]? with
      | none => rfl
      | some child => exact ih child

theorem at?_append_cons {child : Tree α} (found : at? front tree = some parent)
    (isChild : parent.children[index]? = some child) (back : List Nat) :
    at? (front ++ index :: back) tree = at? back child := by
  rw [at?_append, found, Option.bind_some, at?, isChild, Option.bind_some]

theorem at?_concat (found : at? front tree = some parent) :
    at? (front ++ [index]) tree = parent.children[index]? := by
  rw [at?_append, found, Option.bind_some, at?]
  cases parent.children[index]? with
  | none => rfl
  | some child => rfl

theorem exists_parent_of_at? {inner : Tree α} (found : at? (front ++ [index]) tree = some inner) :
    ∃ parent, at? front tree = some parent ∧ parent.children[index]? = some inner := by
  obtain ⟨parent, above, -⟩ := Option.bind_eq_some_iff.mp (at?_append .. ▸ found)
  rw [at?_concat above] at found
  exact ⟨parent, above, found⟩

theorem eq_nil_or_concat_of_at? {inner : Tree α} (found : at? path tree = some inner) :
    path = [] ∨ ∃ front index parent, path = front ++ [index] ∧ at? front tree = some parent ∧
      parent.children[index]? = some inner := by
  cases path using List.reverseRecOn with
  | nil => exact .inl rfl
  | append_singleton front index =>
      obtain ⟨parent, above, isChild⟩ := exists_parent_of_at? found
      exact .inr ⟨front, index, parent, rfl, above, isChild⟩

theorem within_of_at? {inner : Tree α} (found : at? path tree = some inner) :
    inner.Within tree := by
  have listed : path ∈ tree.pathsWithin := mem_pathsWithin.mpr (by rw [found]; rfl)
  rw [← mem_preorder, ← filterMap_at?_pathsWithin]
  exact List.mem_filterMap.mpr ⟨path, listed, found⟩

/-! ## Ancestors and siblings -/

theorem ancestors_cons {child : Tree α} (found : tree.children[index]? = some child) :
    ancestors (index :: path) tree = ancestors path child ++ [tree] := by
  rw [ancestors, found]
  rfl

theorem trail_cons {child : Tree α} (found : tree.children[index]? = some child) :
    trail (index :: path) tree = trail path child ++ [child] := by
  rw [trail, found]
  rfl

theorem ancestors_concat (found : at? front tree = some parent) :
    ancestors (front ++ [index]) tree = parent :: ancestors front tree := by
  induction front generalizing tree with
  | nil =>
      cases found
      simp only [List.nil_append, ancestors]
      cases parent.children[index]? with
      | none => rfl
      | some child => rfl
  | cons next front ih =>
      obtain ⟨child, isChild, found⟩ := Option.bind_eq_some_iff.mp found
      rw [List.cons_append, ancestors_cons isChild, ancestors_cons isChild, ih found,
        List.cons_append]

theorem mem_ancestors {ancestor : Tree α} :
    ancestor ∈ ancestors path tree ↔
      ∃ front, front <+: path ∧ front ≠ path ∧ at? front tree = some ancestor := by
  induction path generalizing tree with
  | nil => simp [ancestors]
  | cons index path ih =>
      have root : (∃ front, front <+: index :: path ∧ front ≠ index :: path ∧
          at? front tree = some ancestor) ↔
          (∃ child, tree.children[index]? = some child ∧
            ∃ front, front <+: path ∧ front ≠ path ∧ at? front child = some ancestor) ∨
          tree = ancestor := by
        constructor
        · rintro ⟨front, isPrefix, proper, found⟩
          cases front with
          | nil => exact .inr (Option.some.inj found)
          | cons first front =>
              obtain ⟨rfl, shorter⟩ := List.cons_prefix_cons.mp isPrefix
              obtain ⟨child, isChild, found⟩ := Option.bind_eq_some_iff.mp found
              exact .inl ⟨child, isChild, front, shorter, by simpa using proper, found⟩
        · rintro (⟨child, isChild, front, isPrefix, proper, found⟩ | rfl)
          · refine ⟨index :: front, List.cons_prefix_cons.mpr ⟨rfl, isPrefix⟩, by simpa, ?_⟩
            rw [at?, isChild, Option.bind_some, found]
          · exact ⟨[], List.nil_prefix, by simp, rfl⟩
      rw [root, ancestors, List.mem_append, List.mem_singleton, eq_comm (a := ancestor)]
      cases tree.children[index]? with
      | none => simp
      | some child => simp [ih]

theorem siblingsBefore_concat (found : at? front tree = some parent) :
    siblingsBefore (front ++ [index]) tree = (parent.children.take index).reverse := by
  simp [siblingsBefore, found]

/-! ## Places that a walk reaches -/

theorem pathsWithin_eq (tree : Tree α) : tree.pathsWithin = [] :: tree.paths := by
  cases tree with
  | node label children => rfl

theorem pairwise_lt_pathsFrom {trees : List (Tree α)}
    (each : ∀ tree ∈ trees, tree.pathsWithin.Pairwise (· < ·)) :
    (pathsFrom 0 trees).Pairwise (· < ·) := by
  rw [pathsFrom_eq_flatMap, List.pairwise_flatMap]
  constructor
  · rintro ⟨tree, index⟩ member
    have listed := List.mem_of_getElem? (List.mk_mem_zipIdx_iff_getElem?.mp member)
    rw [List.pairwise_map]
    exact (each tree listed).imp fun before => List.cons_lt_cons_iff.mpr (.inr ⟨rfl, before⟩)
  · -- Paths through different children already differ in their first step.
    have numbers : trees.zipIdx.Pairwise (·.2 < ·.2) := by
      rw [← List.pairwise_map (f := Prod.snd), List.zipIdx_map_snd]
      exact List.pairwise_lt_range'
    refine numbers.imp ?_
    intro first second before path listed other alsoListed
    obtain ⟨_, -, rfl⟩ := List.mem_map.mp listed
    obtain ⟨_, -, rfl⟩ := List.mem_map.mp alsoListed
    exact List.cons_lt_cons_iff.mpr (.inl before)

theorem pairwise_lt_pathsWithin (tree : Tree α) : tree.pathsWithin.Pairwise (· < ·) := by
  induction tree with
  | node label children ih =>
      rw [pathsWithin, List.pairwise_cons]
      refine ⟨?_, pairwise_lt_pathsFrom ih⟩
      intro path listed
      cases path with
      | nil => simp [pathsFrom_eq_flatMap] at listed
      | cons index path => exact List.nil_lt_cons index path

theorem pairwise_lt_paths (tree : Tree α) : tree.paths.Pairwise (· < ·) := by
  have all := pairwise_lt_pathsWithin tree
  rw [pathsWithin_eq] at all
  exact (List.pairwise_cons.mp all).2

theorem filterMap_paths {β : Type*} {given : List Nat → Option β}
    (givenIn : Tree α → List Nat → Option β)
    (step : ∀ index child, tree.children[index]? = some child →
      ∀ path, given (index :: path) = givenIn child path) :
    tree.paths.filterMap given =
      tree.children.flatMap fun child => child.pathsWithin.filterMap (givenIn child) := by
  have numbered : ∀ entry ∈ tree.children.zipIdx,
      (entry.1.pathsWithin.map (entry.2 :: ·)).filterMap given =
        entry.1.pathsWithin.filterMap (givenIn entry.1) := by
    rintro ⟨child, index⟩ member
    have found := List.mk_mem_zipIdx_iff_getElem?.mp member
    rw [List.filterMap_map]
    exact List.filterMap_congr fun path _ => step index child found path
  calc tree.paths.filterMap given
      = tree.children.zipIdx.flatMap fun entry =>
          entry.1.pathsWithin.filterMap (givenIn entry.1) := by
        rw [paths, pathsFrom_eq_flatMap, List.filterMap_flatMap]
        exact List.flatMap_congr numbered
    _ = tree.children.flatMap fun child => child.pathsWithin.filterMap (givenIn child) := by
        conv_rhs => rw [← List.zipIdx_map_fst 0 tree.children, List.flatMap_map]

/-- The trees strictly below the root in pre-order, each with the path to it. -/
def placedDescendants (tree : Tree α) : List (List Nat × Tree α) :=
  tree.paths.filterMap fun path => (at? path tree).map (path, ·)

/-- The descendants around which a walk goes into every tree. -/
def placedReached (enters : Tree α → Bool) (tree : Tree α) : List (List Nat × Tree α) :=
  tree.placedDescendants.filter fun placed => (ancestors placed.1 tree).all enters

theorem mem_placedDescendants {inner : Tree α} :
    (path, inner) ∈ tree.placedDescendants ↔ path ≠ [] ∧ at? path tree = some inner := by
  rw [placedDescendants, List.mem_filterMap]
  constructor
  · rintro ⟨_, listed, found⟩
    obtain ⟨_, found, same⟩ := Option.map_eq_some_iff.mp found
    cases same
    exact ⟨(mem_paths.mp listed).1, found⟩
  · rintro ⟨below, found⟩
    exact ⟨path, mem_paths.mpr ⟨below, by simp [found]⟩, by simp [found]⟩

theorem map_snd_placedDescendants (tree : Tree α) :
    tree.placedDescendants.map (·.2) = tree.descendants := by
  rw [placedDescendants, List.map_filterMap, ← filterMap_at?_paths]
  apply List.filterMap_congr
  intro path _
  cases at? path tree with
  | none => rfl
  | some inner => rfl

theorem pairwise_lt_placedDescendants (tree : Tree α) :
    tree.placedDescendants.Pairwise (·.1 < ·.1) := by
  rw [placedDescendants, List.pairwise_filterMap]
  refine (pairwise_lt_paths tree).imp ?_
  intro path other before placed found alsoPlaced alsoFound
  obtain ⟨_, -, rfl⟩ := Option.map_eq_some_iff.mp found
  obtain ⟨_, -, rfl⟩ := Option.map_eq_some_iff.mp alsoFound
  exact before

theorem nodup_placedDescendants (tree : Tree α) : (tree.placedDescendants.map (·.1)).Nodup := by
  rw [List.Nodup, List.pairwise_map]
  refine (pairwise_lt_placedDescendants tree).imp ?_
  intro placed other before same
  exact List.lt_irrefl _ (same ▸ before)

theorem map_snd_placedReached_eq (enters : Tree α → Bool) (tree : Tree α) :
    (placedReached enters tree).map (·.2) = tree.paths.filterMap fun path =>
      if (ancestors path tree).all enters then at? path tree else none := by
  rw [placedReached, placedDescendants, List.filter_filterMap, List.map_filterMap]
  apply List.filterMap_congr
  intro path _
  cases at? path tree with
  | none => simp
  | some inner => split <;> simp_all [Option.filter]

theorem map_snd_placedReached_of_children
    (each : ∀ child ∈ tree.children,
      child :: (placedReached enters child).map (·.2) = reached enters child) :
    (placedReached enters tree).map (·.2) =
      if enters tree then tree.children.flatMap (reached enters) else [] := by
  rw [map_snd_placedReached_eq]
  by_cases goesInto : enters tree = true
  · rw [if_pos goesInto, filterMap_paths fun child path =>
      if (ancestors path child).all enters then at? path child else none]
    · apply List.flatMap_congr
      intro child isChild
      rw [← each child isChild, map_snd_placedReached_eq, pathsWithin_eq]
      rfl
    · intro index child found path
      simp [ancestors_cons found, goesInto, at?, found]
  · rw [if_neg goesInto, List.filterMap_eq_nil_iff]
    intro path listed
    cases path with
    | nil => simp [mem_paths] at listed
    | cons index path => simp [ancestors, goesInto]

theorem cons_map_snd_placedReached (enters : Tree α → Bool) (tree : Tree α) :
    tree :: (placedReached enters tree).map (·.2) = reached enters tree := by
  induction tree with
  | node label children ih => rw [map_snd_placedReached_of_children ih, reached_eq]

theorem map_snd_placedReached (goesInto : enters tree = true) :
    (placedReached enters tree).map (·.2) = tree.children.flatMap (reached enters) := by
  rw [map_snd_placedReached_of_children fun child _ => cons_map_snd_placedReached enters child,
    if_pos goesInto]

end SharpLint.Tree
