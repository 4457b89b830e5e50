import SharpLint.Proofs.Syntax.TokenYield
import SharpLint.Proofs.Tree.Traversal

/-!
# What the walks over a syntax tree visit

The descendants of a node are listed in pre-order, each of them once. The canonical form is written
on a walk of the same kind that does not go into a node with a text, so it is made of the texts that
stand at a `Topmost` place, in pre-order. The main statement (`walks_follow_preorder`) tells equal
nodes apart by their paths.
-/

namespace SharpLint

universe u

namespace Node

/-- A text stands at the place, and none at the places around it. -/
def Topmost (node : Node) (path : List Nat) : Prop :=
  (∃ inner : Node, node.at? path = some inner ∧ inner.text ≠ none) ∧
    ∀ front (outer : Node), front <+: path → front ≠ path → node.at? front = some outer →
      outer.text = none

def textWalk (node : Node) : Tree.Walk Label :=
  { enters := fun inner => (text inner).isNone, pending := [node] }

def placedTextWalk (node : Node) : Tree.Walk (List Nat × Label) :=
  { enters := fun part => (text (part.map Prod.snd)).isNone, pending := [node.placed] }

theorem topmost_iff {node : Node} {path : List Nat} :
    node.Topmost path ↔
      ((node.at? path).bind text).isSome = true ∧
        (node.ancestors path).all (fun outer => (text outer).isNone) = true := by
  have own : (∃ inner : Node, node.at? path = some inner ∧ inner.text ≠ none) ↔
      ((node.at? path).bind text).isSome = true := by
    cases node.at? path <;> simp [Option.isSome_iff_ne_none]
  rw [Topmost, own, List.all_eq_true]
  refine and_congr_right fun _ => ?_
  simp only [Tree.mem_ancestors, Option.isNone_iff_eq_none]
  constructor
  · rintro bare outer ⟨front, above, proper, found⟩
    exact bare front outer above proper found
  · intro bare front outer above proper found
    exact bare outer ⟨front, above, proper, found⟩

instance (node : Node) (path : List Nat) : Decidable (node.Topmost path) :=
  decidable_of_iff _ topmost_iff.symm

theorem map_snd_placedTextWalk (node : Node) :
    node.placedTextWalk.toList.map (Tree.map Prod.snd) = node.textWalk.toList := by
  rw [Tree.Walk.toList_eq, Tree.Walk.toList_eq, placedTextWalk, textWalk, List.flatMap_singleton,
    List.flatMap_singleton]
  exact Tree.map_snd_reached_placed (fun inner => (text inner).isNone) node

theorem filter_placedTextWalk (node : Node) :
    (node.placedTextWalk.toList.filter fun part => (text (part.map Prod.snd)).isSome) =
      node.placed.preorder.filter fun part => node.Topmost part.place := by
  rw [Tree.Walk.toList_eq, placedTextWalk, List.flatMap_singleton]
  dsimp only
  rw [Tree.reached_placed (fun inner => (text inner).isNone) node, List.filter_filter]
  apply List.filter_congr
  intro part member
  rw [Bool.eq_iff_iff, Bool.and_eq_true, decide_eq_true_iff, topmost_iff, Tree.at?_place member,
    Option.bind_some]

theorem canonicalForm_eq (node : Node) :
    node.canonicalForm =
      ((node.placed.preorder.filter fun part => node.Topmost part.place).filterMap fun part =>
        text (part.map Prod.snd)).foldl writeToken "" := by
  have texts : node.tokens = node.textWalk.toList.filterMap text := rfl
  rw [canonicalForm, texts, ← map_snd_placedTextWalk, List.filterMap_map, ← filter_placedTextWalk,
    List.filterMap_filter]
  congr 1
  apply List.filterMap_congr
  intro part _
  cases found : text (part.map Prod.snd) <;> simp [found]

end Node

/-- A walk over the descendants finds what recursion over the children does. With the paths added to
the labels it finds the same, and every place strictly below the root once, before the places below
it and those of the later siblings. It ends after as many steps as there are nodes below the root.
The walk that writes the canonical form takes the texts from the topmost places that have one, in
pre-order. -/
theorem walks_follow_preorder :
    (∀ (α : Type u) (tree : Tree α),
      tree.descendants = tree.children.flatMap (fun child => child :: child.properSubtrees) ∧
      tree.placed.descendants.map (Tree.map Prod.snd) = tree.descendants ∧
      (∀ path, path ∈ tree.placed.descendants.map Tree.place ↔
        path ≠ [] ∧ (tree.at? path).isSome) ∧
      Tree.Preordered (tree.placed.descendants.map Tree.place) ∧
      tree ∉ tree.descendants ∧
      Tree.Walk.Runs { enters := fun _ => true, pending := tree.children } tree.descendants ∧
      tree.descendants.length = tree.size - 1) ∧
    ∀ node : Node,
      node.textWalk.Runs node.textWalk.toList ∧
      node.placedTextWalk.toList.map (Tree.map Prod.snd) = node.textWalk.toList ∧
      (node.placedTextWalk.toList.filter fun part => (Node.text (part.map Prod.snd)).isSome) =
        node.placed.preorder.filter (fun part => node.Topmost part.place) ∧
      node.canonicalForm =
        ((node.placed.preorder.filter fun part => node.Topmost part.place).filterMap fun part =>
          Node.text (part.map Prod.snd)).foldl Node.writeToken "" := by
  refine ⟨?_, ?_⟩
  · intro α tree
    refine ⟨?_, ?_, ?_, ?_, tree.self_notMem_descendants, Tree.Walk.runs_toList _, ?_⟩
    · simp only [Tree.descendants_eq_flatMap tree, Tree.descendants_eq_properSubtrees]
    · rw [← Tree.descendants_map, Tree.map_snd_placed]
    · intro path
      exact Tree.mem_map_place_descendants
    · exact Tree.preordered_of_pairwise_lt tree.pairwise_lt_place_descendants
    · rw [← tree.length_descendants, Nat.add_sub_cancel]
  · intro node
    exact ⟨Tree.Walk.runs_toList _, node.map_snd_placedTextWalk, node.filter_placedTextWalk,
      node.canonicalForm_eq⟩

end SharpLint
