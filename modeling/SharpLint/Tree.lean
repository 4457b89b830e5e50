/-!
# Labelled trees

Trees whose nodes carry a label and any number of children. A tree has a flat form, one row per
node in pre-order with the number of its children (`rows`, `ofRows?`), and is walked in pre-order
with a stack of the trees still to be visited (`Walk`).
-/

namespace SharpLint

universe u

inductive Tree (α : Type u) where
  | node (label : α) (children : List (Tree α))

namespace Tree

variable {α : Type u}

def label : Tree α → α
  | node label _ => label

def children : Tree α → List (Tree α)
  | node _ children => children

mutual

def size : Tree α → Nat
  | node _ children => sizeAll children + 1

def sizeAll : List (Tree α) → Nat
  | [] => 0
  | tree :: trees => size tree + sizeAll trees

end

mutual

def rows : Tree α → List (α × Nat)
  | node label children => (label, children.length) :: rowsAll children

def rowsAll : List (Tree α) → List (α × Nat)
  | [] => []
  | tree :: trees => rows tree ++ rowsAll trees

end

def forestOfRows? : List (α × Nat) → Option (List (Tree α))
  | [] => some []
  | (label, count) :: rows =>
    (forestOfRows? rows).bind fun trees =>
      if count ≤ trees.length then some (node label (trees.take count) :: trees.drop count)
      else none

def ofRows? (rows : List (α × Nat)) : Option (Tree α) :=
  match forestOfRows? rows with
  | some [tree] => some tree
  | _ => none

/-- A walk in pre-order: which trees it goes into, and those it has still to visit, the next one
first. -/
structure Walk (α : Type u) where
  enters : Tree α → Bool
  pending : List (Tree α)

namespace Walk

def next? (walk : Walk α) : Option (Tree α × Walk α) :=
  match walk.pending with
  | [] => none
  | tree :: pending =>
    some (tree, { walk with
      pending := if walk.enters tree then tree.children ++ pending else pending })

def take : Nat → Walk α → List (Tree α)
  | 0, _ => []
  | steps + 1, walk =>
    match walk.next? with
    | none => []
    | some (tree, walk) => tree :: walk.take steps

/-- All trees visited: there are no more of them than nodes. -/
def toList (walk : Walk α) : List (Tree α) := walk.take (sizeAll walk.pending)

end Walk

def descendants (tree : Tree α) : List (Tree α) :=
  Walk.toList { enters := fun _ => true, pending := tree.children }

def preorder (tree : Tree α) : List (Tree α) := tree :: tree.descendants

def atNumber? (tree : Tree α) (number : Nat) : Option (Tree α) := tree.preorder[number]?

def numberedDescendants (tree : Tree α) : List (Tree α × Nat) := tree.descendants.zipIdx 1

/-- The number, relative to the root's, of the first child that satisfies the condition. -/
def childNumber? (tree : Tree α) (condition : Tree α → Bool) : Option Nat :=
  if tree.children.any condition then
    some (sizeAll (tree.children.takeWhile (!condition ·)) + 1)
  else none

end Tree

end SharpLint
