import SharpLint.Proofs.Check.Clusters
import SharpLint.Proofs.Syntax.TokenYield
import SharpLint.Proofs.Tree.Rows

/-!
# Layout and comments

`Concrete.bare` leaves the comments and the places of the nodes out of a concrete tree and keeps the
texts of chosen nodes. When the nodes that count as one token keep theirs, what is left decides the
tokens of the tree (`yield_bare`), so blocks that differ only in layout and comments are
clustered together (`layout_splits_no_cluster`). The texts of the nodes without children do not
suffice: an interpolated string is one token, and the layout inside its holes is part of that token
(`layout_inside_interpolation`).
-/

namespace SharpLint

namespace Concrete

/-- What a node says about itself, wherever it stands. -/
structure Bare where
  kind : String
  named : Bool
  field : Option String
  text : Option String
deriving DecidableEq, Repr

mutual

/-- The tree without comments and places, with the texts of the nodes that keep theirs. -/
def bare (source : Source) (keepsText : Concrete → Bool) : Concrete → Tree Bare
  | .node label children =>
    let text :=
      if keepsText (.node label children) then some (source.textOf (.node label children))
      else none
    .node { kind := label.kind, named := label.named, field := label.field, text }
      (bareAll source keepsText children)

def bareAll (source : Source) (keepsText : Concrete → Bool) : List Concrete → List (Tree Bare)
  | [] => []
  | child :: rest =>
    if child.isComment then bareAll source keepsText rest
    else bare source keepsText child :: bareAll source keepsText rest

end

def isChildless (node : Concrete) : Bool := node.children.all isComment

/-- The node is one token, whatever is inside it. -/
def isToken (node : Concrete) : Bool :=
  !node.isNamed || node.kind ∈ unitKinds || node.children.isEmpty

mutual

/-- The texts of the topmost nodes that keep theirs, in order. -/
def Bare.yield : Tree Bare → List String
  | .node label children =>
    match label.text with
    | some text => [text]
    | none => Bare.yieldAll children

def Bare.yieldAll : List (Tree Bare) → List String
  | [] => []
  | tree :: trees => Bare.yield tree ++ Bare.yieldAll trees

end

theorem bareAll_eq_map (source : Source) (keepsText : Concrete → Bool) (children : List Concrete) :
    bareAll source keepsText children =
      (children.filter (!isComment ·)).map (bare source keepsText) := by
  induction children with
  | nil => rw [bareAll, List.filter_nil, List.map_nil]
  | cons child rest ih =>
      rw [bareAll, ih, List.filter_cons]
      cases child.isComment <;> simp

theorem Bare.yieldAll_eq_flatMap (trees : List (Tree Bare)) :
    Bare.yieldAll trees = trees.flatMap Bare.yield := by
  induction trees with
  | nil => rw [Bare.yieldAll, List.flatMap_nil]
  | cons tree trees ih => rw [Bare.yieldAll, ih, List.flatMap_cons]

theorem yield_bare (source : Source) (node : Concrete) :
    Bare.yield (node.bare source isToken) = node.yield source := by
  induction node using Tree.induction with
  | node label children kept =>
      rw [bare, Bare.yield, yield_eq]
      by_cases token : isToken (.node label children) = true
      · rw [if_pos token]
        rw [isToken] at token
        rw [if_pos token]
      · rw [if_neg token]
        rw [isToken] at token
        rw [if_neg token]
        dsimp only
        rw [bareAll_eq_map, Bare.yieldAll_eq_flatMap, List.flatMap_map]
        apply List.flatMap_congr
        intro child member
        exact kept child (List.mem_filter.mp member).1

end Concrete

open Check.Duplication in
/-- Blocks that are the same without comments and places have the same canonical form and digest,
and wherever both are compared they are in one cluster. -/
theorem layout_splits_no_cluster {source other : Source} {block twin : Concrete}
    (same : block.bare source Concrete.isToken = twin.bare other Concrete.isToken)
    (place elsewhere : Place) :
    (block.convert source place).canonicalForm = (twin.convert other elsewhere).canonicalForm ∧
    blockDigest (block.convert source place) = blockDigest (twin.convert other elsewhere) ∧
    ∀ (root : Node) (minStatements number another : Nat),
      number ≠ another →
      Compares root minStatements (block.convert source place, number) →
      Compares root minStatements (twin.convert other elsewhere, another) →
        ∃ cluster ∈ clusters root minStatements,
          (block.convert source place, number) ∈ cluster ∧
          (twin.convert other elsewhere, another) ∈ cluster := by
  have tokens : (block.convert source place).tokens = (twin.convert other elsewhere).tokens := by
    rw [Concrete.tokens_convert, Concrete.tokens_convert, ← Concrete.yield_bare, same,
      Concrete.yield_bare]
  have form : (block.convert source place).canonicalForm =
      (twin.convert other elsewhere).canonicalForm := by
    rw [Node.canonicalForm, tokens, Node.canonicalForm]
  have digest : blockDigest (block.convert source place) =
      blockDigest (twin.convert other elsewhere) := congrArg Digest.ofText form
  refine ⟨form, digest, ?_⟩
  intro root minStatements number another different compared alsoCompared
  have apart : (block.convert source place, number) ≠ (twin.convert other elsewhere, another) :=
    fun equal => different (congrArg Prod.snd equal)
  have clustering := clusters_clustering root minStatements
  exact (clustering.together _ _ compared alsoCompared apart).mpr digest

namespace Concrete.Sample

def node (kind : String) (start stop : Nat) (parts : List Concrete) : Concrete :=
  .node { kind, named := true, start, stop } parts

def callBlock (start blanks : Nat) : Concrete :=
  let hole :=
    node "interpolation" (start + 6) (start + 9 + blanks)
      [part "interpolation_brace" true (start + 6) (start + 7),
       part "identifier" true (start + 7 + blanks) (start + 8 + blanks),
       part "interpolation_brace" true (start + 8 + blanks) (start + 9 + blanks)]
  let string :=
    node "interpolated_string_expression" (start + 4) (start + 10 + blanks)
      [part "interpolation_start" true (start + 4) (start + 5),
       part "\"" false (start + 5) (start + 6), hole,
       part "\"" false (start + 9 + blanks) (start + 10 + blanks)]
  let call :=
    node "invocation_expression" (start + 2) (start + 11 + blanks)
      [part "identifier" true (start + 2) (start + 3),
       node "argument_list" (start + 3) (start + 11 + blanks)
        [part "(" false (start + 3) (start + 4),
         node "argument" (start + 4) (start + 10 + blanks) [string],
         part ")" false (start + 10 + blanks) (start + 11 + blanks)]]
  node "block" start (start + 14 + blanks)
    [part "\x7b" false start (start + 1),
     node "expression_statement" (start + 2) (start + 12 + blanks)
      [call, part ";" false (start + 11 + blanks) (start + 12 + blanks)],
     part "\x7d" false (start + 13 + blanks) (start + 14 + blanks)]

def callsSource : Source :=
  { text := "void D() \x7b F($\"\x7b x\x7d\"); \x7d\nvoid E() \x7b F($\"\x7bx\x7d\"); \x7d" }

end Concrete.Sample

open Check.Duplication Concrete.Sample in
theorem layout_splits_no_cluster_loose :
    tight.bare tightSource Concrete.isToken = loose.bare looseSource Concrete.isToken ∧
    blockDigest (tight.convert tightSource {}) = blockDigest (loose.convert looseSource {}) := by
  have same : tight.bare tightSource Concrete.isToken =
      loose.bare looseSource Concrete.isToken := by
    decide +kernel
  exact ⟨same, (layout_splits_no_cluster same {} {}).2.1⟩

open Concrete.Sample in
/-- Without comments and places, and with the texts of the nodes without children, the two blocks
are the same. The blank inside the hole still makes their canonical forms differ. -/
theorem layout_inside_interpolation :
    (callBlock 9 1).bare callsSource Concrete.isChildless =
      (callBlock 34 0).bare callsSource Concrete.isChildless ∧
    ((callBlock 9 1).convert callsSource {}).canonicalForm ≠
      ((callBlock 34 0).convert callsSource {}).canonicalForm := by
  constructor <;> decide +kernel

end SharpLint
