import Mathlib.Data.List.Forall2
import SharpLint.Proofs.Syntax.Origins
import SharpLint.Proofs.Tree.Ancestry

/-!
# The nodes that conversion meets

Conversion goes neither into comments nor into nodes that become leaves. The places of all other
nodes, in pre-order, are `metPaths`, and the nodes of the converted tree are what has become of the
nodes there, one by one and in the same order (`arises_convert`). What conversion knows about a node
that it meets is what stands around it in the tree:

* `before_placeAt`: the siblings before it;
* `parent_placeAt`: its parent, with the siblings before that;
* `container_placeAt`: the container, which passes through its ancestors from the root inwards.
-/

namespace SharpLint.Concrete

variable {source : Source} {place : Place} {tree node child parent : Concrete}
  {path front : List Nat} {index : Nat} {converted : Node}

/-- Conversion meets the node at the end of a path: it goes into all nodes around it, and none on
the way is a comment. -/
def isMet (tree : Concrete) (path : List Nat) : Bool :=
  (tree.ancestors path).all (!isUnit ·) && (tree.trail path).all (!isComment ·)

def metPaths (tree : Concrete) : List (List Nat) := tree.pathsWithin.filter tree.isMet

/-- Where a child stands in a node that stands at a place itself. -/
def placeOfChild (source : Source) (place : Place) (node : Concrete) (index : Nat) : Place where
  container := place.container.inside node.kind (node.syntaxKind source)
  before := (node.children.take index).reverse
  parent := some (node.label, place.before)

def placeAt (source : Source) (place : Place) : List Nat → Concrete → Place
  | [], _ => place
  | index :: path, node =>
    match node.children[index]? with
    | none => place
    | some child => placeAt source (node.placeOfChild source place index) path child

def declarationKinds : List String :=
  ["class_declaration", "struct_declaration", "record_declaration", "record_struct_declaration",
   "interface_declaration", "method_declaration", "local_function_statement", "field_declaration",
   "property_declaration"]

/-- A declaration of a type, an interface, a method, a field or a property, with its parts. -/
structure IsDeclaration (node : Concrete) : Prop where
  named : node.isNamed = true
  kind : node.kind ∈ declarationKinds
  parts : node.children ≠ []

/-- What has become of the node at the end of a path. -/
def Arises (source : Source) (place : Place) (tree : Concrete) (path : List Nat)
    (converted : Node) : Prop :=
  ∃ node : Concrete, tree.at? path = some node ∧
    ((node.isUnit = true ∧
        ∃ kind, converted = .leaf kind (source.spanOf node) (source.textOf node)) ∨
      node.isUnit = false ∧ converted = node.convert source (placeAt source place path tree))

/-! ## Met places -/

theorem isMet_nil (tree : Concrete) : tree.isMet [] = true := rfl

theorem isMet_cons (found : tree.children[index]? = some child) :
    tree.isMet (index :: path) = (!(tree.isUnit || child.isComment) && child.isMet path) := by
  rw [isMet, isMet, Tree.ancestors_cons found, Tree.trail_cons found]
  simp only [List.all_append, List.all_cons, List.all_nil, Bool.and_true, Bool.not_or]
  grind

theorem metPaths_eq (tree : Concrete) :
    tree.metPaths = [] :: tree.children.zipIdx.flatMap fun (child, index) =>
      if tree.isUnit || isComment child then [] else (metPaths child).map (index :: ·) := by
  rw [metPaths, Tree.pathsWithin_eq, List.filter_cons_of_pos tree.isMet_nil, Tree.paths,
    Tree.pathsFrom_eq_flatMap, List.filter_flatMap]
  congr 1
  apply List.flatMap_congr
  rintro ⟨child, index⟩ member
  have found := List.mk_mem_zipIdx_iff_getElem?.mp member
  dsimp only
  rw [List.filter_map]
  cases skipped : tree.isUnit || isComment child with
  | true =>
      have none : ∀ path ∈ child.pathsWithin, (tree.isMet ∘ (index :: ·)) path = false := by
        intro path _
        simp [isMet_cons found, skipped]
      rw [if_pos rfl, List.filter_congr none, List.filter_false, List.map_nil]
  | false =>
      have same : ∀ path ∈ child.pathsWithin,
          (tree.isMet ∘ (index :: ·)) path = isMet child path := by
        intro path _
        simp [isMet_cons found, skipped]
      rw [if_neg Bool.false_ne_true, List.filter_congr same, metPaths]

theorem metPaths_of_unit (unit : tree.isUnit = true) : tree.metPaths = [[]] := by
  rw [metPaths_eq]
  simp [unit]

/-! ## What becomes of met nodes -/

theorem Arises.of_child (found : tree.children[index]? = some child)
    (arises : Arises source (tree.placeOfChild source place index) child path converted) :
    Arises source place tree (index :: path) converted := by
  obtain ⟨node, atPath, verdict⟩ := arises
  refine ⟨node, ?_, ?_⟩
  · rw [Tree.at?, found, Option.bind_some, atPath]
  · rwa [placeAt, found]

theorem isUnit_of_introducesName {parentKind : String} {before : List Concrete}
    (introduced : child.introducesName parentKind before = true) : child.isUnit = true := by
  simp only [introducesName, Bool.and_eq_true, decide_eq_true_eq] at introduced
  simp [isUnit, introduced.1, leafKind?]

theorem arises_convertChild (place : Place) (found : tree.children[index]? = some child)
    (each : ∀ place : Place, List.Forall₂ (Arises source place child) child.metPaths
      (child.convert source place).preorder) :
    List.Forall₂ (Arises source place tree) (child.metPaths.map (index :: ·))
      (child.convertChild source tree.label place.before
        (place.container.inside tree.kind (tree.syntaxKind source))
        (tree.children.take index).reverse).preorder := by
  rw [List.forall₂_map_left_iff, convertChild]
  split
  · rename_i introduced
    have unit := isUnit_of_introducesName introduced
    rw [metPaths_of_unit unit]
    exact .cons (.of_child found ⟨child, rfl, .inl ⟨unit, _, rfl⟩⟩) .nil
  · exact (each (tree.placeOfChild source place index)).imp fun _ _ => .of_child found

theorem arises_convertAll (place : Place) (parts : tree.isUnit = false)
    (each : ∀ child ∈ tree.children, ∀ place : Place,
      List.Forall₂ (Arises source place child) (metPaths child)
        (convert source place child).preorder)
    (before : List Concrete) {rest : List Concrete}
    (split : tree.children = before.reverse ++ rest) :
    List.Forall₂ (Arises source place tree)
      ((rest.zipIdx before.length).flatMap fun (child, index) =>
        if tree.isUnit || isComment child then [] else (metPaths child).map (index :: ·))
      ((convertAll source tree.label place.before
        (place.container.inside tree.kind (tree.syntaxKind source)) before rest).flatMap
          Tree.preorder) := by
  induction rest generalizing before with
  | nil => exact .nil
  | cons child rest ih =>
      have found : tree.children[before.length]? = some child := by simp [split]
      have earlier : (tree.children.take before.length).reverse = before := by simp [split]
      rw [List.zipIdx_cons, List.flatMap_cons, convertAll_cons, List.flatMap_append]
      refine List.rel_append ?_ (ih (child :: before) (by simpa using split))
      dsimp only
      rw [parts, Bool.false_or]
      split
      · exact .nil
      · have arises := arises_convertChild place found
          (each child (List.mem_of_getElem? found))
        rw [earlier] at arises
        simpa using arises

theorem arises_convert (source : Source) (place : Place) (tree : Concrete) :
    List.Forall₂ (Arises source place tree) tree.metPaths
      (tree.convert source place).preorder := by
  induction tree using Tree.induction generalizing place with
  | node label children ih =>
      cases unit : isUnit (.node label children) with
      | true =>
          obtain ⟨kind, leaf⟩ := @convert_of_unit source place _ unit
          rw [metPaths_of_unit unit, leaf]
          exact .cons ⟨_, rfl, .inl ⟨unit, kind, rfl⟩⟩ .nil
      | false =>
          rw [metPaths_eq, Tree.preorder]
          refine .cons ⟨_, rfl, .inr ⟨unit, rfl⟩⟩ ?_
          rw [convert_of_parts unit, Tree.descendants_eq, ← funext Tree.preorder_eq]
          exact arises_convertAll place unit (fun child member place => ih child member place) []
            rfl

/-! ## Where met nodes stand -/

theorem placeAt_concat (found : tree.at? front = some parent)
    (isChild : parent.children[index]? = some child) :
    placeAt source place (front ++ [index]) tree =
      placeOfChild source (placeAt source place front tree) parent index := by
  induction front generalizing place tree with
  | nil =>
      cases found
      simp only [List.nil_append, placeAt, isChild]
  | cons next front ih =>
      obtain ⟨first, isFirst, found⟩ := Option.bind_eq_some_iff.mp found
      rw [List.cons_append, placeAt, placeAt, isFirst]
      exact ih found

theorem before_placeAt (source : Source) (found : tree.at? path = some node) :
    (placeAt source {} path tree).before = tree.siblingsBefore path := by
  obtain rfl | ⟨front, index, parent, rfl, above, isChild⟩ := Tree.eq_nil_or_concat_of_at? found
  · rfl
  · rw [placeAt_concat above isChild, Tree.siblingsBefore_concat above]
    rfl

theorem parent_placeAt (source : Source) (found : tree.at? (front ++ [index]) = some node)
    (above : tree.at? front = some parent) :
    (placeAt source {} (front ++ [index]) tree).parent =
      some (parent.label, tree.siblingsBefore front) := by
  rw [Tree.at?_concat above] at found
  rw [placeAt_concat above found, ← before_placeAt source above]
  rfl

theorem container_placeAt (source : Source) (found : tree.at? path = some node) :
    (placeAt source {} path tree).container =
      (tree.ancestors path).foldr (fun ancestor container =>
        container.inside (kind ancestor) (syntaxKind source ancestor)) .topLevel := by
  induction path using List.reverseRecOn generalizing node with
  | nil => rfl
  | append_singleton front index ih =>
      obtain ⟨parent, above, isChild⟩ := Tree.exists_parent_of_at? found
      rw [Tree.ancestors_concat above, List.foldr_cons, ← ih above, placeAt_concat above isChild]
      rfl

/-! ## Declarations -/

theorem IsDeclaration.isUnit (declaration : node.IsDeclaration) : node.isUnit = false := by
  have noLeaf : ∀ kind ∈ declarationKinds, leafKind? kind = none := by decide
  simp [Concrete.isUnit, declaration.named, noLeaf _ declaration.kind, declaration.parts]

theorem IsDeclaration.syntaxLabel_eq (declaration : node.IsDeclaration) (source : Source)
    (place : Place) :
    (node.syntaxLabel source place).modifiers = node.modifiers source place.container ∧
      (node.syntaxLabel source place).docComment = node.docComment? source place := by
  have kind := declaration.kind
  simp only [declarationKinds, List.mem_cons, List.not_mem_nil, or_false] at kind
  rcases kind with kind | kind | kind | kind | kind | kind | kind | kind | kind
  all_goals simp [syntaxLabel, syntaxKind, kind, declarationLabel]

theorem Arises.of_isDeclaration (arises : Arises source place tree path converted)
    (found : tree.at? path = some node) (declaration : node.IsDeclaration) :
    converted.label.modifiers =
        node.modifiers source (placeAt source place path tree).container ∧
      converted.label.docComment = node.docComment? source (placeAt source place path tree) := by
  obtain ⟨_, same, ⟨unit, -⟩ | ⟨-, rfl⟩⟩ := arises
  · cases found.symm.trans same
    rw [declaration.isUnit] at unit
    cases unit
  · cases found.symm.trans same
    rw [convert_of_parts declaration.isUnit]
    exact declaration.syntaxLabel_eq source _

theorem Arises.span_eq (arises : Arises source place tree path converted)
    (found : tree.at? path = some node) : converted.span = source.spanOf node := by
  obtain ⟨_, same, ⟨-, kind, rfl⟩ | ⟨parts, rfl⟩⟩ := arises
  · cases found.symm.trans same
    rfl
  · cases found.symm.trans same
    rw [convert_of_parts parts]
    exact span_syntaxLabel source _ node

end SharpLint.Concrete
