import Mathlib.Data.List.Flatten
import Mathlib.Data.List.Nodup
import SharpLint.Proofs.Check.DeadDeclarations
import SharpLint.Proofs.Syntax.Origins

/-!
# Declared names and uses

Fields and locals list the names that they declare. Apart from that, every identifier in the tree
becomes a leaf, which is a declared name or a use of one. The two go by different rules:

* `mem_declaredNames_iff`: a listed name comes from a declarator, which has a field for it. A
  declarator without that field is a pattern, and its first identifier is listed instead;
* `declarationName_mem_convert`, `reference_mem_convert`: the name in the field becomes a declared
  name, the identifier of a pattern becomes a use;
* `sublist_identifiers`: every identifier becomes at most one leaf, so that a declared name and a
  use never stand at the same place.

`declared_names_are_no_uses` says what follows for the two kinds of declarators.
-/

namespace SharpLint

namespace Node

def isNameLeaf (node : Node) : Bool := node.kind = .reference || node.kind = .declarationName

def nameLeaves (node : Node) : List Node := node.preorder.filter isNameLeaf

/-- The token is a name that the node declares, and no use of one: who mentions it in a scope does
so at another place. -/
structure Declares (tree node : Node) (token : Token) : Prop where
  leaf : (Node.leaf .declarationName token.span token.text).Below node
  noUse : ∀ other : Node, other.Within tree → other.kind = .reference → other.span ≠ token.span
  usedElsewhere : ∀ scope : Node, scope.Within tree →
    Check.Unused.Mentions scope token.text →
    ∃ use : Node, use.Below scope ∧ use.kind = .reference ∧ use.text = some token.text ∧
      use.span ≠ token.span

/-- The token is a use that the node takes for a name it declares, and that counts as a use of
itself in every scope. -/
structure Misreads (tree node : Node) (token : Token) : Prop where
  leaf : (Node.leaf .reference token.span token.text).Below node
  noName : ∀ other : Node, other.Within tree → other.kind = .declarationName →
    other.span ≠ token.span
  usedItself : ∀ scope : Node, node.Within scope → Check.Unused.Mentions scope token.text

theorem mem_nameLeaves {inner outer : Node} :
    inner ∈ outer.nameLeaves ↔ inner.Within outer ∧ inner.isNameLeaf = true := by
  rw [nameLeaves, List.mem_filter, Tree.mem_preorder]

end Node

namespace Concrete

def identifiers (tree : Concrete) : List Concrete :=
  tree.preorder.filter (Concrete.kind · = "identifier")

/-- The identifiers stand in the text one after another, and no two of them at the same place. -/
def Lexed (tree : Concrete) : Prop :=
  tree.identifiers.Pairwise fun first second =>
    first.label.stop ≤ second.label.start ∧ first.label.start < second.label.stop

instance (tree : Concrete) : Decidable tree.Lexed := inferInstanceAs (Decidable (List.Pairwise _ _))

variable {source : Source} {place : Place} {node tree child : Concrete} {token : Token}

/-! ## Leaves at different places -/

theorem mem_identifiers_self (identifier : tree.kind = "identifier") : tree ∈ tree.identifiers := by
  exact List.mem_filter.mpr ⟨List.mem_cons_self, by simpa using identifier⟩

theorem syntaxKind_ne (source : Source) (node : Concrete) :
    node.syntaxKind source ≠ .reference ∧ node.syntaxKind source ≠ .declarationName := by
  unfold syntaxKind
  split <;> simp

theorem kind_syntaxLabel (source : Source) (place : Place) (node : Concrete) :
    (node.syntaxLabel source place).kind = node.syntaxKind source := by
  unfold syntaxLabel
  dsimp only [declarationLabel]
  split <;> simp_all

theorem eq_identifier_of_leafKind? {grammarKind : String}
    (leaf : leafKind? grammarKind = some .reference ∨
      leafKind? grammarKind = some .declarationName) : grammarKind = "identifier" := by
  unfold leafKind? at leaf
  split at leaf <;> simp_all

theorem kind_of_isNameLeaf (isName : (node.convert source place).isNameLeaf = true) :
    node.kind = "identifier" := by
  have others := syntaxKind_ne source node
  cases node with
  | node label children =>
      rw [Node.isNameLeaf, Node.kind, Bool.or_eq_true, decide_eq_true_eq, decide_eq_true_eq,
        convert] at isName
      split at isName
      · simp [Node.leaf, Tree.label] at isName
      · split at isName
        · rename_i leaf
          apply eq_identifier_of_leafKind?
          simpa [Node.leaf, Tree.label, kind, leaf] using isName
        · split at isName
          · simp [Node.leaf, Tree.label, others] at isName
          · simp [Tree.label, kind_syntaxLabel, others] at isName

theorem nameLeaves_leaf_sublist {kind : Kind} {text : String}
    (identifier : (Node.leaf kind (source.spanOf tree) text).isNameLeaf = true →
      tree.kind = "identifier") :
    ((Node.leaf kind (source.spanOf tree) text).nameLeaves.map Node.span).Sublist
      (tree.identifiers.map source.spanOf) := by
  rw [Node.nameLeaves, Tree.filter_preorder]
  split
  · rename_i isName
    have listed := mem_identifiers_self (identifier isName)
    exact List.singleton_sublist.mpr (List.mem_map_of_mem listed)
  · exact List.nil_sublist _

theorem flatMap_nameLeaves_sublist {children : List Concrete} {converted : List Node}
    (each : ∀ child ∈ children, ∀ place : Place,
      ((child.convert source place).nameLeaves.map Node.span).Sublist
        (child.identifiers.map source.spanOf))
    (becomes : List.Forall₂ (Becomes source) children converted) :
    ((converted.flatMap Node.nameLeaves).map Node.span).Sublist
      ((children.flatMap identifiers).map source.spanOf) := by
  induction becomes with
  | nil => exact .slnil
  | cons here _ ih =>
      obtain ⟨first, others⟩ := List.forall_mem_cons.mp each
      rw [List.flatMap_cons, List.flatMap_cons, List.map_append, List.map_append]
      refine .append ?_ (ih others)
      cases here with
      | name identifier => exact nameLeaves_leaf_sublist fun _ => identifier
      | converted place => exact first place

theorem sublist_identifiers (source : Source) (place : Place) (tree : Concrete) :
    ((tree.convert source place).nameLeaves.map Node.span).Sublist
      (tree.identifiers.map source.spanOf) := by
  induction tree using Tree.induction generalizing place with
  | node label children ih =>
      cases unit : isUnit (.node label children) with
      | true =>
          obtain ⟨kind, leaf⟩ := convert_of_unit unit
          rw [leaf]
          exact nameLeaves_leaf_sublist fun isName => kind_of_isNameLeaf (leaf ▸ isName)
      | false =>
          have others := syntaxKind_ne source (.node label children)
          rw [convert_of_parts unit, Node.nameLeaves, Tree.filter_preorder, if_neg, identifiers,
            Tree.filter_preorder, List.nil_append, List.map_append]
          · -- The node itself gives no leaf, and its children follow one another in both trees.
            refine .trans ?_ (List.sublist_append_right _ _)
            have kept := List.filter_sublist (p := (!isComment ·)) (l := children)
            have becomes := convertAll_becomes source label place.before
              (place.container.inside label.kind (syntaxKind source (.node label children))) []
              children
            refine (flatMap_nameLeaves_sublist ?_ becomes).trans ((kept.flatMap identifiers).map _)
            exact fun child member place => ih child (kept.subset member) place
          · simp [Node.isNameLeaf, Node.kind, Tree.label, kind_syntaxLabel, others]

theorem Lexed.eq_of_span_eq (lexed : tree.Lexed) {leaf other : Node}
    (within : leaf.Within (tree.convert source place)) (isName : leaf.isNameLeaf = true)
    (alsoWithin : other.Within (tree.convert source place)) (alsoName : other.isNameLeaf = true)
    (same : leaf.span = other.span) : leaf = other := by
  have distinct : (tree.identifiers.map source.spanOf).Nodup := by
    refine List.pairwise_map.mpr (lexed.imp ?_)
    rintro first second ⟨after, apart⟩ equal
    have starts := congrArg Span.startByte equal
    have stops := congrArg Span.endByte equal
    simp only [Source.spanOf, Source.span] at starts stops
    omega
  have leaves := distinct.sublist (sublist_identifiers source place tree)
  exact List.inj_on_of_nodup_map leaves (Node.mem_nameLeaves.mpr ⟨within, isName⟩)
    (Node.mem_nameLeaves.mpr ⟨alsoWithin, alsoName⟩) same

/-! ## Children -/

theorem convert_identifier (named : node.isNamed = true) (identifier : node.kind = "identifier") :
    node.convert source place = .leaf .reference (source.spanOf node) (source.textOf node) := by
  cases node with
  | node label children =>
      simp only [isNamed, kind, Tree.label] at named identifier
      rw [convert, named, identifier]
      rfl

theorem isUnit_eq_false (named : node.isNamed = true) (noLeaf : leafKind? node.kind = none)
    (member : child ∈ node.children) : node.isUnit = false := by
  simp [isUnit, named, noLeaf, List.ne_nil_of_mem member]

theorem convertChild_mem_convertAll (source : Source) (parent : Concrete.Label)
    (parentBefore : List Concrete) (container : Container) (before front back : List Concrete)
    (kept : child.isComment = false) :
    child.convertChild source parent parentBefore container (front.reverse ++ before) ∈
      convertAll source parent parentBefore container before (front ++ child :: back) := by
  induction front generalizing before with
  | nil =>
      rw [List.nil_append, convertAll_cons, kept]
      exact List.mem_append_left _ List.mem_cons_self
  | cons first front ih =>
      rw [List.reverse_cons, List.append_assoc, List.singleton_append, List.cons_append,
        convertAll_cons]
      exact List.mem_append_right _ (ih (first :: before))

theorem convertChild_mem_convert (source : Source) (place : Place) {front back : List Concrete}
    (parts : node.isUnit = false) (split : node.children = front ++ child :: back)
    (kept : child.isComment = false) :
    child.convertChild source node.label place.before
      (place.container.inside node.kind (node.syntaxKind source)) front.reverse ∈
        (node.convert source place).children := by
  have listed := convertChild_mem_convertAll source node.label place.before
    (place.container.inside node.kind (node.syntaxKind source)) [] front back kept
  rw [← split, List.append_nil] at listed
  rw [convert_of_parts parts]
  exact listed

theorem exists_convert_mem (source : Source) (place : Place) (parts : node.isUnit = false)
    (member : child ∈ node.children) (kept : child.isComment = false)
    (other : child.kind ≠ "identifier") :
    ∃ inner : Place, child.convert source inner ∈ (node.convert source place).children := by
  obtain ⟨front, back, split⟩ := List.append_of_mem member
  have listed := convertChild_mem_convert source place parts split kept
  rw [convertChild, if_neg (by simp [introducesName, other])] at listed
  exact ⟨_, listed⟩

/-! ## Declarators -/

section Declarator

variable (named : node.isNamed = true) (declarator : node.kind = "variable_declarator")
include declarator

theorem nameField?_declarator : nameField? node.kind = some "name" := by
  rw [declarator]
  rfl

include named

theorem declarationName_mem_convert (source : Source) (place : Place)
    (found : node.child? "name" = some child) (identifier : child.kind = "identifier") :
    Node.leaf .declarationName (source.spanOf child) (source.textOf child) ∈
      (node.convert source place).children := by
  have parts := isUnit_eq_false named (by rw [declarator]; rfl) (mem_children_of_child? found)
  obtain ⟨filled, front, back, split, before⟩ := List.find?_eq_some_iff_append.mp found
  have listed := convertChild_mem_convert source place parts split
    (by simp [isComment, identifier])
  have introduced : child.introducesName node.kind front.reverse = true := by
    rw [decide_eq_true_eq] at filled
    simpa [introducesName, nameField?_declarator declarator, identifier, filled] using before
  rwa [convertChild, ← kind, if_pos introduced] at listed

theorem reference_mem_convert (source : Source) (place : Place)
    (none : node.child? "name" = none) (found : node.childOfKind? "identifier" = some child) :
    Node.leaf .reference (source.spanOf child) (source.textOf child) ∈
      (node.convert source place).children := by
  have member := mem_children_of_childOfKind? found
  have parts := isUnit_eq_false named (by rw [declarator]; rfl) member
  have identifier : child.kind = "identifier" := by simpa using List.find?_some found
  have isNamed : child.isNamed = true :=
    (List.mem_filter.mp (List.mem_of_find?_eq_some found)).2
  obtain ⟨front, back, split⟩ := List.append_of_mem member
  have listed := convertChild_mem_convert source place parts split
    (by simp [isComment, identifier])
  have unfilled : child.label.field ≠ some "name" := by
    simpa using List.find?_eq_none.mp none child member
  have noName : child.introducesName node.kind front.reverse = false := by
    simp [introducesName, nameField?_declarator declarator, unfilled]
  rw [convertChild, ← kind, if_neg (by simp [noName])] at listed
  rwa [convert_identifier isNamed identifier] at listed

end Declarator

theorem exists_declarator_below (source : Source) (place : Place)
    {declaration declarator : Concrete} (parts : node.isUnit = false)
    (found : node.childOfKind? "variable_declaration" = some declaration)
    (member : declarator ∈ declaration.namedChildren)
    (isDeclarator : declarator.kind = "variable_declarator") :
    ∃ inner : Place, (declarator.convert source inner).Below (node.convert source place) := by
  have kind : declaration.kind = "variable_declaration" := by simpa using List.find?_some found
  have named := (List.mem_filter.mp (List.mem_of_find?_eq_some found)).2
  have isChild := mem_children_of_mem_namedChildren member
  have alsoParts : declaration.isUnit = false :=
    isUnit_eq_false named (by rw [kind]; rfl) isChild
  obtain ⟨outer, outerMember⟩ := exists_convert_mem source place parts
    (mem_children_of_childOfKind? found) (by simp [isComment, kind]) (by simp [kind])
  obtain ⟨inner, innerMember⟩ := exists_convert_mem source outer alsoParts
    isChild (by simp [isComment, isDeclarator]) (by simp [isDeclarator])
  exact ⟨inner, .deeper (.child innerMember) outerMember⟩

/-! ## Names and uses -/

theorem Lexed.declares (lexed : tree.Lexed) {converted : Node}
    (within : converted.Within (tree.convert source place))
    (leaf : (Node.leaf .declarationName token.span token.text).Below converted) :
    Node.Declares (tree.convert source place) converted token := by
  have inTree := leaf.trans_within within
  have noUse (other : Node) (below : other.Within (tree.convert source place))
      (isUse : other.kind = .reference) : other.span ≠ token.span := by
    intro same
    have isName : other.isNameLeaf = true := by simp [Node.isNameLeaf, isUse]
    rw [lexed.eq_of_span_eq below isName (.inr inTree) rfl same] at isUse
    cases isUse
  refine ⟨leaf, noUse, ?_⟩
  rintro scope inside ⟨use, below, isUse, text⟩
  exact ⟨use, below, isUse, text, noUse use (.inr (below.trans_within inside)) isUse⟩

theorem Lexed.misreads (lexed : tree.Lexed) {converted : Node}
    (within : converted.Within (tree.convert source place))
    (leaf : (Node.leaf .reference token.span token.text).Below converted) :
    Node.Misreads (tree.convert source place) converted token := by
  have inTree := leaf.trans_within within
  refine ⟨leaf, ?_, ?_⟩
  · intro other below declared same
    have isName : other.isNameLeaf = true := by simp [Node.isNameLeaf, declared]
    rw [lexed.eq_of_span_eq below isName (.inr inTree) rfl same] at declared
    cases declared
  · intro scope inside
    exact ⟨_, leaf.trans_within inside, rfl, rfl⟩

end Concrete

/-- A name that a field or local lists comes from a declarator. If the declarator has a field for
it, the name is declared there and nowhere used at its own place. A pattern has no such field, and
what is listed for it is a use. -/
theorem declared_names_are_no_uses (source : Source) (place : Place) {tree : Concrete}
    (lexed : tree.Lexed) :
    ∀ node : Node, node.Within (tree.convert source place) →
      node.kind = .fieldDecl ∨ node.kind = .localDecl →
      ∀ token ∈ node.label.declarators, ∃ declarator : Concrete, declarator.Below tree ∧
        declarator.kind = "variable_declarator" ∧
        ((∃ name, declarator.child? "name" = some name ∧ token = name.token source ∧
            (name.kind = "identifier" → Node.Declares (tree.convert source place) node token)) ∨
          declarator.child? "name" = none ∧
            Node.Misreads (tree.convert source place) node token) := by
  intro node within _ token listed
  obtain ⟨origin, inTree, ⟨_, rfl⟩ | ⟨outer, parts, rfl⟩⟩ := Concrete.exists_origin_of_within within
  · cases listed
  · have declared : token ∈ origin.declaredNames source := by
      rw [Concrete.convert_of_parts parts] at listed
      exact Concrete.declarators_syntaxLabel listed
    obtain ⟨declaration, found, declarator, member, kind, chosen, isChosen, rfl⟩ :=
      Concrete.mem_declaredNames_iff.mp declared
    obtain ⟨inner, below⟩ := Concrete.exists_declarator_below source outer parts found member kind
    have inOrigin := Tree.Below.deeper (.child (Concrete.mem_children_of_mem_namedChildren member))
      (Concrete.mem_children_of_childOfKind? found)
    refine ⟨declarator, inOrigin.trans_within inTree, kind, ?_⟩
    have named := (List.mem_filter.mp member).2
    rcases Option.or_eq_some_iff.mp isChosen with name | ⟨none, first⟩
    · refine .inl ⟨chosen, name, rfl, fun identifier => ?_⟩
      have leaf := Concrete.declarationName_mem_convert named kind source inner name identifier
      exact lexed.declares within ((Tree.Below.child leaf).trans below)
    · refine .inr ⟨none, ?_⟩
      have leaf := Concrete.reference_mem_convert named kind source inner none first
      exact lexed.misreads within ((Tree.Below.child leaf).trans below)

namespace Concrete.Sample

def phrase (kind : String) (start stop : Nat) (parts : List Concrete) : Concrete :=
  .node { kind, named := true, start, stop } parts

def sign (kind : String) (start : Nat) : Concrete :=
  .node { kind, named := false, start, stop := start + 1 } []

def identifier (field : Option String) (start : Nat) : Concrete :=
  .node { kind := "identifier", named := true, field, start, stop := start + 1 } []

def initialised (start stop : Nat) (target : Concrete) : Concrete :=
  let type : Concrete :=
    .node { kind := "implicit_type", named := true, field := some "type", start, stop := start + 3 }
      [.node { kind := "var", named := false, start, stop := start + 3 } []]
  let declarator :=
    phrase "variable_declarator" (start + 4) (stop - 1)
      [target, sign "=" (stop - 4), identifier none (stop - 2)]
  phrase "local_declaration_statement" start stop
    [phrase "variable_declaration" start (stop - 1) [type, declarator], sign ";" (stop - 1)]

def pair (start : Nat) : Concrete :=
  phrase "tuple_pattern" start (start + 6)
    [sign "(" start, identifier (some "name") (start + 1), sign "," (start + 2),
     identifier (some "name") (start + 4), sign ")" (start + 5)]

def localsSource : Source := { text := "var n = t; var (x, y) = t;" }

def locals : Concrete :=
  phrase "compilation_unit" 0 26
    [phrase "global_statement" 0 10 [initialised 0 10 (identifier (some "name") 4)],
     phrase "global_statement" 11 26 [initialised 11 26 (pair 15)]]

end Concrete.Sample

open Concrete.Sample in
theorem declared_names_are_no_uses_initialised :
    let tree := locals.convert localsSource {}
    let token := (identifier (some "name") 4).token localsSource
    locals.Lexed ∧ ∃ node : Node, node.Within tree ∧ node.kind = .localDecl ∧
      token ∈ node.label.declarators ∧ Node.Declares tree node token := by
  intro tree token
  have lexed : locals.Lexed := by decide
  have found : ∃ node : Node, node ∈ tree.preorder ∧ node.kind = .localDecl ∧
      token ∈ node.label.declarators := by
    decide +kernel
  obtain ⟨node, member, isLocal, listed⟩ := found
  have within := Tree.mem_preorder.mp member
  refine ⟨lexed, node, within, isLocal, listed, ?_⟩
  obtain ⟨declarator, below, -, named | ⟨-, misreads⟩⟩ :=
    declared_names_are_no_uses localsSource {} lexed node within (.inr isLocal) token listed
  · obtain ⟨name, isName, same, declares⟩ := named
    have identifiers : ∀ part : Concrete, part ∈ locals.descendants →
        token = part.token localsSource → part.kind = "identifier" := by
      decide +kernel
    have inTree := (Tree.Below.child (Concrete.mem_children_of_child? isName)).trans below
    exact declares (identifiers name (Tree.mem_descendants.mpr inTree) same)
  · have declared : ∃ leaf : Node, leaf ∈ tree.preorder ∧ leaf.kind = .declarationName ∧
        leaf.span = token.span := by
      decide +kernel
    obtain ⟨leaf, member, isName, span⟩ := declared
    cases misreads.noName leaf (Tree.mem_preorder.mp member) isName span

open Concrete.Sample in
/-- The local with a pattern lists the use of its initial value, and no name of its own is declared
there. -/
theorem pattern_lists_use :
    let tree := locals.convert localsSource {}
    locals.Lexed ∧ ∃ node : Node, node ∈ tree.preorder ∧ node.kind = .localDecl ∧
      ∃ token ∈ node.label.declarators,
        (∀ leaf : Node, leaf ∈ node.descendants → leaf.kind = .declarationName →
          leaf.span ≠ token.span) ∧
        ∃ use : Node, use ∈ tree.preorder ∧ use.kind = .reference ∧ use.span = token.span ∧
          use.text = some token.text := by
  decide +kernel

end SharpLint
