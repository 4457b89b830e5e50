import SharpLint.Proofs.Check.Reports
import SharpLint.Proofs.Syntax.Conversion

/-!
# Where a converted tree comes from

Every node of a converted tree takes its span from a node of the concrete tree, and every name it
declares takes its text and its span from one and the same node (`originates_of_within`).
-/

namespace SharpLint

/-- The span of the node and the names it declares are those of nodes in the concrete tree. -/
structure Node.Originates (source : Source) (tree : Concrete) (node : Node) : Prop where
  span : ∃ origin : Concrete, origin.Within tree ∧ node.span = source.spanOf origin
  tokens : ∀ token ∈ node.declaredTokens,
    ∃ origin : Concrete, origin.Within tree ∧ token = origin.token source

theorem Node.Originates.of_within {source : Source} {inner tree : Concrete} {node : Node}
    (originates : node.Originates source inner) (upper : inner.Within tree) :
    node.Originates source tree := by
  obtain ⟨⟨origin, lower, span⟩, tokens⟩ := originates
  refine ⟨⟨origin, lower.trans upper, span⟩, ?_⟩
  intro token declared
  obtain ⟨origin, lower, same⟩ := tokens token declared
  exact ⟨origin, lower.trans upper, same⟩

theorem Node.originates_leaf (source : Source) (tree : Concrete) (kind : Kind) (text : String) :
    (Node.leaf kind (source.spanOf tree) text).Originates source tree := by
  exact ⟨⟨tree, .inl rfl, rfl⟩, by simp [Node.leaf, Node.declaredTokens, Tree.label]⟩

namespace Concrete

variable {source : Source} {place : Place} {node child : Concrete} {token : Token}

/-! ## Parts of a node -/

theorem mem_children_of_child? {field : String} (found : node.child? field = some child) :
    child ∈ node.children :=
  List.mem_of_find?_eq_some found

theorem mem_children_of_mem_namedChildren (member : child ∈ node.namedChildren) :
    child ∈ node.children :=
  (List.mem_filter.mp member).1

theorem mem_children_of_childOfKind? {kind : String} (found : node.childOfKind? kind = some child) :
    child ∈ node.children :=
  mem_children_of_mem_namedChildren (List.mem_of_find?_eq_some found)

theorem mem_children_of_lastChildOfKind? {kind : String}
    (found : node.lastChildOfKind? kind = some child) : child ∈ node.children :=
  mem_children_of_mem_namedChildren
    (List.mem_filter.mp (List.mem_of_getLast? found)).1

/-! ## Declared names -/

theorem mem_parameterNames (declared : token ∈ node.parameterNames source) :
    ∃ origin : Concrete, origin.Below node ∧ token = origin.token source := by
  unfold parameterNames at declared
  split at declared
  · cases declared
  · rename_i list found
    have member : list ∈ node.children := by
      rcases Option.or_eq_some_iff.mp found with filled | ⟨-, ofKind⟩
      · exact mem_children_of_child? filled
      · exact mem_children_of_childOfKind? ofKind
    obtain ⟨parameter, named, introduced⟩ := List.mem_filterMap.mp declared
    split at introduced
    · obtain ⟨origin, chosen, rfl⟩ := Option.map_eq_some_iff.mp introduced
      have inside : origin ∈ parameter.children := by
        rcases Option.or_eq_some_iff.mp chosen with filled | ⟨-, ofKind⟩
        · exact mem_children_of_child? filled
        · exact mem_children_of_lastChildOfKind? ofKind
      have below := Tree.Below.deeper (.child inside) (mem_children_of_mem_namedChildren named)
      exact ⟨origin, .deeper below member, rfl⟩
    · cases introduced

theorem mem_declaredNames_iff :
    token ∈ node.declaredNames source ↔
      ∃ declaration, node.childOfKind? "variable_declaration" = some declaration ∧
      ∃ declarator ∈ declaration.namedChildren, declarator.kind = "variable_declarator" ∧
      ∃ origin, (declarator.child? "name").or (declarator.childOfKind? "identifier") =
        some origin ∧ token = origin.token source := by
  unfold declaredNames
  split
  · rename_i none
    simp [none]
  · rename_i declaration found
    simp only [found, List.mem_filterMap, Option.some.injEq, exists_eq_left',
      Option.ite_none_right_eq_some, Option.map_eq_some_iff]
    simp [eq_comm (b := token)]

theorem mem_declaredNames (declared : token ∈ node.declaredNames source) :
    ∃ origin : Concrete, origin.Below node ∧ token = origin.token source := by
  obtain ⟨declaration, found, declarator, named, -, origin, chosen, rfl⟩ :=
    mem_declaredNames_iff.mp declared
  have inside : origin ∈ declarator.children := by
    rcases Option.or_eq_some_iff.mp chosen with filled | ⟨-, ofKind⟩
    · exact mem_children_of_child? filled
    · exact mem_children_of_childOfKind? ofKind
  have below := Tree.Below.deeper (.child inside) (mem_children_of_mem_namedChildren named)
  exact ⟨origin, .deeper below (mem_children_of_childOfKind? found), rfl⟩

theorem identifier_origin (declared : (node.syntaxLabel source place).identifier = some token) :
    ∃ origin : Concrete, origin.Below node ∧ token = origin.token source := by
  have ofName (named : (node.child? "name").map (Concrete.token source) = some token) :
      ∃ origin : Concrete, origin.Below node ∧ token = origin.token source := by
    obtain ⟨name, found, rfl⟩ := Option.map_eq_some_iff.mp named
    exact ⟨name, .child (mem_children_of_child? found), rfl⟩
  unfold syntaxLabel at declared
  dsimp only [declarationLabel] at declared
  split at declared
  · exact ofName declared
  · exact ofName declared
  · exact ofName declared
  · exact ofName declared
  · exact mem_declaredNames (List.mem_of_mem_head? declared)
  · cases declared
  · obtain ⟨name, found, rfl⟩ := Option.map_eq_some_iff.mp declared
    obtain ⟨declaration, isChild, filled⟩ := Option.bind_eq_some_iff.mp found
    exact ⟨name, .deeper (.child (mem_children_of_child? filled))
      (mem_children_of_childOfKind? isChild), rfl⟩
  · cases declared
  · cases declared

theorem parameters_syntaxLabel (declared : token ∈ (node.syntaxLabel source place).parameters) :
    token ∈ node.parameterNames source := by
  unfold syntaxLabel at declared
  dsimp only [declarationLabel] at declared
  split at declared <;> simp_all

theorem declarators_syntaxLabel (declared : token ∈ (node.syntaxLabel source place).declarators) :
    token ∈ node.declaredNames source := by
  unfold syntaxLabel at declared
  dsimp only [declarationLabel] at declared
  split at declared <;> simp_all

theorem span_syntaxLabel (source : Source) (place : Place) (node : Concrete) :
    (node.syntaxLabel source place).span = source.spanOf node := by
  unfold syntaxLabel
  dsimp only [declarationLabel]
  split <;> rfl

theorem originates_syntaxLabel (source : Source) (place : Place) (node : Concrete)
    (children : List Node) :
    Node.Originates source node (.node (node.syntaxLabel source place) children) := by
  refine ⟨⟨node, .inl rfl, span_syntaxLabel source place node⟩, ?_⟩
  intro token declared
  have below : ∃ origin : Concrete, origin.Below node ∧ token = origin.token source := by
    simp only [Node.declaredTokens, List.mem_append, Option.mem_toList] at declared
    rcases declared with (identifier | parameter) | declarator
    · exact identifier_origin identifier
    · exact mem_parameterNames (parameters_syntaxLabel parameter)
    · exact mem_declaredNames (declarators_syntaxLabel declarator)
  obtain ⟨origin, below, same⟩ := below
  exact ⟨origin, .inr below, same⟩

/-! ## Converted trees -/

theorem originates_of_within {converted : Node}
    (within : converted.Within (node.convert source place)) :
    converted.Originates source node := by
  obtain ⟨origin, inTree, ⟨kind, rfl⟩ | ⟨inner, parts, rfl⟩⟩ := exists_origin_of_within within
  · exact (Node.originates_leaf source origin kind _).of_within inTree
  · rw [convert_of_parts parts]
    exact (originates_syntaxLabel source inner origin _).of_within inTree

end Concrete

end SharpLint
