import SharpLint.Proofs.Tree.Walks
import SharpLint.Syntax.Conversion

/-!
# The two ways of converting a node

A node of a concrete tree becomes a leaf with its text (`convert_of_unit`), or a node with a label
of its own over its converted children (`convert_of_parts`). Of its children, comments are left out
and names that it introduces become leaves (`convertAll_becomes`). So all that there is in a
converted tree are such leaves, and nodes that have been converted at some place
(`exists_origin_of_within`).
-/

namespace SharpLint

theorem exists_related_of_mem {α β : Type*} {relation : α → β → Prop} {front : List α}
    {back : List β} (related : List.Forall₂ relation front back) {second : β}
    (member : second ∈ back) : ∃ first ∈ front, relation first second := by
  induction related with
  | nil => cases member
  | cons here _ ih =>
      rcases List.mem_cons.mp member with rfl | later
      · exact ⟨_, List.mem_cons_self, here⟩
      · obtain ⟨first, present, there⟩ := ih later
        exact ⟨first, List.mem_cons_of_mem _ present, there⟩

theorem Node.eq_of_within_leaf {kind : Kind} {span : Span} {text : String} {node : Node}
    (within : node.Within (Node.leaf kind span text)) : node = .leaf kind span text := by
  rcases within with rfl | below
  · rfl
  · obtain ⟨child, member, -⟩ := below.exists_child
    cases member

namespace Concrete

/-- Conversion does not go into the node. -/
def isUnit (node : Concrete) : Bool :=
  !node.isNamed || (leafKind? node.kind).isSome || node.children.isEmpty

variable {source : Source} {place : Place} {node : Concrete}

theorem convert_of_unit (unit : node.isUnit = true) :
    ∃ kind, node.convert source place =
      .leaf kind (source.spanOf node) (source.textOf node) := by
  cases node with
  | node label children =>
      rw [convert]
      split
      · exact ⟨_, rfl⟩
      · split
        · exact ⟨_, rfl⟩
        · split
          · exact ⟨_, rfl⟩
          · simp_all [isUnit, isNamed, kind, Tree.label, Tree.children]

theorem convert_of_parts (parts : node.isUnit = false) :
    node.convert source place =
      .node (node.syntaxLabel source place)
        (convertAll source node.label place.before
          (place.container.inside node.kind (node.syntaxKind source)) [] node.children) := by
  cases node with
  | node label children =>
      simp only [isUnit, isNamed, kind, Tree.label, Tree.children, Bool.or_eq_false_iff,
        Bool.not_eq_false', Option.isSome_eq_false_iff, Option.isNone_iff_eq_none] at parts
      obtain ⟨⟨named, noLeaf⟩, inhabited⟩ := parts
      rw [convert, named, noLeaf, inhabited]
      rfl

def convertChild (source : Source) (parent : Concrete.Label) (parentBefore : List Concrete)
    (container : Container) (before : List Concrete) (child : Concrete) : Node :=
  if child.introducesName parent.kind before then
    .leaf .declarationName (source.spanOf child) (source.textOf child)
  else child.convert source { container, before, parent := some (parent, parentBefore) }

theorem convertAll_cons (source : Source) (parent : Concrete.Label) (parentBefore : List Concrete)
    (container : Container) (before rest : List Concrete) (child : Concrete) :
    convertAll source parent parentBefore container before (child :: rest) =
      (if child.isComment then []
        else [child.convertChild source parent parentBefore container before]) ++
      convertAll source parent parentBefore container (child :: before) rest := by
  rw [convertAll, convertChild]
  split
  · rfl
  · split <;> rfl

/-- What a child that is no comment becomes: the leaf of a name that its parent introduces, or its
own conversion at some place. -/
inductive Becomes (source : Source) (child : Concrete) : Node → Prop where
  | name (identifier : child.kind = "identifier") :
      Becomes source child
        (.leaf .declarationName (source.spanOf child) (source.textOf child))
  | converted (place : Place) : Becomes source child (child.convert source place)

theorem becomes_convertChild (source : Source) (parent : Concrete.Label)
    (parentBefore : List Concrete) (container : Container) (before : List Concrete)
    (child : Concrete) :
    child.Becomes source (child.convertChild source parent parentBefore container before) := by
  unfold convertChild
  split
  · rename_i introduced
    simp only [introducesName, Bool.and_eq_true, decide_eq_true_eq] at introduced
    exact .name introduced.1
  · exact .converted _

theorem convertAll_becomes (source : Source) (parent : Concrete.Label)
    (parentBefore : List Concrete) (container : Container) (before children : List Concrete) :
    List.Forall₂ (Becomes source) (children.filter (!isComment ·))
      (convertAll source parent parentBefore container before children) := by
  induction children generalizing before with
  | nil => exact .nil
  | cons child rest ih =>
      rw [convertAll_cons]
      by_cases comment : child.isComment = true
      · rw [if_pos comment, List.filter_cons_of_neg (by simp [comment])]
        exact ih _
      · rw [if_neg comment, List.filter_cons_of_pos (by simp [comment])]
        exact .cons (becomes_convertChild source parent parentBefore container before child) (ih _)

theorem exists_becomes_of_mem {parent : Concrete.Label} {parentBefore : List Concrete}
    {container : Container} {before children : List Concrete} {converted : Node}
    (member : converted ∈ convertAll source parent parentBefore container before children) :
    ∃ child ∈ children, child.Becomes source converted := by
  obtain ⟨child, kept, becomes⟩ :=
    exists_related_of_mem (convertAll_becomes source _ _ _ _ _) member
  exact ⟨child, (List.mem_filter.mp kept).1, becomes⟩

theorem exists_origin_of_within {converted : Node}
    (within : converted.Within (node.convert source place)) :
    ∃ origin : Concrete, origin.Within node ∧
      ((∃ kind, converted = .leaf kind (source.spanOf origin) (source.textOf origin)) ∨
        ∃ inner : Place, origin.isUnit = false ∧ converted = origin.convert source inner) := by
  induction node using Tree.induction generalizing place with
  | node label children ih =>
      cases unit : isUnit (.node label children) with
      | true =>
          obtain ⟨kind, leaf⟩ := convert_of_unit unit
          rw [leaf] at within
          exact ⟨_, .inl rfl, .inl ⟨kind, Node.eq_of_within_leaf within⟩⟩
      | false =>
          rcases within with rfl | below
          · exact ⟨_, .inl rfl, .inr ⟨place, unit, rfl⟩⟩
          · rw [convert_of_parts unit] at below
            obtain ⟨inside, member, within⟩ := below.exists_child
            obtain ⟨child, isChild, becomes⟩ := exists_becomes_of_mem member
            cases becomes with
            | name => exact ⟨child, .inr (.child isChild), .inl ⟨_, Node.eq_of_within_leaf within⟩⟩
            | converted place =>
                obtain ⟨origin, lower, verdict⟩ := ih child isChild within
                exact ⟨origin, .inr (lower.below isChild), verdict⟩

end Concrete

end SharpLint
