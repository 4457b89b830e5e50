import SharpLint.Proofs.Syntax.TokenYield
import SharpLint.Proofs.Tree.Relabelling

/-!
# Syntax trees without their places

`Node.unplaced` leaves the spans of a syntax tree out. What the checks ask a node for does not
depend on spans, so the answers stay the same, or are again answers without spans.
-/

namespace SharpLint

def Token.unplaced (token : Token) : Token := { token with span := {} }

def Node.Label.unplaced (label : Node.Label) : Node.Label :=
  { label with
    span := {}
    identifier := label.identifier.map Token.unplaced
    parameters := label.parameters.map Token.unplaced
    declarators := label.declarators.map Token.unplaced
    declaredType := label.declaredType.map Token.unplaced
    docComment := label.docComment.map Token.unplaced }

def Node.unplaced (node : Node) : Node := node.map Label.unplaced

@[simp] theorem Token.text_unplaced (token : Token) : token.unplaced.text = token.text := rfl

namespace Node

variable (node : Node)

@[simp] theorem label_unplaced : node.unplaced.label = node.label.unplaced := Tree.label_map _ node

@[simp] theorem children_unplaced : node.unplaced.children = node.children.map unplaced :=
  Tree.children_map _ node

@[simp] theorem descendants_unplaced : node.unplaced.descendants = node.descendants.map unplaced :=
  Tree.descendants_map _ node

theorem reached_unplaced (enters : Node → Bool) :
    Tree.reached enters node.unplaced =
      (Tree.reached (fun inner => enters (unplaced inner)) node).map unplaced :=
  Tree.reached_map _ enters node

@[simp] theorem kind_unplaced : node.unplaced.kind = node.kind := by
  rw [kind, label_unplaced]
  rfl

@[simp] theorem text_unplaced : node.unplaced.text = node.text := by
  rw [text, label_unplaced]
  rfl

@[simp] theorem hasModifier_unplaced (modifier : Modifier) :
    node.unplaced.hasModifier modifier = node.hasModifier modifier := by
  rw [hasModifier, label_unplaced]
  rfl

@[simp] theorem name_unplaced : node.unplaced.name = node.name := by
  rw [name, label_unplaced]
  simp only [Label.unplaced, Option.map_map]
  rfl

@[simp] theorem isMethod_unplaced : node.unplaced.isMethod = node.isMethod := by simp [isMethod]

@[simp] theorem isBlock_unplaced : node.unplaced.isBlock = node.isBlock := by simp [isBlock]

@[simp] theorem isBody_unplaced : node.unplaced.isBody = node.isBody := by simp [isBody]

@[simp] theorem isConstruct_unplaced : node.unplaced.isConstruct = node.isConstruct := by
  simp [isConstruct]

/-! ## Parts of a node -/

theorem find?_unplaced {condition : Node → Bool}
    (same : ∀ child : Node, condition child.unplaced = condition child) :
    node.unplaced.children.find? condition = (node.children.find? condition).map unplaced := by
  rw [children_unplaced, List.find?_map]
  congr 2
  exact funext same

@[simp] theorem body?_unplaced : node.unplaced.body? = node.body?.map unplaced :=
  node.find?_unplaced isBody_unplaced

@[simp] theorem block?_unplaced : node.unplaced.block? = node.block?.map unplaced :=
  node.find?_unplaced isBlock_unplaced

@[simp] theorem operand?_unplaced : node.unplaced.operand? = node.operand?.map unplaced :=
  node.find?_unplaced isConstruct_unplaced

@[simp] theorem statementCount_unplaced : node.unplaced.statementCount = node.statementCount := by
  simp [statementCount, List.countP_map, Function.comp_def]

theorem filter_descendants_unplaced {condition : Node → Bool}
    (same : ∀ inner : Node, condition inner.unplaced = condition inner) :
    node.unplaced.descendants.filter condition =
      (node.descendants.filter condition).map unplaced := by
  rw [descendants_unplaced, List.filter_map]
  congr 2
  exact funext same

@[simp] theorem methods_unplaced : node.unplaced.methods = node.methods.map unplaced :=
  node.filter_descendants_unplaced isMethod_unplaced

/-! ## Texts -/

@[simp] theorem tokens_unplaced : node.unplaced.tokens = node.tokens := by
  rw [tokens_eq_reached, tokens_eq_reached, reached_unplaced, List.filterMap_map]
  simp only [Function.comp_def, text_unplaced]

@[simp] theorem canonicalForm_unplaced : node.unplaced.canonicalForm = node.canonicalForm := by
  rw [canonicalForm, tokens_unplaced, canonicalForm]

@[simp] theorem references_unplaced (name : String) :
    node.unplaced.references name = node.references name := by
  simp [references, List.any_map, Function.comp_def]

end Node

end SharpLint
