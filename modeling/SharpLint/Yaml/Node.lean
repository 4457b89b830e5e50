import SharpLint.Yaml.Token

/-!
# What a YAML text says

A text stands for a graph: nodes are scalars, sequences and mappings, and a node with an anchor may
be referred to from elsewhere, even from inside itself. The anchors have slots: the slot of an
anchor is the number of names that anchors had before it. A name that is used again thus moves to
another slot, which it shares with the next new name, and of the nodes with one slot all mentions
mean the last.
-/

namespace SharpLint.Yaml

inductive Node where
  | scalar (style : ScalarStyle) (tag : Option (List UInt8)) (text : String)
  | sequence (items : List Node)
  | mapping (entries : List (Node × Node))
  /-- A mention of the node with an anchor of this slot. -/
  | reference (slot : Nat)

def Node.empty : Node := .scalar .plain none ""

structure Graph where
  root : Node
  slots : List (Nat × Nat) := []
  anchored : List (Nat × Node) := []

def Graph.resolve? (graph : Graph) : Node → Option Node
  | .reference slot => (graph.slots.lookup slot).bind fun anchor => graph.anchored.lookup anchor
  | node => some node

end SharpLint.Yaml
