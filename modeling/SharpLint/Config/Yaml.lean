import SharpLint.Config.Decoder
import SharpLint.Yaml.Document

/-!
# Configurations as YAML

In YAML the type of a scalar shows in how it is written: text may be any scalar, while truth values
and counts are plain ones. Where nothing is written a record has no fields and a list no items.
-/

namespace SharpLint

namespace Yaml

def Graph.text? (graph : Graph) (node : Node) : Option String :=
  match graph.resolve? node with
  | some (.scalar _ _ text) => some text
  | _ => none

/-- The text of a scalar whose type may be other than text: a plain one, or a literal one with the
tag of the type. -/
def Graph.typedText? (graph : Graph) (typeName : String) (node : Node) : Option String :=
  match graph.resolve? node with
  | some (.scalar .plain _ text) => some text
  | some (.scalar .literal (some tag) text) =>
    if tag = utf8 ("tag:yaml.org,2002:" ++ typeName) then some text else none
  | _ => none

def boolOfText? (text : String) : Option Bool :=
  if ["true", "True", "TRUE"].contains text then some true
  else if ["false", "False", "FALSE"].contains text then some false
  else none

def digitValue? (base : Nat) (c : Char) : Option Nat := (hexDigit? c).filter (· < base)

def numberOfDigits? (base : Nat) (digits : List Char) : Option Nat :=
  if digits.isEmpty then none
  else
    ((digits.mapM (digitValue? base)).map fun values =>
      values.foldl (fun number value => number * base + value) 0).filter (· < UInt64.size)

/-- A count, in base ten or marked as hexadecimal, octal or binary. It may have a plus sign, and in
base ten no leading zero. -/
def countOfText? (text : String) : Option Nat :=
  let unsigned :=
    match text.toList with
    | '+' :: rest => rest
    | characters => characters
  match unsigned with
  | '0' :: 'x' :: digits => numberOfDigits? 16 digits
  | '0' :: 'o' :: digits => numberOfDigits? 8 digits
  | '0' :: 'b' :: digits => numberOfDigits? 2 digits
  | '0' :: _ :: _ => none
  | digits => numberOfDigits? 10 digits

def Graph.format (graph : Graph) : DataFormat Node where
  record? node :=
    match graph.resolve? node with
    | some (.mapping entries) =>
      (entries.mapM fun entry => (graph.text? entry.1).map (·, entry.2)).map .byName
    | some (.scalar .plain _ "") => some (.byName [])
    | _ => none
  list? node :=
    match graph.resolve? node with
    | some (.sequence items) => some items
    | some (.scalar .plain _ "") => some []
    | _ => none
  bool? node := (graph.typedText? "bool" node).bind boolOfText?
  count? node := (graph.typedText? "int" node).bind countOfText?
  string? := graph.text?

end Yaml

namespace Config

def ofYaml? (text : String) : Option Config :=
  (Yaml.Graph.ofString? text).bind fun graph => decode? graph.format graph.root

def defaultYaml : String :=
  let defaults : Config := {}
  String.join
    [s!"parallel: {defaults.parallel}\n",
     "parser:\n",
     s!"  allow_partial: {defaults.allowPartial}\n",
     "complexity:\n",
     s!"  max_complexity: {defaults.complexity.maxComplexity}\n",
     s!"  low_threshold: {defaults.complexity.lowThreshold}\n",
     "size:\n",
     s!"  max_lines: {defaults.size.maxLines}\n",
     s!"  max_parameters: {defaults.size.maxParameters}\n",
     "duplication:\n",
     s!"  min_statements: {defaults.duplication.minStatements}\n",
     s!"  preview_chars: {defaults.duplication.previewCharacters}\n",
     "naming:\n",
     "  extra_keywords: []\n",
     "disabled_analyzers: []\n",
     "excluded_paths: []\n"]

end Config

end SharpLint
