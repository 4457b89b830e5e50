import SharpLint.Yaml.Node
import SharpLint.Yaml.Lexer

/-!
# Reading YAML

The tokens of a text are read by recursive descent: block collections, flow collections, and
sequences that stand at the column of the key they belong to. A text holds one document, possibly
after directives, and nothing after it but marks of its end.
-/

namespace SharpLint.Yaml

structure Reading where
  tokens : List Token
  handles : List (String × List UInt8)
  names : List (String × Nat) := []
  nameCount : Nat := 0
  /-- The slot and the number of every anchor, the latest first. -/
  slots : List (Nat × Nat) := []
  anchorCount : Nat := 0
  anchored : List (Nat × Node) := []

abbrev Reader := StateT Reading Option

namespace Reader

def peek : Reader (Option Token) := do return (← get).tokens.head?

def skip : Reader Unit := modify fun reading => { reading with tokens := reading.tokens.tail }

def accept (token : Token) : Reader Bool := do
  if (← peek) = some token then
    skip
    return true
  else return false

def expect (token : Token) : Reader Unit := do
  if !(← accept token) then failure

def nextIn (tokens : List Token) : Reader Bool := do
  return (← peek).any (tokens.contains ·)

def tag (handle : String) (suffix : List UInt8) : Reader (List UInt8) := do
  if handle = "" then return suffix
  else
    match (← get).handles.lookup handle with
    | some address => return address ++ suffix
    | none => failure

def declare (name : String) : Reader Nat := do
  let reading ← get
  let slot := reading.nameCount
  let number := reading.anchorCount
  set { reading with
    names := (name, slot) :: reading.names
    nameCount := if (reading.names.lookup name).isSome then slot else slot + 1
    slots := (slot, number) :: reading.slots
    anchorCount := number + 1 }
  return number

def mention (name : String) : Reader Nat := do
  match (← get).names.lookup name with
  | some slot => return slot
  | none => failure

def properties : Reader (Option String × Option (String × List UInt8)) := do
  match ← peek with
  | some (.anchor name) =>
    skip
    match ← peek with
    | some (.tag handle suffix) =>
      skip
      return (some name, some (handle, suffix))
    | _ => return (some name, none)
  | some (.tag handle suffix) =>
    skip
    match ← peek with
    | some (.anchor name) =>
      skip
      return (some name, some (handle, suffix))
    | _ => return (none, some (handle, suffix))
  | _ => return (none, none)

/-- The tag that a scalar keeps: an exclamation mark alone says nothing. -/
def scalarTag (tag : Option (List UInt8)) : Option (List UInt8) := tag.filter (· ≠ utf8 "!")

mutual

/-- A node. Block collections are allowed only outside flow collections, and a sequence without
indentation only as a part of a block mapping. -/
def node (block indentless : Bool) : Nat → Reader Node
  | 0 => failure
  | steps + 1 => do
    match ← peek with
    | some (.alias name) =>
      skip
      return .reference (← mention name)
    | _ =>
      let (anchor, properties) ← properties
      let tag ← properties.mapM fun (handle, suffix) => tag handle suffix
      let number ← anchor.mapM declare
      let node ← content block indentless (anchor.isSome || tag.isSome) tag steps
      match number with
      | some number =>
        modify fun reading => { reading with anchored := (number, node) :: reading.anchored }
      | none => pure ()
      return node

/-- A node without its anchor and tag; it may be left out only after one of them. -/
def content (block indentless mayBeEmpty : Bool) (tag : Option (List UInt8)) :
    Nat → Reader Node
  | 0 => failure
  | steps + 1 => do
    match ← peek with
    | some (.scalar style text) =>
      skip
      return .scalar style (scalarTag tag) text
    | some .flowSequenceStart =>
      skip
      return .sequence (← flowItems true steps)
    | some .flowMappingStart =>
      skip
      return .mapping (← flowEntries true steps)
    | next =>
      if indentless && next = some .blockEntry then
        return .sequence (← indentlessItems steps)
      else if block && next = some .blockSequenceStart then
        skip
        return .sequence (← blockItems steps)
      else if block && next = some .blockMappingStart then
        skip
        return .mapping (← blockEntries steps)
      else if mayBeEmpty then return .scalar .plain tag ""
      else failure

def nodeUnless (ends : List Token) (block indentless : Bool) : Nat → Reader Node
  | 0 => failure
  | steps + 1 => do
    if ← nextIn ends then return Node.empty else node block indentless steps

def blockItems : Nat → Reader (List Node)
  | 0 => failure
  | steps + 1 => do
    if ← accept .blockEnd then return []
    else
      expect .blockEntry
      let item ← nodeUnless [.blockEntry, .blockEnd] true false steps
      return item :: (← blockItems steps)

def indentlessItems : Nat → Reader (List Node)
  | 0 => failure
  | steps + 1 => do
    if ← accept .blockEntry then
      let item ← nodeUnless [.blockEntry, .key, .value, .blockEnd] true false steps
      return item :: (← indentlessItems steps)
    else return []

def blockEntries : Nat → Reader (List (Node × Node))
  | 0 => failure
  | steps + 1 => do
    if ← accept .blockEnd then return []
    else
      expect .key
      let key ← nodeUnless [.key, .value, .blockEnd] true true steps
      let value ←
        if ← accept .value then nodeUnless [.key, .value, .blockEnd] true true steps
        else pure Node.empty
      return (key, value) :: (← blockEntries steps)

def flowItems (first : Bool) : Nat → Reader (List Node)
  | 0 => failure
  | steps + 1 => do
    if ← accept .flowSequenceEnd then return []
    else
      if !first then expect .flowEntry
      if ← accept .flowSequenceEnd then return []
      else
        let item ←
          if ← accept .key then
            let key ←
              if ← nextIn [.value, .flowEntry, .flowSequenceEnd] then
                skip
                pure Node.empty
              else node false false steps
            let value ←
              if ← accept .value then nodeUnless [.flowEntry, .flowSequenceEnd] false false steps
              else pure Node.empty
            pure (.mapping [(key, value)])
          else node false false steps
        return item :: (← flowItems false steps)

def flowEntries (first : Bool) : Nat → Reader (List (Node × Node))
  | 0 => failure
  | steps + 1 => do
    if ← accept .flowMappingEnd then return []
    else
      if !first then expect .flowEntry
      if ← accept .flowMappingEnd then return []
      else
        let entry ←
          if ← accept .key then
            let key ← nodeUnless [.value, .flowEntry, .flowMappingEnd] false false steps
            let value ←
              if ← accept .value then nodeUnless [.flowEntry, .flowMappingEnd] false false steps
              else pure Node.empty
            pure (key, value)
          else
            pure (← node false false steps, Node.empty)
        return entry :: (← flowEntries false steps)

end

def knownHandles : List (String × List UInt8) :=
  [("!", utf8 "!"), ("!!", utf8 "tag:yaml.org,2002:")]

def directives (versionGiven : Bool) :
    List Token → Option (List (String × List UInt8) × List Token)
  | .versionDirective major minor :: rest =>
    if versionGiven || major ≠ 1 || (minor ≠ 1 && minor ≠ 2) then none else directives true rest
  | .tagDirective handle address :: rest =>
    (directives versionGiven rest).bind fun (handles, rest) =>
      if (handles.lookup handle).isSome then none else some ((handle, address) :: handles, rest)
  | rest => some ([], rest)

def document (handles : List (String × List UInt8)) (mayBeEmpty : Bool) (tokens : List Token) :
    Option Graph :=
  if mayBeEmpty && tokens.all (· = .documentEnd) then some { root := .empty }
  else
    (node true false (4 * tokens.length + 4) { tokens, handles := handles ++ knownHandles }).bind
      fun (root, reading) =>
        if reading.tokens.all (· = .documentEnd) then
          some { root, slots := reading.slots, anchored := reading.anchored }
        else none

end Reader

def Graph.ofTokens? (tokens : List Token) : Option Graph :=
  (Reader.directives false tokens).bind fun (handles, rest) =>
    match rest with
    | .documentStart :: rest => Reader.document handles true rest
    | rest =>
      if rest.length = tokens.length then Reader.document handles tokens.isEmpty rest else none

def Graph.ofString? (text : String) : Option Graph := (tokens? text).bind Graph.ofTokens?

end SharpLint.Yaml
