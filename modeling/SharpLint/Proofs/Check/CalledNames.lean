import SharpLint.Proofs.Check.DeadDeclarations

/-!
# Called names

A `Callee` is a dotted sequence of segments, each of them a name that may have type arguments. Its
text can be read in one way only (`Callee.text_injective`), so there is a last segment to speak of.

The called name is what stands before the first opening bracket and after the last dot there
(`calledName_eq_iff`). That is the name of the last segment if no other one has type arguments, and
otherwise the name of the first one that has some (`called_name_ends_at_arguments`): what stands
behind a generic qualifier is not looked at (`generic_qualifier_is_called`).
-/

namespace SharpLint.Check.Unused

/-- Every bracket that is opened is closed, and none is closed before it is opened. -/
def Balanced (cs : List Char) : Prop :=
  cs.count '<' = cs.count '>' ∧ ∀ front ∈ cs.inits, front.count '>' ≤ front.count '<'

instance (cs : List Char) : Decidable (Balanced cs) := inferInstanceAs (Decidable (_ ∧ _))

/-- A name, and what stands between the brackets of its type arguments if it has some. -/
@[ext]
structure Segment where
  name : String
  arguments : Option String := none
  bare : '.' ∉ name.toList ∧ '<' ∉ name.toList ∧ '>' ∉ name.toList := by decide
  balanced : ∀ inner ∈ arguments, Balanced inner.toList := by decide

def Segment.text (segment : Segment) : String :=
  segment.name ++ (segment.arguments.elim "" fun inner => "<" ++ inner ++ ">")

/-- A dotted sequence of segments, of which there is at least one. -/
structure Callee where
  qualifiers : List Segment
  last : Segment

namespace Callee

def text (callee : Callee) : String :=
  ".".intercalate ((callee.qualifiers ++ [callee.last]).map Segment.text)

/-- The first segment that has type arguments, or the last one if none has. -/
def called (callee : Callee) : Segment :=
  (callee.qualifiers.find? (·.arguments.isSome)).getD callee.last

/-- No segment but the last one has type arguments. -/
def Plain (callee : Callee) : Prop :=
  ∀ segment ∈ callee.qualifiers, segment.arguments = none

end Callee

def CallsPlainly (root : Node) : Prop :=
  ∀ node : Node, node.Below root → ∀ text arguments, node.kind = .invocation text arguments →
    ∃ callee : Callee, callee.text = text ∧ callee.Plain

/-! ## Reading a callee -/

theorem Balanced.not_append {inner rest : List Char} (balanced : Balanced inner) :
    ¬Balanced (inner ++ '>' :: rest) := by
  rintro ⟨-, opened⟩
  have excess := opened (inner ++ ['>']) ((List.mem_inits _ _).mpr ⟨rest, by simp⟩)
  have closed := balanced.1
  simp at excess
  omega

theorem Balanced.eq_of_append {inner other rest otherRest : List Char} (balanced : Balanced inner)
    (otherBalanced : Balanced other) (same : inner ++ '>' :: rest = other ++ '>' :: otherRest) :
    inner = other ∧ rest = otherRest := by
  -- If one were longer, it would close a bracket that it has not opened.
  rcases List.append_eq_append_iff.mp same with ⟨more, rfl, left⟩ | ⟨more, rfl, left⟩
  · cases more with
    | nil => exact ⟨by simp, by simpa using left⟩
    | cons c more =>
        obtain ⟨rfl, -⟩ := List.cons.inj left
        exact absurd otherBalanced balanced.not_append
  · cases more with
    | nil => exact ⟨by simp, by simpa using left.symm⟩
    | cons c more =>
        obtain ⟨rfl, -⟩ := List.cons.inj left
        exact absurd balanced otherBalanced.not_append

namespace Segment

def brackets (segment : Segment) : List Char :=
  segment.arguments.elim [] fun inner => '<' :: inner.toList ++ ['>']

theorem toList_text (segment : Segment) :
    segment.text.toList = segment.name.toList ++ segment.brackets := by
  rw [text, brackets, String.toList_append]
  cases segment.arguments <;> simp

theorem mem_head?_brackets {segment : Segment} {c : Char} (member : c ∈ segment.brackets.head?) :
    c = '<' := by
  unfold brackets at member
  cases arguments : segment.arguments with
  | none => simp [arguments] at member
  | some inner => simpa [arguments, eq_comm] using member

theorem takeWhile_text (segment : Segment) {rest : List Char} (ends : ∀ c ∈ rest.head?, c = '.') :
    (segment.text.toList ++ rest).takeWhile (fun c => c != '.' && c != '<') =
      segment.name.toList := by
  rw [toList_text, List.append_assoc, Text.takeWhile_eq_iff]
  refine ⟨segment.brackets ++ rest, rfl, ?_, ?_⟩
  · intro c member
    have undotted : c ≠ '.' := ne_of_mem_of_not_mem member segment.bare.1
    have unopened : c ≠ '<' := ne_of_mem_of_not_mem member segment.bare.2.1
    simp [undotted, unopened]
  · intro c member
    rw [List.head?_append, Option.mem_def, Option.or_eq_some_iff] at member
    rcases member with opening | ⟨-, follows⟩
    · simp [mem_head?_brackets opening]
    · simp [ends c follows]

theorem eq_of_brackets_append {segment other : Segment} {rest otherRest : List Char}
    (ends : ∀ c ∈ rest.head?, c = '.') (otherEnds : ∀ c ∈ otherRest.head?, c = '.')
    (same : segment.brackets ++ rest = other.brackets ++ otherRest) :
    segment.arguments = other.arguments ∧ rest = otherRest := by
  unfold brackets at same
  cases arguments : segment.arguments with
  | none =>
      cases otherArguments : other.arguments with
      | none => simpa [arguments, otherArguments] using same
      | some otherInner =>
          simp only [arguments, otherArguments, Option.elim_none, Option.elim_some] at same
          exact absurd (ends '<' (by simpa using congrArg List.head? same)) (by decide)
  | some inner =>
      cases otherArguments : other.arguments with
      | none =>
          simp only [arguments, otherArguments, Option.elim_none, Option.elim_some] at same
          exact absurd (otherEnds '<' (by simpa using congrArg List.head? same.symm)) (by decide)
      | some otherInner =>
          simp only [arguments, otherArguments, Option.elim_some, List.cons_append,
            List.append_assoc, List.nil_append, List.cons.injEq, true_and] at same
          obtain ⟨inners, rests⟩ := (segment.balanced inner arguments).eq_of_append
            (other.balanced otherInner otherArguments) same
          exact ⟨congrArg some (String.toList_inj.mp inners), rests⟩

theorem eq_of_text_append {segment other : Segment} {rest otherRest : List Char}
    (ends : ∀ c ∈ rest.head?, c = '.') (otherEnds : ∀ c ∈ otherRest.head?, c = '.')
    (same : segment.text.toList ++ rest = other.text.toList ++ otherRest) :
    segment = other ∧ rest = otherRest := by
  have names : segment.name.toList = other.name.toList := by
    rw [← segment.takeWhile_text ends, same, other.takeWhile_text otherEnds]
  rw [toList_text, toList_text, names, List.append_assoc, List.append_assoc] at same
  obtain ⟨arguments, rests⟩ :=
    eq_of_brackets_append ends otherEnds (List.append_cancel_left same)
  exact ⟨Segment.ext (String.toList_inj.mp names) arguments, rests⟩

theorem denotes_text_append (segment : Segment) {rest : List Char}
    (ends : segment.arguments = none → rest = []) :
    Denotes (segment.text.toList ++ rest) segment.name.toList := by
  refine ⟨[], segment.brackets ++ rest, ?_, segment.bare.2.1, segment.bare.1, ?_, ?_⟩
  · simp [toList_text]
  · simp
  · intro c member
    rw [List.head?_append, Option.mem_def, Option.or_eq_some_iff] at member
    rcases member with opening | ⟨unopened, follows⟩
    · exact mem_head?_brackets opening
    · unfold brackets at unopened
      cases arguments : segment.arguments with
      | none => simp [ends arguments] at follows
      | some inner => simp [arguments] at unopened

end Segment

theorem Denotes.qualified {qualifier text name : List Char} (denoted : Denotes text name)
    (unopened : '<' ∉ qualifier) : Denotes (qualifier ++ '.' :: text) name := by
  obtain ⟨front, back, rfl, unopenedName, undotted, starts, ends⟩ := denoted
  refine ⟨qualifier ++ '.' :: front, back, by simp, ?_, undotted, ?_, ends⟩
  · simp_all
  · intro c member
    rw [List.getLast?_append_of_ne_nil _ (List.cons_ne_nil _ _)] at member
    cases front with
    | nil => simpa using member.symm
    | cons first front => exact starts c (by simpa [List.getLast?_cons_cons] using member)

namespace Callee

theorem toList_text_nil (last : Segment) :
    (Callee.mk [] last).text.toList = last.text.toList ++ [] := by
  simp [text]

theorem toList_text_cons (qualifier : Segment) (qualifiers : List Segment) (last : Segment) :
    (Callee.mk (qualifier :: qualifiers) last).text.toList =
      qualifier.text.toList ++ '.' :: (Callee.mk qualifiers last).text.toList := by
  cases qualifiers <;> simp [text, String.intercalate_cons_cons]

theorem text_injective {callee other : Callee} (same : callee.text = other.text) :
    callee = other := by
  obtain ⟨qualifiers, last⟩ := callee
  obtain ⟨otherQualifiers, otherLast⟩ := other
  have spelled := congrArg String.toList same
  clear same
  induction qualifiers generalizing otherQualifiers with
  | nil =>
      rw [toList_text_nil] at spelled
      cases otherQualifiers with
      | nil =>
          rw [toList_text_nil] at spelled
          obtain ⟨rfl, -⟩ := Segment.eq_of_text_append (by simp) (by simp) spelled
          rfl
      | cons otherQualifier otherQualifiers =>
          rw [toList_text_cons] at spelled
          obtain ⟨-, impossible⟩ := Segment.eq_of_text_append (by simp) (by simp) spelled
          cases impossible
  | cons qualifier qualifiers ih =>
      rw [toList_text_cons] at spelled
      cases otherQualifiers with
      | nil =>
          rw [toList_text_nil] at spelled
          obtain ⟨-, impossible⟩ := Segment.eq_of_text_append (by simp) (by simp) spelled
          cases impossible
      | cons otherQualifier otherQualifiers =>
          rw [toList_text_cons] at spelled
          obtain ⟨rfl, rest⟩ := Segment.eq_of_text_append (by simp) (by simp) spelled
          obtain ⟨rfl, rfl⟩ := Callee.mk.inj (ih otherQualifiers (List.cons.inj rest).2)
          rfl

theorem denotes_called (callee : Callee) :
    Denotes callee.text.toList callee.called.name.toList := by
  obtain ⟨qualifiers, last⟩ := callee
  induction qualifiers with
  | nil =>
      rw [toList_text_nil]
      exact last.denotes_text_append fun _ => rfl
  | cons qualifier qualifiers ih =>
      rw [toList_text_cons]
      -- A qualifier is passed over up to its dot, unless a bracket comes before.
      cases arguments : qualifier.arguments with
      | none =>
          have same : (Callee.mk (qualifier :: qualifiers) last).called =
              (Callee.mk qualifiers last).called := by simp [called, arguments]
          have plain : qualifier.text.toList = qualifier.name.toList := by
            simp [Segment.toList_text, Segment.brackets, arguments]
          rw [same, plain]
          exact ih.qualified qualifier.bare.2.1
      | some inner =>
          have same : (Callee.mk (qualifier :: qualifiers) last).called = qualifier := by
            simp [called, arguments]
          rw [same]
          exact qualifier.denotes_text_append (by simp [arguments])

theorem Plain.called_eq {callee : Callee} (plain : callee.Plain) : callee.called = callee.last := by
  have none : callee.qualifiers.find? (·.arguments.isSome) = none := by
    rw [List.find?_eq_none]
    intro segment member
    simp [plain segment member]
  rw [called, none, Option.getD_none]

end Callee

theorem calledName_text (callee : Callee) : calledName callee.text = callee.called.name :=
  calledName_eq_iff.mpr callee.denotes_called

theorem denotes_text_iff {callee : Callee} {name : String} :
    Denotes callee.text.toList name.toList ↔ callee.called.name = name := by
  rw [← calledName_eq_iff, calledName_text]

theorem calledName_text_eq_last_iff (callee : Callee) :
    calledName callee.text = callee.last.name ↔
      ∀ first, callee.qualifiers.find? (·.arguments.isSome) = some first →
        first.name = callee.last.name := by
  rw [calledName_text, Callee.called]
  cases callee.qualifiers.find? (·.arguments.isSome) <;> simp

/-! ## Calls -/

theorem calls_iff {root : Node} {name : String} :
    Calls root name ↔
      ∃ node : Node, node.Below root ∧ ∃ text arguments, node.kind = .invocation text arguments ∧
        ((∃ callee : Callee, callee.text = text ∧ callee.called.name = name) ∨
          (∀ callee : Callee, callee.text ≠ text) ∧ Denotes text.toList name.toList) := by
  refine exists_congr fun node => and_congr_right fun _ => exists_congr fun text =>
    exists_congr fun arguments => and_congr_right fun _ => ?_
  constructor
  · intro denoted
    by_cases dotted : ∃ callee : Callee, callee.text = text
    · obtain ⟨callee, rfl⟩ := dotted
      exact .inl ⟨callee, rfl, denotes_text_iff.mp denoted⟩
    · exact .inr ⟨fun callee same => dotted ⟨callee, same⟩, denoted⟩
  · rintro (⟨callee, rfl, same⟩ | ⟨-, denoted⟩)
    · exact denotes_text_iff.mpr same
    · exact denoted

theorem CallsPlainly.calls_iff {root : Node} {name : String} (plainly : CallsPlainly root) :
    Calls root name ↔
      ∃ node : Node, node.Below root ∧ ∃ (callee : Callee) (arguments : Nat),
        node.kind = .invocation callee.text arguments ∧ callee.last.name = name := by
  refine exists_congr fun node => and_congr_right fun below => ?_
  constructor
  · rintro ⟨text, arguments, kind, denoted⟩
    obtain ⟨callee, rfl, plain⟩ := plainly node below text arguments kind
    refine ⟨callee, arguments, kind, ?_⟩
    rw [← plain.called_eq, denotes_text_iff.mp denoted]
  · rintro ⟨callee, arguments, kind, same⟩
    -- There is only one way to read the callee, so it has no generic qualifier either.
    obtain ⟨reading, spelled, plain⟩ := plainly node below callee.text arguments kind
    obtain rfl := Callee.text_injective spelled
    refine ⟨reading.text, arguments, kind, denotes_text_iff.mpr ?_⟩
    rw [plain.called_eq, same]

/-- The name that is called is that of the first segment with type arguments, or of the last segment
if none has some; so it is the last one's exactly if the first generic qualifier, if there is one,
has the same name. A name is called if some callee below the root gives it, and where no qualifier
is generic, if it is the name of the last segment of one. -/
theorem called_name_ends_at_arguments (callee : Callee) (root : Node) (name : String) :
    calledName callee.text = callee.called.name ∧
    (calledName callee.text = callee.last.name ↔
      ∀ first, callee.qualifiers.find? (·.arguments.isSome) = some first →
        first.name = callee.last.name) ∧
    (isCalled root name = true ↔
      ∃ node : Node, node.Below root ∧ ∃ text arguments, node.kind = .invocation text arguments ∧
        ((∃ reading : Callee, reading.text = text ∧ reading.called.name = name) ∨
          (∀ reading : Callee, reading.text ≠ text) ∧ Denotes text.toList name.toList)) ∧
    (CallsPlainly root → (isCalled root name = true ↔
      ∃ node : Node, node.Below root ∧ ∃ (reading : Callee) (arguments : Nat),
        node.kind = .invocation reading.text arguments ∧ reading.last.name = name)) := by
  refine ⟨calledName_text callee, calledName_text_eq_last_iff callee, ?_, ?_⟩
  · exact isCalled_iff.trans calls_iff
  · intro plainly
    exact isCalled_iff.trans plainly.calls_iff

namespace Sample

def mapping : Callee where
  qualifiers := [{ name := "a" }, { name := "b" }]
  last := { name := "Map", arguments := "List<int>" }

def mappingCall : Node := .node { kind := .invocation mapping.text 1 } []

def mappingRoot : Node := .node { kind := .compilationUnit } [mappingCall]

def loading : Callee where
  qualifiers := [{ name := "Cache", arguments := "int" }]
  last := { name := "Load" }

def loadMethod : Node :=
  .node { kind := .methodDecl, modifiers := [.privateAccess], identifier := some ⟨"Load", {}⟩ } []

def loadingRoot : Node :=
  .node { kind := .compilationUnit }
    [loadMethod, .node { kind := .invocation loading.text 0 } []]

end Sample

open Unused.Sample in
theorem called_name_ends_at_arguments_nested :
    mapping.text = "a.b.Map<List<int>>" ∧ calledName mapping.text = "Map" ∧
    CallsPlainly mappingRoot ∧ mappingCall.Below mappingRoot ∧
    isCalled mappingRoot "Map" = true := by
  have plainly : CallsPlainly mappingRoot := by
    intro node below text arguments kind
    have listed : node ∈ [mappingCall] := Tree.mem_descendants.mpr below
    obtain rfl := List.mem_singleton.mp listed
    cases kind
    exact ⟨mapping, rfl, by simp [Callee.Plain, mapping]⟩
  have below : mappingCall.Below mappingRoot := .child (.head _)
  obtain ⟨called, -, -, calls⟩ := called_name_ends_at_arguments mapping mappingRoot "Map"
  exact ⟨by decide +kernel, called, plainly, below,
    (calls plainly).mpr ⟨mappingCall, below, mapping, 1, rfl, rfl⟩⟩

open Unused.Sample in
/-- Behind a generic qualifier, the qualifier is taken for what is called. -/
theorem generic_qualifier_is_called :
    loading.text = "Cache<int>.Load" ∧ loading.last.name = "Load" ∧
    calledName loading.text = "Cache" ∧ calledName loading.text ≠ loading.last.name ∧
    isCalled loadingRoot "Load" = false ∧ isCalled loadingRoot "Cache" = true ∧
    (issues loadingRoot).map (·.description) = ["Private method 'Load' is never used"] := by
  decide +kernel

end SharpLint.Check.Unused
