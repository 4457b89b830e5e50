import SharpLint.Proofs.Check.Reads
import SharpLint.Proofs.Linter.Builtin

/-!
# The shape of an analysis

What a linter with the built-in analyzers finds in a document has one of three shapes: nothing for
a blank source, one failure for a tree that is refused, and otherwise one category for each analyzer
that is not disabled, in a fixed order and empty or not. There is no category of failures then,
since no analyzer reads anything that is not there.
-/

namespace SharpLint

open Contribution

def builtinCategories : List (String × String) :=
  [("naming", "Naming"), ("complexity", "Complexity"), ("documentation", "Documentation"),
   ("duplication", "Duplication"), ("unused", "UnusedCode"), ("size", "Size"),
   ("exceptions", "Exceptions")]

/-- The findings are nothing but one failure of the parser, at the position. -/
def Findings.RefusesAt (findings : Findings) (position : Position) : Prop :=
  ∃ issue, findings.categories = [⟨errorCategory, [issue]⟩] ∧ issue.rule = .parseFailure ∧
    issue.passed = false ∧ issue.line = position.line ∧ issue.column = position.column

/-- The findings have the categories of the analyzers that are not disabled, with all issues that
these report on the tree. -/
structure Findings.Covers (findings : Findings) (config : Config) (root : Node) : Prop where
  names : findings.categories.map (·.name) =
    (builtinCategories.filter (config.isEnabled ·.1)).map (·.2)
  issues : findings.categories = (Analyzer.enabled config).map fun analyzer =>
    .ofIssues analyzer.category (analyzer.inspect root).issues
  noFailure : findings.category? errorCategory = none

/-! ## Categories of their own -/

theorem Contribution.gather_of_nodup {contributions : List Contribution}
    (distinct : (contributions.map (·.category)).Nodup) :
    gather contributions = contributions.map fun contribution =>
      .ofIssues contribution.category contribution.issues := by
  induction contributions using List.reverseRecOn with
  | nil => rfl
  | append_singleton contributions contribution ih =>
      obtain ⟨name, issues⟩ := contribution
      rw [List.map_append, List.nodup_append] at distinct
      obtain ⟨distinct, -, apart⟩ := distinct
      have fresh : name ∉ (gather contributions).map (·.name) := by
        rw [mem_gather_names]
        exact fun member => apart name member name List.mem_cons_self rfl
      rw [← addIssues_gather, addIssues_of_notMem issues fresh, ih distinct, List.map_append]
      rfl

namespace Analyzer

theorem contributions_enabled (config : Config) (root : Node) :
    (enabled config).map (·.contribution root) =
      (enabled config).map fun analyzer =>
        ⟨analyzer.category, (analyzer.inspect root).issues⟩ := by
  apply List.map_congr_left
  intro analyzer member
  rw [contribution, (builtin_finishes (enabled_subset_builtin config member) root).1]

theorem categories_enabled (config : Config) :
    (enabled config).map (·.category) =
      (builtinCategories.filter (config.isEnabled ·.1)).map (·.2) := by
  have table : (builtin config).map (fun analyzer => (analyzer.name, analyzer.category)) =
      builtinCategories := rfl
  rw [← table, List.filter_map, List.map_map]
  rfl

theorem categories_enabled_sublist (config : Config) :
    ((enabled config).map (·.category)).Sublist (builtinCategories.map (·.2)) := by
  rw [categories_enabled]
  exact List.filter_sublist.map _

end Analyzer

namespace Linter

variable {config : Config} {document : Document} {tree : Concrete}

/-! ## The three shapes -/

theorem faultError_malformed (source : Source) (tree : Concrete) :
    ∃ position message, tree.faultError source = .malformed position message := by
  unfold Concrete.faultError
  split
  · exact ⟨_, _, rfl⟩
  · exact ⟨_, _, rfl⟩

theorem findings_refuses (present : document.tree = some tree)
    (written : Text.allBlank document.source.text = false) (flawed : tree.label.flawed = true)
    (whole : config.allowPartial = false) (fileName : String) :
    ∃ position message, document.parse config.allowPartial = .error (.malformed position message) ∧
      (findings config document fileName).RefusesAt position := by
  obtain ⟨position, message, fault⟩ := faultError_malformed document.source tree
  have refused : document.parse config.allowPartial = .error (.malformed position message) := by
    rw [Document.parse, present, ← fault, whole]
    simp [flawed]
  refine ⟨position, message, refused, ?_⟩
  rw [findings_of_error written refused]
  exact ⟨_, rfl, rfl, rfl, rfl, rfl⟩

theorem parse_of_usable (present : document.tree = some tree)
    (usable : tree.label.flawed = true → config.allowPartial = true) :
    document.parse config.allowPartial = .ok (tree.convert document.source {}) := by
  rw [Document.parse, present]
  cases flawed : tree.label.flawed with
  | false => simp [flawed]
  | true => simp [usable flawed]

theorem categories_findings (written : Text.allBlank document.source.text = false) {root : Node}
    (parsed : document.parse config.allowPartial = .ok root) (fileName : String) :
    (findings config document fileName).categories = (Analyzer.enabled config).map fun analyzer =>
      .ofIssues analyzer.category (analyzer.inspect root).issues := by
  have distinct : (((Analyzer.enabled config).map fun analyzer =>
      (⟨analyzer.category, (analyzer.inspect root).issues⟩ : Contribution)).map
        (·.category)).Nodup := by
    rw [List.map_map]
    exact List.Nodup.sublist (Analyzer.categories_enabled_sublist config) (by decide)
  rw [findings_of_parse written parsed, Analyzer.contributions_enabled]
  exact (gather_of_nodup distinct).trans List.map_map

theorem findings_covers (written : Text.allBlank document.source.text = false) {root : Node}
    (parsed : document.parse config.allowPartial = .ok root) (fileName : String) :
    (findings config document fileName).Covers config root := by
  have categories := categories_findings written parsed fileName
  have names : (findings config document fileName).categories.map (·.name) =
      (Analyzer.enabled config).map (·.category) := by
    rw [categories, List.map_map]
    rfl
  refine ⟨names.trans (Analyzer.categories_enabled config), categories, ?_⟩
  rw [Findings.category?, List.find?_eq_none]
  intro category member same
  have named : category.name ∈ builtinCategories.map (·.2) := by
    apply (Analyzer.categories_enabled_sublist config).subset
    rw [← names]
    exact List.mem_map_of_mem member
  rw [of_decide_eq_true same] at named
  exact absurd named (by decide)

namespace Sample

def broken : Concrete :=
  .node { kind := "compilation_unit", named := true, flawed := true, start := 0, stop := 3 }
    [.node { kind := "identifier", named := true, start := 0, stop := 1 } [],
     .node { kind := "ERROR", named := true, erroneous := true, flawed := true, start := 2,
             stop := 3 } []]

def brokenDocument : Document := { source := { text := "x )" }, tree := some broken }

def blankDocument : Document := { source := { text := " \n" }, tree := some broken }

end Sample

/-- The findings on a document are empty, one failure, or one category for each analyzer that is not
disabled; and no analyzer reads anything that is not there. -/
theorem analysis_shape (config : Config) (document : Document) (tree : Concrete)
    (fileName : String) (present : document.tree = some tree) :
    (Text.allBlank document.source.text = true →
      (findings config document fileName).categories = []) ∧
    (Text.allBlank document.source.text = false → tree.label.flawed = true →
      config.allowPartial = false →
      ∃ position message,
        document.parse config.allowPartial = .error (.malformed position message) ∧
        (findings config document fileName).RefusesAt position) ∧
    (Text.allBlank document.source.text = false →
      (tree.label.flawed = true → config.allowPartial = true) →
      ∃ root, document.parse config.allowPartial = .ok root ∧
        (findings config document fileName).Covers config root) ∧
    Analyzer.guarded config = Analyzer.builtin config ∧
    ∀ analyzer ∈ Analyzer.guarded config, ∀ root, (analyzer.inspect root).ending = .finished := by
  refine ⟨?_, ?_, ?_, Analyzer.guarded_eq_builtin config, ?_⟩
  · intro blank
    rw [findings_of_blank blank]
  · intro written flawed whole
    exact findings_refuses present written flawed whole fileName
  · intro written usable
    have parsed := parse_of_usable present usable
    exact ⟨_, parsed, findings_covers written parsed fileName⟩
  · intro analyzer member root
    rw [Analyzer.guarded_eq_builtin] at member
    exact (Analyzer.builtin_finishes member root).1

open Linter.Sample in
theorem analysis_shape_broken :
    Text.allBlank blankDocument.source.text = true ∧
    (findings {} blankDocument "x.cs").categories = [] ∧
    Text.allBlank brokenDocument.source.text = false ∧ broken.label.flawed = true ∧
    (findings {} brokenDocument "x.cs").RefusesAt ⟨1, 3⟩ ∧
    (findings { allowPartial := true, disabledAnalyzers := ["size", "naming"] }
      brokenDocument "x.cs").categories.map (·.name) =
        ["Complexity", "Documentation", "Duplication", "UnusedCode", "Exceptions"] := by
  have blank : Text.allBlank blankDocument.source.text = true := by decide
  have written : Text.allBlank brokenDocument.source.text = false := by decide
  have empty := (analysis_shape {} blankDocument broken "x.cs" rfl).1 blank
  obtain ⟨position, message, refused, refuses⟩ :=
    (analysis_shape {} brokenDocument broken "x.cs" rfl).2.1 written rfl rfl
  obtain ⟨root, -, covers⟩ := (analysis_shape
    { allowPartial := true, disabledAnalyzers := ["size", "naming"] } brokenDocument broken
    "x.cs" rfl).2.2.1 written fun _ => rfl
  cases refused
  exact ⟨blank, empty, written, rfl, refuses, covers.names.trans (by decide)⟩

end Linter

end SharpLint
