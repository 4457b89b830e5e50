import Mathlib.Data.List.Forall2
import SharpLint.Proofs.Command.Settings
import SharpLint.Proofs.Findings.Gathering
import SharpLint.Proofs.Linter.Shape

/-!
# The outcome of an analysis

An analysis either meets an obstacle, and then prints no report at all, or it reports on every file
it was to look at (`runAnalysis_cases`). A file in a directory that cannot be read or parsed is no
obstacle to the others; it has a failing issue, and the exit code tells that there is one.
-/

namespace SharpLint.Command

open Files (Fault Store joinAll joinNames)

/-! ## Obstacles -/

/-- The paths of the files to look at, each with the name under which it is reported: the sources of
a directory in the order in which a scan finds them, named by the way that leads to them from there,
or the single file, named as was asked for. -/
inductive Targets (store : Store) (config : Config) (options : AnalyzeOptions) :
    List (String × String) → Prop where
  | directory {entries : List (String × Files.Entry)} {ways : List (List String)}
      (isDirectory : store.entry options.path = .ok (.directory entries))
      (found : Files.sourcesUnder config options.path (.directory entries) = .ok ways)
      (scanned : store.sources config options.path = .ok (ways.map (joinAll options.path))) :
      Targets store config options
        (ways.map fun names => (joinAll options.path names, joinNames names))
  | file {file : Files.File} {document : Document}
      (isFile : store.entry options.path = .ok (.file file))
      (isReadable : store.read options.path = .ok document) :
      Targets store config options [(options.path, options.name.getD options.path)]

def unreadableSource (fault : Fault) : Issue where
  rule := .unreadableSource
  description := "Cannot read source: " ++ fault.message
  passed := false
  suggestion := "Save the file as UTF-8 text and analyze again"
  category := "Error"
  detail := some ("**Unreadable source**\n- " ++ fault.message)

/-- What is found in a file by itself: what the linter finds in its contents, or that it cannot be
read. -/
structure IsResult (config : Config) (contents : Except Fault Document) (name : String)
    (findings : Findings) : Prop where
  named : findings.fileName = name
  readable : ∀ document, contents = .ok document → findings = Linter.findings config document name
  unreadable : ∀ fault, contents = .error fault →
    findings.categories = [⟨"Error", [unreadableSource fault]⟩]

/-- The file cannot be read, or what is in it cannot be parsed. -/
inductive IsUnusable (config : Config) : Except Fault Document → Prop where
  | unreadable (fault : Fault) : IsUnusable config (.error fault)
  | unparsable {document : Document} {error : ParseError}
      (written : Text.allBlank document.source.text = false)
      (fails : document.parse config.allowPartial = .error error) : IsUnusable config (.ok document)

def HasFailed (results : List Findings) : Prop :=
  ∃ findings ∈ results, ∃ issue ∈ findings.issues, issue.passed = false

instance (results : List Findings) : Decidable (HasFailed results) :=
  inferInstanceAs
    (Decidable (∃ findings ∈ results, ∃ issue ∈ findings.issues, issue.passed = false))

theorem IsResult.fails {config : Config} {contents : Except Fault Document} {name : String}
    {findings : Findings} (result : IsResult config contents name findings)
    (unusable : IsUnusable config contents) : ∃ issue ∈ findings.issues, issue.passed = false := by
  cases unusable with
  | unreadable fault =>
      refine ⟨unreadableSource fault, ?_, rfl⟩
      rw [Findings.issues, result.unreadable fault rfl]
      exact List.mem_cons_self
  | unparsable written refused =>
      rw [result.readable _ rfl, Linter.findings_of_error written refused]
      exact ⟨_, List.mem_cons_self, rfl⟩

def AreResults (store : Store) (config : Config) (targets : List (String × String))
    (results : List Findings) : Prop :=
  List.Forall₂ (fun target => IsResult config (store.read target.1) target.2) targets results

theorem AreResults.fails {store : Store} {config : Config} {targets : List (String × String)}
    {results : List Findings} (areResults : AreResults store config targets results)
    (unusable : ∃ target ∈ targets, IsUnusable config (store.read target.1)) :
    HasFailed results := by
  obtain ⟨target, member, unusable⟩ := unusable
  induction areResults with
  | nil => cases member
  | cons result _ ih =>
      rcases List.mem_cons.mp member with rfl | member
      · exact ⟨_, List.mem_cons_self, result.fails unusable⟩
      · obtain ⟨findings, among, fails⟩ := ih member
        exact ⟨findings, List.mem_cons_of_mem _ among, fails⟩

/-! ## Running -/

section

variable {store : Store} {config : Config} {options : AnalyzeOptions}

theorem Configures.unique {outcome other : Except ConfigLoadError Config}
    (configures : Configures store options outcome) (also : Configures store options other) :
    outcome = other :=
  (configures_iff.mp configures).symm.trans (configures_iff.mp also)

theorem Targets.unique {targets others : List (String × String)}
    (found : Targets store config options targets) (also : Targets store config options others) :
    targets = others := by
  cases found with
  | file isFile =>
      cases also with
      | file => rfl
      | directory isDirectory => exact nomatch isDirectory.symm.trans isFile
  | directory isDirectory ways =>
      cases also with
      | file isFile => exact nomatch isDirectory.symm.trans isFile
      | directory alsoDirectory alsoWays =>
          cases isDirectory.symm.trans alsoDirectory
          cases ways.symm.trans alsoWays
          rfl

end

namespace Sample

def limits : Document := { source := { text := "size:\n  max_parameters: 0\n" } }

end Sample

end SharpLint.Command
