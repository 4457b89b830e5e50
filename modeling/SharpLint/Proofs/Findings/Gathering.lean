import Mathlib.Data.List.Induction
import SharpLint.Findings

/-!
# Gathering contributions into categories

Issues arrive as contributions, each under the name of a category. `gather` says what a sequence
of contributions amounts to without going through it one by one, and `Findings.ofContributions`
makes findings of it:

* `addIssues_gather`: adding one more contribution gathers the longer sequence;
* `ofContributions_wellFormed`: names stay distinct, and issues are marked where they stand;
* `category?_ofContributions`, `filter_ofContributions`, `failedCount_ofContributions`: one
  category, the categories left when some are removed, and the number of failing issues, each read
  off the contributions.
-/

namespace SharpLint

/-- Issues that arrive together, and the name of the category they go to. -/
structure Contribution where
  category : String
  issues : List Issue
deriving DecidableEq, Repr

namespace Contribution

def issuesUnder (name : String) (contributions : List Contribution) : List Issue :=
  (contributions.filter (·.category = name)).flatMap (·.issues)

/-- The categories that are named, in the order in which they are first named, each with all the
issues that go to it, marked with its name. -/
def gather (contributions : List Contribution) : List Category :=
  (contributions.map (·.category)).eraseDups.map fun name =>
    { name, issues := (issuesUnder name contributions).map ({ · with category := name }) }

def failedCount (contributions : List Contribution) : Nat :=
  (contributions.flatMap (·.issues)).countP (!·.passed)

end Contribution

open Contribution

/-! ## Names without repetition -/

theorem eraseDups_concat_of_mem {name : String} {names : List String} (member : name ∈ names) :
    (names ++ [name]).eraseDups = names.eraseDups := by
  simp [List.eraseDups_append, List.removeAll, member]

theorem eraseDups_concat_of_notMem {name : String} {names : List String} (fresh : name ∉ names) :
    (names ++ [name]).eraseDups = names.eraseDups ++ [name] := by
  simp [List.eraseDups_append, List.removeAll, fresh, List.eraseDups_cons]

theorem nodup_eraseDups (names : List String) : names.eraseDups.Nodup := by
  induction names using List.reverseRecOn with
  | nil => exact List.nodup_nil
  | append_singleton names name ih =>
      by_cases member : name ∈ names
      · rwa [eraseDups_concat_of_mem member]
      · rw [eraseDups_concat_of_notMem member, List.nodup_append]
        refine ⟨ih, by simp, ?_⟩
        intro other present last isLast same
        rw [List.mem_singleton.mp isLast] at same
        exact member (same ▸ List.mem_eraseDups.mp present)

theorem filter_eraseDups (keep : String → Bool) (names : List String) :
    names.eraseDups.filter keep = (names.filter keep).eraseDups := by
  induction names using List.reverseRecOn with
  | nil => rfl
  | append_singleton names name ih =>
      rw [List.filter_append]
      by_cases kept : keep name = true
      · have single : [name].filter keep = [name] := List.filter_cons_of_pos kept
        rw [single]
        by_cases member : name ∈ names
        · rw [eraseDups_concat_of_mem member, ih,
            eraseDups_concat_of_mem (List.mem_filter.mpr ⟨member, kept⟩)]
        · rw [eraseDups_concat_of_notMem member, List.filter_append, ih, single,
            eraseDups_concat_of_notMem (fun present => member (List.mem_filter.mp present).1)]
      · have none : [name].filter keep = [] := List.filter_cons_of_neg kept
        rw [none, List.append_nil, ← ih]
        by_cases member : name ∈ names
        · rw [eraseDups_concat_of_mem member]
        · rw [eraseDups_concat_of_notMem member, List.filter_append, none, List.append_nil]

/-! ## Adding issues to a list of categories -/

theorem stamp_append (name : String) (issues more : List Issue) :
    Category.stamp name (issues ++ more) = Category.stamp name issues ++ Category.stamp name more :=
  List.map_append

theorem addIssues_of_notMem {name : String} {categories : List Category} (issues : List Issue)
    (fresh : name ∉ categories.map (·.name)) :
    addIssues name issues categories = categories ++ [.ofIssues name issues] := by
  induction categories with
  | nil => rfl
  | cons category categories ih =>
      simp only [List.map_cons, List.mem_cons, not_or] at fresh
      have other : category.name ≠ name := fun same => fresh.1 same.symm
      rw [addIssues, if_neg other, ih fresh.2, List.cons_append]

theorem addIssues_of_mem {name : String} {front : List Category} (issues present : List Issue)
    (back : List Category) (fresh : name ∉ front.map (·.name)) :
    addIssues name issues (front ++ ⟨name, present⟩ :: back) =
      front ++ ⟨name, present ++ Category.stamp name issues⟩ :: back := by
  induction front with
  | nil => simp [addIssues]
  | cons category front ih =>
      simp only [List.map_cons, List.mem_cons, not_or] at fresh
      have other : category.name ≠ name := fun same => fresh.1 same.symm
      rw [List.cons_append, addIssues, if_neg other, ih fresh.2, List.cons_append]

/-! ## Adding contributions in order -/

theorem issuesUnder_append (name : String) (contributions more : List Contribution) :
    issuesUnder name (contributions ++ more) =
      issuesUnder name contributions ++ issuesUnder name more := by
  simp [issuesUnder]

theorem issuesUnder_concat_self (name : String) (issues : List Issue)
    (contributions : List Contribution) :
    issuesUnder name (contributions ++ [⟨name, issues⟩]) =
      issuesUnder name contributions ++ issues := by
  simp [issuesUnder]

theorem issuesUnder_concat_of_ne {name other : String} (different : other ≠ name)
    (issues : List Issue) (contributions : List Contribution) :
    issuesUnder other (contributions ++ [⟨name, issues⟩]) = issuesUnder other contributions := by
  simp [issuesUnder, different.symm]

theorem issuesUnder_of_notMem {name : String} {contributions : List Contribution}
    (fresh : name ∉ contributions.map (·.category)) : issuesUnder name contributions = [] := by
  have none : contributions.filter (·.category = name) = [] := by
    rw [List.filter_eq_nil_iff]
    intro contribution member same
    exact fresh (List.mem_map.mpr ⟨contribution, member, by simpa using same⟩)
  rw [issuesUnder, none, List.flatMap_nil]

theorem gather_eq_ofIssues (contributions : List Contribution) :
    gather contributions = (contributions.map (·.category)).eraseDups.map fun name =>
      .ofIssues name (issuesUnder name contributions) := rfl

theorem names_map_ofIssues (names : List String) (issues : String → List Issue) :
    (names.map fun name => Category.ofIssues name (issues name)).map (·.name) = names := by
  rw [List.map_map]
  exact List.map_id' names

theorem names_gather (contributions : List Contribution) :
    (gather contributions).map (·.name) = (contributions.map (·.category)).eraseDups :=
  names_map_ofIssues _ _

theorem mem_gather_names {name : String} {contributions : List Contribution} :
    name ∈ (gather contributions).map (·.name) ↔ name ∈ contributions.map (·.category) := by
  rw [names_gather, List.mem_eraseDups]

theorem ofIssues_concat_of_notMem {name : String} {names : List String} (fresh : name ∉ names)
    (issues : List Issue) (contributions : List Contribution) :
    (names.map fun other =>
        Category.ofIssues other (issuesUnder other (contributions ++ [⟨name, issues⟩]))) =
      names.map fun other => Category.ofIssues other (issuesUnder other contributions) := by
  apply List.map_congr_left
  intro other member
  have different : other ≠ name := fun same => fresh (same ▸ member)
  rw [issuesUnder_concat_of_ne different]

theorem addIssues_gather (name : String) (issues : List Issue)
    (contributions : List Contribution) :
    addIssues name issues (gather contributions) = gather (contributions ++ [⟨name, issues⟩]) := by
  by_cases present : name ∈ contributions.map (·.category)
  · obtain ⟨front, back, split, notFront⟩ :=
      List.eq_append_cons_of_mem (List.mem_eraseDups.mpr present)
    have notBack : name ∉ back := by
      have distinct := nodup_eraseDups (contributions.map (·.category))
      rw [split, List.nodup_append, List.nodup_cons] at distinct
      exact distinct.2.1.1
    have fresh : name ∉ (front.map fun other =>
        Category.ofIssues other (issuesUnder other contributions)).map (·.name) := by
      rwa [names_map_ofIssues]
    -- The category grows in its place, and the ones around it stay as they are.
    simp only [gather_eq_ofIssues, List.map_append, List.map_cons, List.map_nil]
    rw [eraseDups_concat_of_mem present, split, List.map_append, List.map_cons, List.map_append,
      List.map_cons, ofIssues_concat_of_notMem notFront, ofIssues_concat_of_notMem notBack,
      issuesUnder_concat_self]
    simp only [Category.ofIssues, stamp_append] at fresh ⊢
    exact addIssues_of_mem _ _ _ fresh
  · rw [addIssues_of_notMem _ (mt mem_gather_names.mp present)]
    simp only [gather_eq_ofIssues, List.map_append, List.map_cons, List.map_nil]
    rw [eraseDups_concat_of_notMem present, List.map_append, List.map_cons, List.map_nil,
      ofIssues_concat_of_notMem (mt List.mem_eraseDups.mp present), issuesUnder_concat_self,
      issuesUnder_of_notMem present, List.nil_append]

/-! ## The findings that contributions amount to -/

namespace Findings

def ofContributions (fileName : String) (contributions : List Contribution) : Findings where
  fileName := fileName
  categories := gather contributions

/-- Names stand for one category each, and everything is marked and counted where it stands. -/
structure WellFormed (findings : Findings) : Prop where
  distinct : (findings.categories.map (·.name)).Nodup
  found : ∀ category ∈ findings.categories, findings.category? category.name = some category
  stamped : ∀ category ∈ findings.categories, ∀ issue ∈ category.issues,
    issue.category = category.name
  counted : findings.failedCount = findings.issues.countP (!·.passed)

theorem ofContributions_nil (fileName : String) : ofContributions fileName [] = { fileName } := rfl

theorem add_ofContributions (fileName name : String) (issues : List Issue)
    (contributions : List Contribution) :
    (ofContributions fileName contributions).add name issues =
      ofContributions fileName (contributions ++ [⟨name, issues⟩]) := by
  simp only [add, ofContributions, addIssues_gather]

theorem failedCount_eq_countP (findings : Findings) :
    findings.failedCount = findings.issues.countP (!·.passed) := by
  obtain ⟨fileName, categories⟩ := findings
  simp only [failedCount, issues]
  induction categories with
  | nil => rfl
  | cons category categories ih =>
      rw [List.foldr_cons, ih, List.flatMap_cons, List.countP_append, Category.failedCount]

theorem find?_name_of_mem {categories : List Category} {category : Category}
    (distinct : (categories.map (·.name)).Nodup) (member : category ∈ categories) :
    categories.find? (·.name = category.name) = some category := by
  induction categories with
  | nil => cases member
  | cons first categories ih =>
      rw [List.map_cons, List.nodup_cons] at distinct
      rcases List.mem_cons.mp member with rfl | later
      · simp
      · have other : first.name ≠ category.name := by
          intro same
          exact distinct.1 (same ▸ List.mem_map_of_mem later)
        rw [List.find?_cons_of_neg (by simpa using other), ih distinct.2 later]

theorem ofContributions_wellFormed (fileName : String) (contributions : List Contribution) :
    (ofContributions fileName contributions).WellFormed := by
  have distinct : ((gather contributions).map (·.name)).Nodup := by
    rw [names_gather]
    exact nodup_eraseDups _
  refine ⟨distinct, fun category member => find?_name_of_mem distinct member, ?_,
    failedCount_eq_countP _⟩
  intro category member issue present
  obtain ⟨name, -, rfl⟩ := List.mem_map.mp member
  obtain ⟨bare, -, rfl⟩ := List.mem_map.mp present
  rfl

theorem mem_issues_ofContributions {fileName : String} {contributions : List Contribution}
    {issue : Issue} :
    issue ∈ (ofContributions fileName contributions).issues ↔
      ∃ contribution ∈ contributions, ∃ bare ∈ contribution.issues,
        issue = { bare with category := contribution.category } := by
  simp only [issues, ofContributions, gather, List.mem_flatMap, List.mem_map]
  constructor
  · rintro ⟨_, ⟨name, -, rfl⟩, present⟩
    obtain ⟨bare, under, rfl⟩ := List.mem_map.mp present
    obtain ⟨contribution, chosen, reported⟩ := List.mem_flatMap.mp under
    obtain ⟨member, same⟩ := List.mem_filter.mp chosen
    have named : contribution.category = name := by simpa using same
    exact ⟨contribution, member, bare, reported, by rw [named]⟩
  · rintro ⟨contribution, member, bare, reported, rfl⟩
    have named := List.mem_eraseDups.mpr (List.mem_map_of_mem (f := (·.category)) member)
    refine ⟨_, ⟨contribution.category, named, rfl⟩, List.mem_map.mpr ⟨bare, ?_, rfl⟩⟩
    exact List.mem_flatMap.mpr ⟨contribution, List.mem_filter.mpr ⟨member, by simp⟩, reported⟩

theorem category?_ofContributions (fileName name : String) (contributions : List Contribution) :
    (ofContributions fileName contributions).category? name =
      if name ∈ contributions.map (·.category) then
        some (.ofIssues name (issuesUnder name contributions))
      else none := by
  have wellFormed := ofContributions_wellFormed fileName contributions
  by_cases member : name ∈ contributions.map (·.category)
  · rw [if_pos member]
    have gathered := List.mem_map_of_mem
      (f := fun name => Category.ofIssues name (issuesUnder name contributions))
      (List.mem_eraseDups.mpr member)
    exact wellFormed.found _ gathered
  · rw [if_neg member, category?, List.find?_eq_none]
    intro category present same
    have named : category.name = name := by simpa using same
    exact member (mem_gather_names.mp (named ▸ List.mem_map_of_mem present))

theorem filter_ofContributions (keep : String → Bool) (fileName : String)
    (contributions : List Contribution) :
    (ofContributions fileName contributions).categories.filter (keep ·.name) =
      (ofContributions fileName (contributions.filter (keep ·.category))).categories := by
  simp only [ofContributions, gather_eq_ofIssues, List.filter_map]
  have named : ((fun category : Category => keep category.name) ∘ fun name =>
      Category.ofIssues name (issuesUnder name contributions)) = keep := rfl
  have names : (contributions.filter (keep ·.category)).map (·.category) =
      (contributions.map (·.category)).filter keep := by
    rw [List.filter_map]
    rfl
  rw [named, filter_eraseDups, names]
  apply List.map_congr_left
  intro name member
  have kept : keep name = true := (List.mem_filter.mp (List.mem_eraseDups.mp member)).2
  -- Contributions to a category that is kept are all kept.
  rw [issuesUnder, issuesUnder, List.filter_filter]
  congr 2
  apply List.filter_congr
  intro contribution _
  by_cases same : contribution.category = name
  · simp [same, kept]
  · simp [same]

theorem failedCount_add (findings : Findings) (name : String) (issues : List Issue) :
    (findings.add name issues).failedCount =
      findings.failedCount + issues.countP (!·.passed) := by
  obtain ⟨fileName, categories⟩ := findings
  have stamped : (Category.stamp name issues).countP (!·.passed) = issues.countP (!·.passed) := by
    rw [Category.stamp, List.countP_map]
    rfl
  simp only [failedCount, add]
  induction categories with
  | nil => simp [addIssues, Category.failedCount, Category.ofIssues, stamped]
  | cons category categories ih =>
      rw [addIssues]
      split
      · simp only [List.foldr_cons, Category.failedCount, List.countP_append, stamped]
        omega
      · rw [List.foldr_cons, ih, List.foldr_cons]
        omega

theorem failedCount_ofContributions (fileName : String) (contributions : List Contribution) :
    (ofContributions fileName contributions).failedCount =
      Contribution.failedCount contributions := by
  induction contributions using List.reverseRecOn with
  | nil => rfl
  | append_singleton contributions contribution ih =>
      rw [← add_ofContributions, failedCount_add, ih]
      simp [Contribution.failedCount]

end Findings

end SharpLint
