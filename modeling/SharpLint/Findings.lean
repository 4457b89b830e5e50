import SharpLint.Issue

/-!
# Findings of an analysis

The issues of one source, in categories. Categories keep the order in which they first appeared,
and a name stands for one category only: issues reported under a name that exists join it.
-/

namespace SharpLint

structure Category where
  name : String
  issues : List Issue
deriving DecidableEq, Repr

namespace Category

def stamp (name : String) (issues : List Issue) : List Issue :=
  issues.map ({ · with category := name })

def ofIssues (name : String) (issues : List Issue) : Category := ⟨name, stamp name issues⟩

def failedCount (category : Category) : Nat := category.issues.countP (!·.passed)

end Category

/-- The categories with issues added under a name: to the category of that name, or to a new one at
the end. -/
def addIssues (name : String) (issues : List Issue) : List Category → List Category
  | [] => [.ofIssues name issues]
  | category :: categories =>
    if category.name = name then
      { category with issues := category.issues ++ Category.stamp name issues } :: categories
    else category :: addIssues name issues categories

structure Findings where
  fileName : String
  categories : List Category := []
deriving DecidableEq, Repr

namespace Findings

def errorCategory : String := "Error"

def add (findings : Findings) (name : String) (issues : List Issue) : Findings :=
  { findings with categories := addIssues name issues findings.categories }

def ofError (fileName : String) (issue : Issue) : Findings :=
  ({ fileName } : Findings).add errorCategory [issue]

def category? (findings : Findings) (name : String) : Option Category :=
  findings.categories.find? (·.name = name)

def issues (findings : Findings) : List Issue := findings.categories.flatMap (·.issues)

def failedCount (findings : Findings) : Nat :=
  findings.categories.foldr (fun category count => category.failedCount + count) 0

end Findings

end SharpLint
