/-!
# Declaration modifiers

The modifiers the checks look at. A set of modifiers is kept as a list in the order of `all`,
without repetition.
-/

namespace SharpLint

inductive Modifier where
  | publicAccess
  | privateAccess
  | protectedAccess
  | internalAccess
  | static
  | async
  | abstract
  | virtual
  | override
  | sealed
  | readonly
  | const
  | partialType
deriving DecidableEq, Repr

namespace Modifier

/-- Every modifier, in the order in which sets of them are listed. -/
def all : List Modifier :=
  [publicAccess, privateAccess, protectedAccess, internalAccess, static, async, abstract, virtual,
   override, sealed, readonly, const, partialType]

def keyword : Modifier → String
  | publicAccess => "public"
  | privateAccess => "private"
  | protectedAccess => "protected"
  | internalAccess => "internal"
  | static => "static"
  | async => "async"
  | abstract => "abstract"
  | virtual => "virtual"
  | override => "override"
  | sealed => "sealed"
  | readonly => "readonly"
  | const => "const"
  | partialType => "partial"

def ofKeyword? (word : String) : Option Modifier := all.find? (·.keyword == word)

def isAccess : Modifier → Bool
  | publicAccess | privateAccess | protectedAccess | internalAccess => true
  | _ => false

def setOf (modifiers : List Modifier) : List Modifier := all.filter (· ∈ modifiers)

end Modifier

end SharpLint
