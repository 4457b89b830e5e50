import SharpLint.Config.Validation
import SharpLint.Files.Store

/-!
# The sources in a directory

A scan walks a directory in pre-order, the entries of each directory in the order of their names. It
opens the directories that are neither hidden nor made by tools, and breaks off at one that cannot
be opened. It finds the files with the extension of sources whose path from the start of the scan is
not excluded.
-/

namespace SharpLint.Files

def skippedDirectories : List String := ["bin", "obj", "packages", "node_modules"]

def isScanned (name : String) : Bool := name.toList.head? ≠ some '.' && name ∉ skippedDirectories

def isSourceName (name : String) : Bool := (extension? name).any (· ∈ sourceExtensions)

def namesInOrder {α : Type} (a b : String × α) : Bool := a.1 ≤ b.1

/-! ## Walking -/

/-- What a walk meets: a directory that it opens or a file, by the names that lead there. -/
structure Visit where
  names : List String
  isDirectory : Bool
deriving DecidableEq, Repr

def Visit.under (name : String) (visit : Visit) : Visit :=
  { visit with names := name :: visit.names }

def isMet (name : String) (entry : Entry) : Bool := !entry.isDirectory || isScanned name

mutual

def visits : Entry → List Visit
  | .file _ => [⟨[], false⟩]
  | .directory entries =>
    ⟨[], true⟩ :: ((visitsByName entries).mergeSort namesInOrder).flatMap (·.2)

def visitsByName : List (String × Entry) → List (String × List Visit)
  | [] => []
  | (name, entry) :: entries =>
    (name, if isMet name entry then (visits entry).map (Visit.under name) else []) ::
      visitsByName entries

end

/-! ## Collecting -/

structure ScanError where
  path : String
  fault : Fault
deriving DecidableEq, Repr

def ScanError.message (error : ScanError) : String :=
  s!"IO error for operation on {error.path}: {error.fault.message}: {error.fault.message}"

def joinAll (path : String) (names : List String) : String := names.foldl join path

def isSource (config : Config) (names : List String) : Bool :=
  names.getLast?.any isSourceName && !config.excludes (joinNames names)

def collect (config : Config) (path : String) : List Visit → Except ScanError (List (List String))
  | [] => .ok []
  | visit :: visits =>
    if visit.isDirectory then
      match checkPath (joinAll path visit.names) with
      | .error fault => .error ⟨joinAll path visit.names, fault⟩
      | .ok () => collect config path visits
    else if isSource config visit.names then
      (collect config path visits).map (visit.names :: ·)
    else collect config path visits

/-- The names that lead from an entry at a path to the sources under it. A file leads to itself. -/
def sourcesUnder (config : Config) (path : String) : Entry → Except ScanError (List (List String))
  | .file _ =>
    .ok (if (components path).getLast?.any isSourceName && !config.excludes "" then [[]] else [])
  | .directory entries => collect config path (visits (.directory entries))

def Store.sources (store : Store) (config : Config) (path : String) :
    Except ScanError (List String) :=
  match store.entry path with
  | .error fault => .error ⟨path, fault⟩
  | .ok entry => (sourcesUnder config path entry).map (List.map (joinAll path))

end SharpLint.Files
