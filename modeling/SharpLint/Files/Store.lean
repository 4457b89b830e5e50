import SharpLint.Files.Entry

/-!
# Files and directories

A store holds a tree of directories and files. Paths lead through it from the top or from the
working directory; every directory on the way has to exist. A change that fails halfway leaves
behind what it has made so far.
-/

namespace SharpLint.Files

structure Store where
  top : Entry := .directory []
  workingDirectory : List String := []

def maxPathLength : Nat := 4095

def checkPath (path : String) : Except Fault Unit :=
  if '\x00' ∈ path.toList then .error .impossibleName
  else if path = "" then .error .notFound
  else if maxPathLength < path.utf8ByteSize then .error .nameTooLong
  else .ok ()

namespace Store

/-! ## Looking up -/

def walk (store : Store) (path : String) (segments : List String) : Except Fault Location :=
  let start := if isAbsolute path then [] else store.workingDirectory
  Location.walk { entry := some store.top } (start ++ segments)

def location (store : Store) (path : String) : Except Fault Location := do
  checkPath path
  store.walk path (segments path)

def entry (store : Store) (path : String) : Except Fault Entry := do
  match (← store.location path).entry with
  | some entry => return entry
  | none => throw .notFound

def hasEntry (store : Store) (path : String) : Bool :=
  match store.entry path with
  | .ok _ => true
  | .error _ => false

def hasFile (store : Store) (path : String) : Bool :=
  match store.entry path with
  | .ok entry => !entry.isDirectory
  | .error _ => false

def hasDirectory (store : Store) (path : String) : Bool :=
  match store.entry path with
  | .ok entry => entry.isDirectory
  | .error _ => false

def read (store : Store) (path : String) : Except Fault Document := do
  (← store.entry path).read

/-! ## Changing -/

def put (store : Store) (location : Location) (new : Option Entry) : Store :=
  { store with top := (Location.rebuild location.trail new).getD store.top }

def parentLocation (store : Store) (path : String) : Except Fault (Location × Option String) := do
  checkPath path
  match lastSegment? path with
  | none => return ({ entry := some store.top }, none)
  | some (before, last) =>
    let parent ← store.walk path before
    parent.checkDirectory
    return (parent, if last = "." || last = ".." then none else some last)

def createDirectory (store : Store) (path : String) : Except Fault Store := do
  match ← store.parentLocation path with
  | (_, none) => throw .alreadyExists
  | (parent, some name) =>
    let location ← parent.step name
    match location.entry with
    | some _ => throw .alreadyExists
    | none => return store.put location (some (.directory []))

def ensureDirectory (store : Store) (path : String) : Except Fault Unit × Store :=
  match store.createDirectory path with
  | .ok store => (.ok (), store)
  | .error fault => (if store.hasDirectory path then .ok () else .error fault, store)

/-- The store with a directory at the first path. Where there is nothing to make it in, the other
paths, which are those of the directories above it, are seen to first. -/
def createFrom (store : Store) : List String → Except Fault Unit × Store
  | [] => (.ok (), store)
  | path :: above =>
    match store.ensureDirectory path with
    | (.error .notFound, _) =>
      match store.createFrom above with
      | (.ok (), store) => store.ensureDirectory path
      | (.error fault, store) => (.error fault, store)
    | result => result

def createDirectories (store : Store) (path : String) : Except Fault Unit × Store :=
  if path = "" then (.ok (), store) else store.createFrom (path :: parents path)

def createParents (store : Store) (path : String) : Except Fault Unit × Store :=
  store.createFrom (parents path)

def write (store : Store) (path : String) (file : File) : Except Fault Store := do
  match ← store.parentLocation path with
  | (_, none) => throw .isADirectory
  | (parent, some name) =>
    if endsInSlash path then throw .isADirectory
    let location ← parent.step name
    match location.entry with
    | some (.directory _) => throw .isADirectory
    | _ => return store.put location (some (.file file))

def writeWithParents (store : Store) (path : String) (file : File) : Except Fault Unit × Store :=
  match store.createParents path with
  | (.error fault, store) => (.error fault, store)
  | (.ok (), store) =>
    match store.write path file with
    | .ok store => (.ok (), store)
    | .error fault => (.error fault, store)

def remove (store : Store) (path : String) : Except Fault Store := do
  let location ← store.location path
  match location.entry with
  | none => throw .notFound
  | some (.directory _) => throw .isADirectory
  | some (.file _) => return store.put location none

end Store

end SharpLint.Files
