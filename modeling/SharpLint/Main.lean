import SharpLint.Command.Run
import SharpLint.Files.Companion

/-!
# The program

Reads the files that a command line is about, runs the command on them, prints what it says and
writes what it made.
-/

namespace SharpLint.Main

open Files (Entry File Store)

partial def load (path : String) : IO Entry := do
  let place := System.mkFilePath [path]
  if ← place.isDir then
    let entries ← (← place.readDir).toList.mapM fun entry => do
      return (entry.fileName, ← load (Files.join path entry.fileName))
    return .directory entries
  else return .file (File.ofBytes (← IO.FS.readBinFile place))

def follow (names : List String) (segment : String) : List String :=
  if Files.isHere segment then names
  else if segment = ".." then names.dropLast
  else names ++ [segment]

def add (store : Store) (path : String) (entry : Entry) : Store :=
  match store.location path with
  | .ok location => store.put location (some entry)
  | .error _ => store

def loadInto (store : Store) (path : String) : IO Store := do
  let start := if Files.isAbsolute path then [] else store.workingDirectory
  let names := (Files.segments path).foldl follow start
  let pathOf (count : Nat) : String := "/" ++ Files.joinNames (names.take count)
  let mut store := store
  for count in List.range names.length do
    if !store.hasEntry (pathOf count) then
      if ← (System.mkFilePath [pathOf count]).isDir then
        store := add store (pathOf count) (.directory [])
  let whole := pathOf names.length
  if ← (System.mkFilePath [whole]).pathExists then return add store whole (← load whole)
  else return store

def pathsOf : Command.Request → List String
  | .analyze options =>
    [options.config.getD Config.fileName, options.path, options.path ++ Files.treeEnding]
  | .init output => [output]

def save (before after : Store) (path : String) : IO Unit := do
  for above in (Files.parents path).reverse do
    if !before.hasEntry above && after.hasDirectory above then
      IO.FS.createDir (System.mkFilePath [above])
  match before.read path, after.read path with
  | .error _, .ok document => IO.FS.writeFile (System.mkFilePath [path]) document.source.text
  | _, _ => pure ()

def run (request : Command.Request) : IO UInt32 := do
  let output ← IO.getStdout
  let start : Store :=
    { workingDirectory := Files.components (← IO.currentDir).toString }
  let loaded ← (pathsOf request).foldlM loadInto start
  let store := { loaded with top := loaded.top.withTrees }
  let (exit, after) := request.run store (← output.isTty)
  for path in pathsOf request do
    save store after path
  output.putStr exit.output
  (← IO.getStderr).putStr exit.errors
  match exit.result with
  | .ok code => return UInt32.ofNat code
  | .error failure =>
    (← IO.getStderr).putStrLn s!"Error: {failure.message}"
    return UInt32.ofNat Command.errorCode

end SharpLint.Main

def main (words : List String) : IO UInt32 := do
  match SharpLint.Command.Request.ofWords words with
  | .ok request => SharpLint.Main.run request
  | .error usage =>
    let channel ← if usage.exitCode = 0 then IO.getStdout else IO.getStderr
    channel.putStrLn usage.message
    return UInt32.ofNat usage.exitCode
