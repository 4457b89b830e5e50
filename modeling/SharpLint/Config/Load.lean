import SharpLint.Config.Yaml
import SharpLint.Files.Store

/-!
# Configuration files
-/

namespace SharpLint

inductive ConfigLoadError where
  | unreadable (fault : Files.Fault)
  | malformed
deriving DecidableEq, Repr

def ConfigLoadError.message : ConfigLoadError → String
  | unreadable fault => fault.message
  | malformed => "the file holds no configuration"

namespace Config

def fileName : String := "codelens.yaml"

def load (store : Files.Store) (path : String) : Except ConfigLoadError Config :=
  match store.read path with
  | .error fault => .error (.unreadable fault)
  | .ok document =>
    match ofYaml? document.source.text with
    | some config => .ok config
    | none => .error .malformed

/-- The configuration in a directory and the path of its file, or the default one if there is no
such file. -/
def find (store : Files.Store) (directory : String) :
    Except ConfigLoadError (Config × Option String) :=
  let path := Files.join directory fileName
  if store.hasFile path then (load store path).map (·, some path) else .ok ({}, none)

end Config

end SharpLint
