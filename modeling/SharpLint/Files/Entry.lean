import SharpLint.Files.Path
import SharpLint.Syntax.Parse

/-!
# Trees of files

An entry is a file or a directory of named entries, and a file is a document, or it is no text. A
location is a spot in such a tree, whether something is there or not. It keeps the directories that
lead to it, so that one can step on from it, step back, and put something else there.
-/

namespace SharpLint.Files

inductive Fault where
  | notFound
  | alreadyExists
  | notADirectory
  | isADirectory
  | nameTooLong
  | impossibleName
  | notText
deriving DecidableEq, Repr

def Fault.message : Fault → String
  | notFound => "No such file or directory (os error 2)"
  | alreadyExists => "File exists (os error 17)"
  | notADirectory => "Not a directory (os error 20)"
  | isADirectory => "Is a directory (os error 21)"
  | nameTooLong => "File name too long (os error 36)"
  | impossibleName => "file name contained an unexpected NUL byte"
  | notText => "stream did not contain valid UTF-8"

inductive File where
  | text (document : Document)
  | notText

def File.ofBytes (bytes : ByteArray) : File :=
  match String.fromUTF8? bytes with
  | some contents => .text { source := { text := contents } }
  | none => .notText

def File.read : File → Except Fault Document
  | text document => .ok document
  | notText => .error .notText

inductive Entry where
  | file (file : File)
  | directory (entries : List (String × Entry))

namespace Entry

def isDirectory : Entry → Bool
  | directory _ => true
  | file _ => false

def child? (name : String) : Entry → Option Entry
  | directory entries => entries.lookup name
  | file _ => none

def replace (name : String) (new : Option Entry) : Entry → Entry
  | directory entries =>
    directory (entries.filter (·.1 != name) ++ (new.map (name, ·)).toList)
  | file contents => file contents

def read : Entry → Except Fault Document
  | file contents => contents.read
  | directory _ => .error .isADirectory

end Entry

def maxNameLength : Nat := 255

structure Location where
  entry : Option Entry
  /-- The names that lead there, each with the directory it is looked up in, the last one first. -/
  trail : List (String × Entry) := []

namespace Location

def checkDirectory (location : Location) : Except Fault Unit :=
  match location.entry with
  | none => .error .notFound
  | some (.file _) => .error .notADirectory
  | some (.directory _) => .ok ()

/-- Where a part of a path leads from a directory. Above the top there is the top itself. -/
def step (location : Location) (segment : String) : Except Fault Location := do
  location.checkDirectory
  if maxNameLength < segment.utf8ByteSize then throw .nameTooLong
  if isHere segment then return location
  else if segment = ".." then
    match location.trail with
    | [] => return location
    | (_, above) :: trail => return { entry := some above, trail }
  else
    match location.entry with
    | none => throw .notFound
    | some here =>
      return { entry := here.child? segment, trail := (segment, here) :: location.trail }

def walk (location : Location) (segments : List String) : Except Fault Location :=
  segments.foldlM step location

def rebuild : List (String × Entry) → Option Entry → Option Entry
  | [], new => new
  | (name, directory) :: trail, new => rebuild trail (some (directory.replace name new))

end Location

end SharpLint.Files
