import SharpLint.Glob.Basic

/-!
# Reading patterns

A pattern is read from left to right. While braces are open, the branches of the group read so far
wait on a stack.
-/

namespace SharpLint.Glob

inductive Error where
  | unclosedClass
  | invalidRange (first last : Char)
  | unopenedAlternates
  | unclosedAlternates
  | danglingEscape
deriving DecidableEq, Repr

def Error.message : Error → String
  | unclosedClass => "unclosed character class; missing ']'"
  | invalidRange first last =>
    s!"invalid range; '{String.singleton first}' > '{String.singleton last}'"
  | unopenedAlternates =>
    "unopened alternate group; missing '\x7b' (maybe escape '\x7d' with '[\x7d]'?)"
  | unclosedAlternates =>
    "unclosed alternate group; missing '\x7d' (maybe escape '\x7b' with '[\x7b]'?)"
  | danglingEscape => "dangling '\\'"

/-- A group of alternatives that is still open: the branches read before the current one, the
latest first, and the parts around the group read before it. -/
structure OpenGroup where
  branches : List (List Part)
  around : List Part

/-- What has been read: the parts of the current branch, the latest first, the open groups around
it, the innermost first, and the last character. -/
structure Progress where
  parts : List Part := []
  groups : List OpenGroup := []
  previous : Option Char := none

namespace Progress

def push (progress : Progress) (part : Part) : Progress :=
  { progress with parts := part :: progress.parts }

def openGroup (progress : Progress) : Progress :=
  { progress with parts := [], groups := ⟨[], progress.parts⟩ :: progress.groups }

def nextBranch (progress : Progress) : Progress :=
  match progress.groups with
  | [] => progress.push (.literal ',')
  | group :: groups =>
    { progress with
      parts := []
      groups := { group with branches := progress.parts.reverse :: group.branches } :: groups }

def closeGroup (progress : Progress) : Except Error Progress :=
  match progress.groups with
  | [] => .error .unopenedAlternates
  | group :: groups =>
    .ok { progress with
      parts := .alternatives (progress.parts.reverse :: group.branches).reverse :: group.around
      groups }

def pushStars (progress : Progress) : Progress := (progress.push .many).push .many

/-- Two stars that are a whole component, before a slash or at the end. The slash before them
belongs to them; stars that follow other such stars add nothing. -/
def pushComponent (progress : Progress) (atEnd : Bool) : Progress :=
  match progress.parts with
  | .leading :: _ | .trailing :: _ => progress
  | parts => { progress with parts := (if atEnd then .trailing else .between) :: parts.tail }

end Progress

/-- A class after its opening bracket, from the second character on: the ranges read so far, the
latest first, and whether the last one was followed by a dash. Returns the ranges in order and what
follows the closing bracket. -/
def readClassRest (ranges : List (Char × Char)) (dashed : Bool) :
    List Char → Except Error (List (Char × Char) × List Char)
  | [] => .error .unclosedClass
  | ']' :: rest => .ok ((if dashed then ('-', '-') :: ranges else ranges).reverse, rest)
  | c :: rest =>
    if dashed then
      match ranges with
      | (first, _) :: earlier =>
        if c < first then .error (.invalidRange first c)
        else readClassRest ((first, c) :: earlier) false rest
      | [] => readClassRest [(c, c)] false rest
    else if c = '-' then readClassRest ranges true rest
    else readClassRest ((c, c) :: ranges) false rest

def readClass (cs : List Char) : Except Error (Part × List Char) :=
  let (negated, cs) :=
    match cs with
    | '!' :: rest | '^' :: rest => (true, rest)
    | _ => (false, cs)
  match cs with
  | [] => .error .unclosedClass
  | c :: rest =>
    (readClassRest [(c, c)] false rest).map fun (ranges, rest) => (.oneOf negated ranges, rest)

/-- Two stars, with the character before them. Returns what follows them, without the slash that
belongs to them. -/
def readStars (progress : Progress) (previous : Option Char) (cs : List Char) :
    Progress × List Char :=
  let inGroup := !progress.groups.isEmpty
  if progress.parts.isEmpty then
    match cs with
    | [] => (progress.push .leading, [])
    | '/' :: rest => ({ progress.push .leading with previous := some '/' }, rest)
    | _ => (progress.pushStars, cs)
  else if previous ≠ some '/' && !(inGroup && (previous = some ',' || previous = some '\x7b')) then
    (progress.pushStars, cs)
  else
    match cs with
    | [] => (progress.pushComponent true, [])
    | '/' :: rest => ({ progress.pushComponent false with previous := some '/' }, rest)
    | c :: _ =>
      if inGroup && (c = ',' || c = '\x7d') then (progress.pushComponent true, cs)
      else (progress.pushStars, cs)

def readParts : Nat → Progress → List Char → Except Error (List Part)
  | _, progress, [] =>
    if progress.groups.isEmpty then .ok progress.parts.reverse else .error .unclosedAlternates
  | 0, _, _ :: _ => .ok []
  | steps + 1, progress, c :: rest =>
    let progressed : Progress := { progress with previous := some c }
    match c with
    | '?' => readParts steps (progressed.push .any) rest
    | '*' =>
      match rest with
      | '*' :: rest =>
        let (progress, rest) :=
          readStars { progress with previous := some '*' } progress.previous rest
        readParts steps progress rest
      | _ => readParts steps (progressed.push .many) rest
    | '[' =>
      match readClass rest with
      | .ok (part, rest) =>
        readParts steps ({ progress with previous := some ']' }.push part) rest
      | .error error => .error error
    | '\x7b' => readParts steps progressed.openGroup rest
    | '\x7d' =>
      match progressed.closeGroup with
      | .ok progress => readParts steps progress rest
      | .error error => .error error
    | ',' => readParts steps progressed.nextBranch rest
    | '\\' =>
      match rest with
      | [] => .error .danglingEscape
      | escaped :: rest =>
        readParts steps ({ progress with previous := some escaped }.push (.literal escaped)) rest
    | c => readParts steps (progressed.push (.literal c)) rest

def parse (text : String) : Except Error (List Part) :=
  readParts text.toList.length {} text.toList

def errorMessage (text : String) (error : Error) : String :=
  s!"error parsing glob '{text}': {error.message}"

end SharpLint.Glob
