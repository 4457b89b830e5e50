import SharpLint.Config.Basic

/-!
# Reading configurations

A configuration is read from a value of some data format, by the rules all formats share: every
setting may be left out and then has its default, unknown keys are ignored, and a key given twice or
a value of the wrong type makes the configuration unreadable. A format says how it writes records,
lists and plain values; a record may also be given by position if the format allows it.
-/

namespace SharpLint

inductive RecordForm (ν : Type) where
  | byName (fields : List (String × ν))
  /-- The settings in order, those at the end left out. -/
  | byPosition (values : List ν)

structure DataFormat (ν : Type) where
  record? : ν → Option (RecordForm ν)
  list? : ν → Option (List ν)
  bool? : ν → Option Bool
  count? : ν → Option Nat
  string? : ν → Option String

namespace DataFormat

variable {ν α : Type}

def settings? (format : DataFormat ν) (names : List String) (value : ν) :
    Option (List (Option ν)) :=
  (format.record? value).bind fun
    | .byName fields =>
      names.mapM fun name =>
        match fields.filter (·.1 == name) with
        | [] => some none
        | [(_, value)] => some (some value)
        | _ => none
    | .byPosition values =>
      if values.length ≤ names.length then
        some (values.map some ++ List.replicate (names.length - values.length) none)
      else none

def orDefault (default : α) (read : ν → Option α) : Option ν → Option α
  | none => some default
  | some value => read value

def strings? (format : DataFormat ν) (value : ν) : Option (List String) :=
  (format.list? value).bind fun items => items.mapM format.string?

def single? (format : DataFormat ν) (name : String) (default : α) (read : ν → Option α)
    (value : ν) : Option α :=
  match format.settings? [name] value with
  | some [setting] => orDefault default read setting
  | _ => none

def counts? (format : DataFormat ν) (first second : String × Nat) (value : ν) :
    Option (Nat × Nat) :=
  match format.settings? [first.1, second.1] value with
  | some [one, two] =>
    match orDefault first.2 format.count? one, orDefault second.2 format.count? two with
    | some one, some two => some (one, two)
    | _, _ => none
  | _ => none

end DataFormat

namespace Config

variable {ν : Type}

def complexityOf? (format : DataFormat ν) (value : ν) : Option Check.ComplexityLimits :=
  (format.counts? ("max_complexity", ({} : Check.ComplexityLimits).maxComplexity)
    ("low_threshold", ({} : Check.ComplexityLimits).lowThreshold) value).map
      fun (maxComplexity, lowThreshold) => { maxComplexity, lowThreshold }

def sizeOf? (format : DataFormat ν) (value : ν) : Option Check.SizeLimits :=
  (format.counts? ("max_lines", ({} : Check.SizeLimits).maxLines)
    ("max_parameters", ({} : Check.SizeLimits).maxParameters) value).map
      fun (maxLines, maxParameters) => { maxLines, maxParameters }

def duplicationOf? (format : DataFormat ν) (value : ν) : Option Check.DuplicationLimits :=
  (format.counts? ("min_statements", ({} : Check.DuplicationLimits).minStatements)
    ("preview_chars", ({} : Check.DuplicationLimits).previewCharacters) value).map
      fun (minStatements, previewCharacters) => { minStatements, previewCharacters }

def keys : List String :=
  ["parallel", "parser", "complexity", "size", "duplication", "naming", "disabled_analyzers",
   "excluded_paths"]

def decode? (format : DataFormat ν) (value : ν) : Option Config :=
  match format.settings? keys value with
  | some [parallel, parser, complexity, size, duplication, naming, disabled, excluded] => do
    let defaults : Config := {}
    return {
      parallel := ← DataFormat.orDefault defaults.parallel format.bool? parallel
      allowPartial := ←
        DataFormat.orDefault defaults.allowPartial
          (format.single? "allow_partial" defaults.allowPartial format.bool?) parser
      complexity := ← DataFormat.orDefault defaults.complexity (complexityOf? format) complexity
      size := ← DataFormat.orDefault defaults.size (sizeOf? format) size
      duplication := ←
        DataFormat.orDefault defaults.duplication (duplicationOf? format) duplication
      extraKeywords := ←
        DataFormat.orDefault defaults.extraKeywords
          (format.single? "extra_keywords" defaults.extraKeywords format.strings?) naming
      disabledAnalyzers := ←
        DataFormat.orDefault defaults.disabledAnalyzers format.strings? disabled
      excludedPaths := ← DataFormat.orDefault defaults.excludedPaths format.strings? excluded }
  | _ => none

end Config

end SharpLint
