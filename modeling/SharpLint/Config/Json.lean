import SharpLint.Config.Decoder
import SharpLint.Json.Basic

/-!
# Configurations as JSON
-/

namespace SharpLint

/-- JSON as a format of configurations: a record is an object, or an array of its settings. -/
def Json.format : DataFormat Json where
  record?
    | .object fields => some (.byName fields)
    | .array items => some (.byPosition items)
    | _ => none
  list? := Json.array?
  bool? := Json.bool?
  count? := Json.count?
  string? := Json.string?

namespace Config

def toJson (config : Config) : Json :=
  .object
    [("parallel", .bool config.parallel),
     ("parser", .object [("allow_partial", .bool config.allowPartial)]),
     ("complexity", .object
       [("max_complexity", .count config.complexity.maxComplexity),
        ("low_threshold", .count config.complexity.lowThreshold)]),
     ("size", .object
       [("max_lines", .count config.size.maxLines),
        ("max_parameters", .count config.size.maxParameters)]),
     ("duplication", .object
       [("min_statements", .count config.duplication.minStatements),
        ("preview_chars", .count config.duplication.previewCharacters)]),
     ("naming", .object [("extra_keywords", .strings config.extraKeywords)]),
     ("disabled_analyzers", .strings config.disabledAnalyzers),
     ("excluded_paths", .strings config.excludedPaths)]

def ofJson? (value : Json) : Option Config := decode? Json.format value

end Config

end SharpLint
