import SharpLint.Json.Findings
import SharpLint.Json.Printer
import SharpLint.Json.Reader

/-!
# Reports for programs

The findings as a JSON document: those of a single file as an object, those of none or several as an
array.
-/

namespace SharpLint.Report

def toJson : List Findings → Json
  | [findings] => findings.toJson
  | results => .array (results.map Findings.toJson)

def ofJson? : Json → Option (List Findings)
  | .array items => items.mapM Findings.ofJson?
  | value => (Findings.ofJson? value).map ([·])

def document (results : List Findings) : String := (toJson results).pretty ++ "\n"

def read? (text : String) : Option (List Findings) := (Json.parse? text).bind ofJson?

end SharpLint.Report
