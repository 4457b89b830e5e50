/-!
# JSON values

Natural numbers are told apart from other numbers, which keep the text they were written with: only
the former count anything. The fields of an object keep their order.
-/

namespace SharpLint

inductive Json where
  | null
  | bool (value : Bool)
  | count (value : Nat)
  /-- A number that is negative or written with a fraction or an exponent. -/
  | numeral (text : String)
  | string (value : String)
  | array (items : List Json)
  | object (fields : List (String × Json))

namespace Json

def field? (name : String) : Json → Option Json
  | object fields => fields.lookup name
  | _ => none

def bool? : Json → Option Bool
  | bool value => some value
  | _ => none

def count? : Json → Option Nat
  | count value => if value < UInt64.size then some value else none
  | _ => none

def string? : Json → Option String
  | string value => some value
  | _ => none

def array? : Json → Option (List Json)
  | array items => some items
  | _ => none

def strings (values : List String) : Json := array (values.map string)

end Json

end SharpLint
