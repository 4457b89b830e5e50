import SharpLint.Source
import SharpLint.Yaml.Cursor

/-!
# Tokens of YAML

Besides the tokens that are written, there are those that indentation and colons imply: the start
and end of block collections and the keys of mappings. This module also reads the tokens that start
with a mark of their own: anchors, tags and directives. Addresses in tags are bytes, since their
escapes stand for bytes.
-/

namespace SharpLint.Yaml

inductive ScalarStyle where
  | plain
  | quoted
  | literal
  | folded
deriving DecidableEq, Repr

inductive Token where
  | versionDirective (major minor : Nat)
  | tagDirective (handle : String) (address : List UInt8)
  | documentStart
  | documentEnd
  | blockSequenceStart
  | blockMappingStart
  | blockEnd
  | flowSequenceStart
  | flowSequenceEnd
  | flowMappingStart
  | flowMappingEnd
  | blockEntry
  | flowEntry
  | key
  | value
  | alias (name : String)
  | anchor (name : String)
  | tag (handle : String) (suffix : List UInt8)
  | scalar (style : ScalarStyle) (text : String)
deriving DecidableEq, Repr

def readAnchorName (cursor : Cursor) : Option (String × Cursor) :=
  let name := cursor.rest.takeWhile isNameCharacter
  let cursor := cursor.skipMany name.length
  let ends := cursor.blankAhead 0 ||
    cursor.rest.head?.any (['?', ':', ',', ']', '\x7d', '%', '@', '\x60'].contains ·)
  if name.isEmpty || !ends then none else some (String.ofList name, cursor)

/-- A character of the address in a tag. Inside angle brackets and directives it may also be one
that ends a tag elsewhere. -/
def isAddressCharacter (delimited : Bool) (c : Char) : Bool :=
  isNameCharacter c ||
    [';', '/', '?', ':', '@', '&', '=', '+', '$', '.', '!', '~', '*', '\'', '(', ')', '%'].contains
      c ||
    (delimited && (c = ',' || c = '[' || c = ']'))

def hexDigit? (c : Char) : Option Nat :=
  if c.isDigit then some (c.toNat - '0'.toNat)
  else if 'a' ≤ c && c ≤ 'f' then some (c.toNat - 'a'.toNat + 10)
  else if 'A' ≤ c && c ≤ 'F' then some (c.toNat - 'A'.toNat + 10)
  else none

/-- How many escaped bytes have to follow an escaped byte, where `due` have to follow the one
before it. A byte that starts a character announces how many go on with it. -/
def dueAfter? (due octet : Nat) : Option Nat :=
  match due with
  | 0 =>
    if octet < 0x80 then some 0
    else if 0xc0 ≤ octet && octet < 0xe0 then some 1
    else if 0xe0 ≤ octet && octet < 0xf0 then some 2
    else if 0xf0 ≤ octet && octet < 0xf8 then some 3
    else none
  | due + 1 => if 0x80 ≤ octet && octet < 0xc0 then some due else none

/-- The bytes that an address stands for, where `due` escaped ones have to come first. A percent
sign and two hexadecimal digits are a byte. -/
def addressBytes? : Nat → List Char → Option (List UInt8)
  | due, '%' :: high :: low :: rest => do
    let octet := (← hexDigit? high) * 16 + (← hexDigit? low)
    let due ← dueAfter? due octet
    return octet.toUInt8 :: (← addressBytes? due rest)
  | 0, [] => some []
  | 0, c :: rest => if c = '%' then none else (addressBytes? 0 rest).map (c.toNat.toUInt8 :: ·)
  | _, _ => none

/-- The address of a tag, which may be empty only where `mayBeEmpty` says so. A zero byte ends it
wherever it stands. -/
def readAddress (delimited mayBeEmpty : Bool) (cursor : Cursor) : Option (List UInt8 × Cursor) :=
  let address := cursor.rest.takeWhile (isAddressCharacter delimited)
  if address.isEmpty && !mayBeEmpty then none
  else
    (addressBytes? 0 address).map fun bytes =>
      (bytes.takeWhile (· ≠ 0), cursor.skipMany address.length)

def readHandle (cursor : Cursor) : Option (List Char × Bool × Cursor) :=
  if cursor.isAt '!' then
    let name := (cursor.rest.drop 1).takeWhile isNameCharacter
    let cursor := cursor.skipMany (name.length + 1)
    if cursor.isAt '!' then some ('!' :: name ++ ['!'], true, cursor.skip)
    else some ('!' :: name, false, cursor)
  else none

def readTag (inFlow : Bool) (cursor : Cursor) : Option (Token × Cursor) :=
  let finish (handle : String) (suffix : List UInt8) (cursor : Cursor) : Option (Token × Cursor) :=
    if cursor.blankAhead 0 || (inFlow && cursor.isAt ',') then some (.tag handle suffix, cursor)
    else none
  if cursor.peek? 1 = some '<' then
    (readAddress true false (cursor.skipMany 2)).bind fun (address, cursor) =>
      if cursor.isAt '>' then finish "" address cursor.skip else none
  else
    (readHandle cursor).bind fun (handle, closed, cursor) =>
      if closed then
        (readAddress false false cursor).bind fun (suffix, cursor) =>
          finish (String.ofList handle) suffix cursor
      else
        (readAddress false true cursor).bind fun (address, cursor) =>
          match utf8 (String.ofList handle.tail) ++ address with
          | [] => finish "" (utf8 "!") cursor
          | suffix => finish "!" suffix cursor

def readVersionNumber (cursor : Cursor) : Option (Nat × Cursor) :=
  let digits := cursor.rest.takeWhile Char.isDigit
  if digits.isEmpty || 9 < digits.length then none
  else
    some (digits.foldl (fun value digit => value * 10 + (digit.toNat - '0'.toNat)) 0,
      cursor.skipMany digits.length)

def readVersion (cursor : Cursor) : Option (Token × Cursor) :=
  (readVersionNumber (cursor.skipWhile isBlank)).bind fun (major, cursor) =>
    if cursor.isAt '.' then
      (readVersionNumber cursor.skip).map fun (minor, cursor) =>
        (.versionDirective major minor, cursor)
    else none

def readTagDirective (cursor : Cursor) : Option (Token × Cursor) :=
  (readHandle (cursor.skipWhile isBlank)).bind fun (handle, closed, cursor) =>
    if (closed || handle = ['!']) && cursor.atBlank then
      (readAddress true false (cursor.skipWhile isBlank)).bind fun (address, cursor) =>
        if cursor.blankAhead 0 then
          some (.tagDirective (String.ofList handle) address, cursor)
        else none
    else none

def readDirective (cursor : Cursor) : Option (Token × Cursor) :=
  let name := (cursor.rest.drop 1).takeWhile isNameCharacter
  let after := cursor.skipMany (name.length + 1)
  let directive :=
    if !after.blankAhead 0 then none
    else if name = "YAML".toList then readVersion after
    else if name = "TAG".toList then readTagDirective after
    else none
  directive.bind fun (token, cursor) =>
    let cursor := cursor.skipToLineEnd
    if cursor.atLineEnd then some (token, cursor.readBreak.2) else none

end SharpLint.Yaml
