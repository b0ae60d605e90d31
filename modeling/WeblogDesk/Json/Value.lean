/-
  WeblogDesk.Json.Value

  JSON values as a text writes them, and their normal form.

  An object keeps its entries in the order of the text, repeated keys included.
  `normalize` keeps the last entry of each key and sorts by code point, at every
  level; `compact` is the text of a value without blanks.
-/

import WeblogDesk.Dict
import WeblogDesk.Number.Layout
import WeblogDesk.Text.Hex

namespace WeblogDesk
namespace Json

/-- A number: an integer of at most 64 bits, or a double. -/
inductive Number where
  /-- From `-2 ^ 63` to `2 ^ 64 - 1`. -/
  | integer (n : Int)
  /-- Any other number, and `-0`. -/
  | double (negative : Bool) (magnitude : Double)
  deriving DecidableEq, Repr

/-- A JSON value with the entries of its objects as they were written. -/
inductive Value where
  | null
  | bool (b : Bool)
  | number (n : Number)
  | string (s : String)
  | array (items : List Value)
  | object (entries : List (String × Value))
  deriving Repr

/-- Positional from `0.00001` to `1000000000000000.0`, scientific beyond. -/
def layout : Layout := ⟨-5, 15⟩

/-- The text of a number. -/
def Number.text : Number → List Char
  | .integer n => (toString n).toList
  | .double negative magnitude => magnitude.text layout negative

/-! ## Normal form -/

mutual

/-- The value with each object's last entries, sorted by key. -/
def Value.normalize : Value → Value
  | .array items => .array (Value.normalizeItems items)
  | .object entries => .object (Dict.ofEntries (Value.normalizeEntries entries)).entries
  | v => v

/-- The items, each in normal form. -/
def Value.normalizeItems : List Value → List Value
  | [] => []
  | v :: rest => v.normalize :: Value.normalizeItems rest

/-- The entries, each value in normal form. -/
def Value.normalizeEntries : List (String × Value) → List (String × Value)
  | [] => []
  | (k, v) :: rest => (k, v.normalize) :: Value.normalizeEntries rest

end

/-! ## Compact text -/

/-- A character inside a string: quotes, backslashes and controls are escaped. -/
def escapeChar (c : Char) : List Char :=
  if c == '"' then ['\\', '"']
  else if c == '\\' then ['\\', '\\']
  else if c == '\x08' then ['\\', 'b']
  else if c == '\x0c' then ['\\', 'f']
  else if c == '\n' then ['\\', 'n']
  else if c == '\r' then ['\\', 'r']
  else if c == '\t' then ['\\', 't']
  else if c.toNat < 0x20 then
    ['\\', 'u', '0', '0', Text.lowerHex (c.toNat / 16), Text.lowerHex (c.toNat % 16)]
  else [c]

/-- A string in quotes. -/
def quote (s : String) : List Char :=
  '"' :: s.toList.flatMap escapeChar ++ ['"']

/-- What stands between the brackets of a list of written parts. -/
def joinComma : List (List Char) → List Char
  | [] => []
  | [part] => part
  | part :: rest => part ++ ',' :: joinComma rest

/-- One entry of an object, its value already written. -/
def writeEntry (key : String) (value : List Char) : List Char :=
  quote key ++ ':' :: value

mutual

/-- The text of a value without blanks. -/
def Value.write : Value → List Char
  | .null => ['n', 'u', 'l', 'l']
  | .bool true => ['t', 'r', 'u', 'e']
  | .bool false => ['f', 'a', 'l', 's', 'e']
  | .number n => n.text
  | .string s => quote s
  | .array items => '[' :: joinComma (Value.writeItems items) ++ [']']
  | .object entries => '\x7b' :: joinComma (Value.writeEntries entries) ++ ['\x7d']

/-- The texts of the items. -/
def Value.writeItems : List Value → List (List Char)
  | [] => []
  | v :: rest => v.write :: Value.writeItems rest

/-- The texts of the entries. -/
def Value.writeEntries : List (String × Value) → List (List Char)
  | [] => []
  | (k, v) :: rest => writeEntry k v.write :: Value.writeEntries rest

end

/-- The text of a value without blanks. -/
def Value.compact (v : Value) : String :=
  String.ofList v.write

end Json
end WeblogDesk
