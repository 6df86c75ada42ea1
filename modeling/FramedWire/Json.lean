import FramedWire.Number.Notation

/-!
# JSON values

Values of the JSON data format and their compact text. Numbers without a fraction keep
their digits as long as 64 bits hold them; all others are binary. The fields of an object
are written in the order in which they stand.
-/
namespace FramedWire

inductive JsonNumber where
  /-- A whole number that is not negative, below `2 ^ 64`. -/
  | natural (n : Nat)
  /-- A negative whole number, not below `-2 ^ 63`. -/
  | negative (n : Int)
  | real (x : Binary64)
  deriving DecidableEq, Repr

inductive Json where
  | null
  | bool (b : Bool)
  | number (n : JsonNumber)
  | string (text : String)
  | array (items : List Json)
  | object (fields : List (String × Json))
  deriving Repr, Inhabited

namespace JsonNumber

def ofInt (n : Int) : JsonNumber := if 0 ≤ n then .natural n.toNat else .negative n

def text : JsonNumber → String
  | .natural n => toString n
  | .negative n => toString n
  | .real x => x.format .json

end JsonNumber

namespace Json

def ofNat (n : Nat) : Json := .number (.natural n)

def ofInt (n : Int) : Json := .number (.ofInt n)

/-- A character inside a string: quotes, backslashes and controls are escaped. -/
def escapedChar (c : Char) : List Char :=
  if c = '\x22' ∨ c = '\\' then ['\\', c]
  else if c = '\x08' then ['\\', 'b']
  else if c = '\x0C' then ['\\', 'f']
  else if c = '\n' then ['\\', 'n']
  else if c = '\r' then ['\\', 'r']
  else if c = '\t' then ['\\', 't']
  else if c.toNat < 0x20 then
    ['\\', 'u', '0', '0', Nat.digitChar (c.toNat / 16), Nat.digitChar (c.toNat % 16)]
  else [c]

def quoted (text : String) : String :=
  String.ofList ('\x22' :: text.toList.flatMap escapedChar ++ ['\x22'])

mutual

/-- The text of a value, without any white space. -/
def compact : Json → String
  | .null => "null"
  | .bool true => "true"
  | .bool false => "false"
  | .number n => n.text
  | .string text => quoted text
  | .array items => "[" ++ ",".intercalate (compactAll items) ++ "]"
  | .object fields => "\x7b" ++ ",".intercalate (compactFields fields) ++ "\x7d"

def compactAll : List Json → List String
  | [] => []
  | item :: items => item.compact :: compactAll items

def compactFields : List (String × Json) → List String
  | [] => []
  | (key, value) :: fields => (quoted key ++ ":" ++ value.compact) :: compactFields fields

end

/-- Set a field among fields that are sorted by key; the last value of a key counts. -/
def insertField (key : String) (value : Json) : List (String × Json) → List (String × Json)
  | [] => [(key, value)]
  | (k, v) :: fields =>
    if key = k then (key, value) :: fields
    else if key < k then (key, value) :: (k, v) :: fields
    else (k, v) :: insertField key value fields

end Json

end FramedWire
