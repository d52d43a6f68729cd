import Mooring.Json.Value
import Mooring.Float.Shortest
namespace Mooring.Json

open Mooring.Float

def jsonFloat : FloatStyle := ⟨16, 5, true, "e"⟩

def hexDigit (n : Nat) : Char := "0123456789abcdef".toList.getD n '0'

/-- The escaped form of one character inside a string. -/
def escapeChar (c : Char) : String :=
  if c = '"' then "\\\""
  else if c = '\\' then "\\\\"
  else if c = '\n' then "\\n"
  else if c = '\r' then "\\r"
  else if c = '\t' then "\\t"
  else if c.toNat = 8 then "\\b"
  else if c.toNat = 12 then "\\f"
  else if c.toNat < 0x20 then
    "\\u00" ++ String.singleton (hexDigit (c.toNat / 16)) ++ String.singleton (hexDigit (c.toNat % 16))
  else String.singleton c

def quote (s : String) : String := "\"" ++ String.join (s.toList.map escapeChar) ++ "\""

/-- The text of a number; a double that is not finite has no JSON text and is written `null`. -/
def Number.render : Number → String
  | .natural n => toString n
  | .negative n => toString n
  | .float x => if x.isFinite then x.render jsonFloat else "null"

mutual

/-- The compact text of a value. -/
def Value.render : Value → String
  | .null => "null"
  | .bool true => "true"
  | .bool false => "false"
  | .number n => n.render
  | .string s => quote s
  | .array items => "[" ++ Value.renderItems items ++ "]"
  | .object members => "\x7b" ++ Value.renderMembers members ++ "\x7d"

def Value.renderItems : List Value → String
  | [] => ""
  | [v] => v.render
  | v :: rest => v.render ++ "," ++ Value.renderItems rest

def Value.renderMembers : List (String × Value) → String
  | [] => ""
  | [(k, v)] => quote k ++ ":" ++ v.render
  | (k, v) :: rest => quote k ++ ":" ++ v.render ++ "," ++ Value.renderMembers rest

end

end Mooring.Json
