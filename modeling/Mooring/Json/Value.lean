import Mooring.Float.Binary64
import Mooring.Collections.KeyMap
namespace Mooring.Json

open Mooring.Float

/-- A JSON number by the kind it was read as. -/
inductive Number where
  /-- An integer in `0 ..= 2 ^ 64 - 1`. -/
  | natural (n : Nat)
  /-- An integer in `-2 ^ 63 ..= -1`. -/
  | negative (n : Int)
  /-- Any other number, as the nearest double. -/
  | float (x : Binary64)
  deriving DecidableEq

/-- A JSON value. -/
inductive Value where
  | null
  | bool (b : Bool)
  | number (n : Number)
  | string (s : String)
  | array (items : List Value)
  /-- Members sorted by key, each key once. -/
  | object (members : List (String × Value))

namespace Value

/-- Adds a member to a sorted member list, replacing the value of an equal key. -/
def insertMember (key : String) (v : Value) (members : List (String × Value)) :
    List (String × Value) :=
  Collections.KeyMap.insert key v members

/-- The object with these members, later ones replacing earlier ones of the same key. -/
def ofMembers (members : List (String × Value)) : Value :=
  .object (Collections.KeyMap.ofList members)

/-- The value of a member of an object. -/
def get? (v : Value) (key : String) : Option Value :=
  match v with
  | .object members => members.lookup key
  | _ => none

/-- The text of a string value. -/
def asString? : Value → Option String
  | .string s => some s
  | _ => none

/-- The value of a natural number below `2 ^ 64`. -/
def asNatural? : Value → Option Nat
  | .number (.natural n) => some n
  | _ => none

def isNull : Value → Bool
  | .null => true
  | _ => false

def nat (n : Nat) : Value := .number (.natural n)

def int (i : Int) : Value := if 0 ≤ i then .number (.natural i.toNat) else .number (.negative i)

/-- A string, or null. -/
def optString : Option String → Value
  | some s => .string s
  | none => .null

def strings (xs : List String) : Value := .array (xs.map .string)

end Value

end Mooring.Json
