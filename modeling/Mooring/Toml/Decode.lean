import Mooring.Toml.Read
import Mooring.Float.Shortest
namespace Mooring.Toml

open Mooring.Record Mooring.Float

/-- Full positional notation, with a decimal point even for integral values. -/
def positionalStyle : FloatStyle := ⟨400, 400, true, "e"⟩

/-- A float as messages name it: positional, or `inf`, `-inf` or `NaN`. -/
def floatName (x : Binary64) : String :=
  if x.isNaN then "NaN"
  else if x.isInfinite then (if x.isNegative then "-inf" else "inf")
  else x.render positionalStyle

def datetimeKey : String := "$__toml_private_datetime"

def mapEntries (entries : List (Key × Item)) : List (String × Option Span × Item) :=
  entries.map fun (k, v) => (k.name, some k.span, v)

instance : Described Item where
  shape
    | .string s _ => .string s
    | .integer i _ => .integer i
    | .float x _ => .float (floatName x)
    | .boolean b _ => .bool b
    | .datetime d span => .map [(datetimeKey, none, .string d.toText span)]
    | .array items _ => .seq items
    | .inlineTable entries _ _ _ => .map (mapEntries entries)
    | .table entries _ _ _ => .map (mapEntries entries)
    | .arrayOfTables tables _ => .seq tables
  span := Item.span?
  refusesExtraItems := false

/-- Reads a TOML text and decodes its root table by `d`. -/
def decodeText {α : Type} (d : Decoder Item α) (text : String) : Except TomlError α := do
  let root ← parse text
  match decodeAt d root with
  | .ok a => .ok a
  | .error f => .error ⟨f.error.message, f.span⟩

end Mooring.Toml
