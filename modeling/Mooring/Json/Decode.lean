import Mooring.Json.Writer
import Mooring.Record.Decode
namespace Mooring.Json

open Mooring.Record Mooring.Float

instance : Described Value where
  shape
    | .null => .unit
    | .bool b => .bool b
    | .number (.natural n) => .integer n
    | .number (.negative n) => .integer n
    | .number (.float x) => .float (x.render jsonFloat)
    | .string s => .string s
    | .array xs => .seq xs
    | .object ms => .map (ms.map fun (k, v) => (k, none, v))
  span _ := none
  refusesExtraItems := true

end Mooring.Json
