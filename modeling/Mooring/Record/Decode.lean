namespace Mooring.Record

abbrev Span := Nat × Nat

/-- What a decoder sees of a value. -/
inductive Shape (ν : Type) where
  /-- Nothing; named `null` in messages. -/
  | unit
  | bool (b : Bool)
  | integer (i : Int)
  /-- A number that is not an integer, with the text that names it in messages. -/
  | float (text : String)
  | string (s : String)
  | seq (items : List ν)
  /-- Entries in the order they are visited, each key with its place when known. -/
  | map (entries : List (String × Option Span × ν))

/-- Data whose values show their shape. -/
class Described (ν : Type) where
  shape : ν → Shape ν
  /-- Where a value stands in its source, when known. -/
  span : ν → Option Span
  /-- Whether a record read from a sequence refuses elements beyond its fields. -/
  refusesExtraItems : Bool

/-- Why a value does not decode. -/
inductive DecodeError where
  | invalidType (found expected : String)
  | invalidValue (found expected : String)
  | invalidLength (length : Nat) (expected : String)
  | missingField (name : String)
  | unknownField (name : String) (expected : List String)
  deriving DecidableEq

/-- The names of the fields a record knows, as a message lists them. -/
def oneOf (names : List String) : String :=
  let quoted := names.map fun n => "`" ++ n ++ "`"
  match quoted with
  | [a] => a
  | [a, b] => a ++ " or " ++ b
  | _ => "one of " ++ ", ".intercalate quoted

def DecodeError.message : DecodeError → String
  | .invalidType found expected => "invalid type: " ++ found ++ ", expected " ++ expected
  | .invalidValue found expected => "invalid value: " ++ found ++ ", expected " ++ expected
  | .invalidLength n expected => "invalid length " ++ toString n ++ ", expected " ++ expected
  | .missingField name => "missing field `" ++ name ++ "`"
  | .unknownField name [] => "unknown field `" ++ name ++ "`, there are no fields"
  | .unknownField name expected => "unknown field `" ++ name ++ "`, expected " ++ oneOf expected

/-- A decoding failure and where it happened, when known. -/
structure Failure where
  error : DecodeError
  span : Option Span

/-- A character inside a quoted text of a message: quotes, backslashes and control characters
are escaped. -/
def debugChar (c : Char) : String :=
  match c with
  | '\x00' => "\\0"
  | '\t' => "\\t"
  | '\r' => "\\r"
  | '\n' => "\\n"
  | '\\' => "\\\\"
  | '"' => "\\\""
  | c =>
    if c.toNat < 0x20 || (0x7f ≤ c.toNat && c.toNat < 0xa0) then
      "\\u\x7b" ++ String.ofList (Nat.toDigits 16 c.toNat) ++ "\x7d"
    else String.singleton c

def debugQuote (s : String) : String :=
  "\"" ++ String.join (s.toList.map debugChar) ++ "\""

/-- What a value is, as a message names it. -/
def Shape.describe {ν : Type} : Shape ν → String
  | .unit => "null"
  | .bool b => "boolean `" ++ toString b ++ "`"
  | .integer i => "integer `" ++ toString i ++ "`"
  | .float text => "floating point `" ++ text ++ "`"
  | .string s => "string " ++ debugQuote s
  | .seq _ => "sequence"
  | .map _ => "map"

abbrev Decoder (ν α : Type) := ν → Except Failure α

variable {ν : Type} [Described ν]

/-- A failure without a place takes `span`. -/
def within {α : Type} (span : Option Span) : Except Failure α → Except Failure α
  | .error f => .error { f with span := f.span <|> span }
  | ok => ok

def fail {α : Type} (e : DecodeError) : Except Failure α := .error ⟨e, none⟩

def decodeAt {α : Type} (d : Decoder ν α) (v : ν) : Except Failure α :=
  within (Described.span v) (d v)

def mismatch {α : Type} (v : ν) (expected : String) : Except Failure α :=
  fail (.invalidType (Described.shape v).describe expected)

namespace Decoder

def string : Decoder ν String := fun v =>
  match Described.shape v with
  | .string s => .ok s
  | _ => mismatch v "a string"

def bool : Decoder ν Bool := fun v =>
  match Described.shape v with
  | .bool b => .ok b
  | _ => mismatch v "a boolean"

/-- An integer in `lo ..= hi`, the type named `name`. -/
def integerIn (lo hi : Int) (name : String) : Decoder ν Int := fun v =>
  match Described.shape v with
  | .integer i =>
    if lo ≤ i ∧ i ≤ hi then .ok i else fail (.invalidValue ("integer `" ++ toString i ++ "`") name)
  | _ => mismatch v name

def i64 : Decoder ν Int := integerIn (-Nat.pow 2 63) (Nat.pow 2 63 - 1) "i64"

def unsigned (bits : Nat) : Decoder ν Nat := fun v =>
  (integerIn 0 (Nat.pow 2 bits - 1) ("u" ++ toString bits) v).map Int.toNat

def any : Decoder ν ν := .ok

/-- Nothing as `none`, anything else by `d`. -/
def optional {α : Type} (d : Decoder ν α) : Decoder ν (Option α) := fun v =>
  match Described.shape v with
  | .unit => .ok none
  | _ => (d v).map some

/-- A sequence, each element by `d`, the first failure reported. -/
def list {α : Type} (d : Decoder ν α) : Decoder ν (List α) := fun v =>
  match Described.shape v with
  | .seq xs => xs.mapM (decodeAt d)
  | _ => mismatch v "a sequence"

/-- A map as its entries in order, each value by `d`. -/
def entries {α : Type} (d : Decoder ν α) : Decoder ν (List (String × α)) := fun v =>
  match Described.shape v with
  | .map es => es.mapM fun (k, ks, x) =>
    (within (Described.span x <|> ks) (d x)).map fun a => (k, a)
  | _ => mismatch v "a map"

end Decoder

/-- A field of a record: its key, whether it must be present, and a check of its value. -/
structure FieldSpec (ν : Type) where
  key : String
  required : Bool
  check : ν → Except Failure Unit

/-- How a record is read: its fields in declaration order, and how to build it from the values
of the fields that are present. -/
structure Fields (ν α : Type) where
  specs : List (FieldSpec ν)
  build : (String → Option ν) → Except Failure α

namespace Fields

instance : Functor (Fields ν) where
  map f x := ⟨x.specs, fun look => (x.build look).map f⟩

instance : Applicative (Fields ν) where
  pure a := ⟨[], fun _ => .ok a⟩
  seq f x :=
    let x := x ()
    ⟨f.specs ++ x.specs, fun look => do
      let g ← f.build look
      let a ← x.build look
      return g a⟩

/-- A field that must be present. -/
def required {α : Type} (key : String) (d : Decoder ν α) : Fields ν α :=
  ⟨[⟨key, true, fun v => (d v).map fun _ => ()⟩], fun look =>
    match look key with
    | some v => d v
    | none => fail (.missingField key)⟩

/-- A field that takes `fallback` when absent. -/
def withDefault {α : Type} (key : String) (d : Decoder ν α) (fallback : α) : Fields ν α :=
  ⟨[⟨key, false, fun v => (d v).map fun _ => ()⟩], fun look =>
    match look key with
    | some v => d v
    | none => .ok fallback⟩

/-- Checks the entries of a map in order, then the presence of required fields. -/
def checkMap (specs : List (FieldSpec ν)) (denyUnknown : Bool)
    (es : List (String × Option Span × ν)) : Except Failure Unit := do
  for (k, ks, v) in es do
    match specs.find? (·.key = k) with
    | some spec => within (Described.span v <|> ks) (spec.check v)
    | none =>
      if denyUnknown then
        within ks (fail (.unknownField k (specs.map (·.key))))
  for spec in specs do
    if spec.required && (es.find? (·.1 = spec.key)).isNone then fail (.missingField spec.key)

/-- Checks the elements of a sequence against the fields by position. -/
def checkSeq (expecting : String) : List (FieldSpec ν) → List ν → Nat → Except Failure Unit
  | [], _, _ => .ok ()
  | spec :: specs, x :: xs, i => do
    within (Described.span x) (spec.check x)
    checkSeq expecting specs xs (i + 1)
  | spec :: specs, [], i =>
    if spec.required then fail (.invalidLength i expecting)
    else checkSeq expecting specs [] (i + 1)

/-- Reads a record named `name`; `denyUnknown` refuses map entries that name no field. -/
def decode {α : Type} (name : String) (denyUnknown : Bool) (fields : Fields ν α) :
    Decoder ν α := fun v =>
  match Described.shape v with
  | .map es => do
    checkMap fields.specs denyUnknown es
    let located : String → Option ν := fun key => (es.find? (·.1 = key)).map (·.2.2)
    fields.build located
  | .seq xs => do
    let n := fields.specs.length
    let expecting := "struct " ++ name ++ " with " ++ toString n ++
      (if n = 1 then " element" else " elements")
    checkSeq expecting fields.specs xs 0
    if Described.refusesExtraItems ν && n < xs.length then
      fail (.invalidLength xs.length "fewer elements in array")
    fields.build fun key =>
      match fields.specs.findIdx? (·.key = key) with
      | some i => xs[i]?
      | none => none
  | _ => mismatch v ("struct " ++ name)

end Fields

end Mooring.Record
