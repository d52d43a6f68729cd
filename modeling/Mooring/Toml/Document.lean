import Mooring.Record.Decode
import Mooring.Float.Binary64
namespace Mooring.Toml

open Mooring.Record Mooring.Float

/-- A calendar date. -/
structure Date where
  year : Nat
  month : Nat
  day : Nat
  deriving DecidableEq

/-- A time of day, to the nanosecond. -/
structure Time where
  hour : Nat
  minute : Nat
  second : Nat
  nanosecond : Nat
  deriving DecidableEq

/-- The offset of a time from UTC. -/
inductive Offset where
  /-- `Z`. -/
  | utc
  /-- A signed number of minutes. -/
  | minutes (m : Int)
  deriving DecidableEq

/-- A date, a time, or both, with an offset only when both are there. -/
structure Datetime where
  date : Option Date
  time : Option Time
  offset : Option Offset
  deriving DecidableEq

/-- Digits of `n`, padded with zeros to `width`. -/
def padded (width n : Nat) : String :=
  let ds := Nat.toDigits 10 n
  String.ofList (List.replicate (width - ds.length) '0' ++ ds)

def Date.toText (d : Date) : String :=
  padded 4 d.year ++ "-" ++ padded 2 d.month ++ "-" ++ padded 2 d.day

/-- A time; a fraction of a second is written without trailing zeros. -/
def Time.toText (t : Time) : String :=
  padded 2 t.hour ++ ":" ++ padded 2 t.minute ++ ":" ++ padded 2 t.second ++
    if t.nanosecond = 0 then ""
    else "." ++ String.ofList ((padded 9 t.nanosecond).toList.reverse.dropWhile (· = '0')).reverse

def Offset.toText : Offset → String
  | .utc => "Z"
  | .minutes m =>
    (if m < 0 then "-" else "+") ++ padded 2 (m.natAbs / 60) ++ ":" ++ padded 2 (m.natAbs % 60)

/-- The text of a datetime: date, `T`, time, offset, each when present. -/
def Datetime.toText (d : Datetime) : String :=
  (d.date.map Date.toText).getD "" ++
    (match d.time with
      | some t => (if d.date.isSome then "T" else "") ++ t.toText
      | none => "") ++
    (d.offset.map Offset.toText).getD ""

/-- A key as written, with its place. -/
structure Key where
  name : String
  span : Span
  deriving DecidableEq

def isBareChar (c : Char) : Bool := (c.isAlphanum && c.toNat < 0x80) || c = '-' || c = '_'

/-- A character between double quotes, escaped where it must be. -/
def escapeQuoted (c : Char) : String :=
  match c with
  | '\x08' => "\\b"
  | '\t' => "\\t"
  | '\n' => "\\n"
  | '\x0c' => "\\f"
  | '\r' => "\\r"
  | '"' => "\\\""
  | '\\' => "\\\\"
  | c =>
    if c.toNat < 0x20 || c.toNat = 0x7f then
      let ds := (Nat.toDigits 16 c.toNat).map Char.toUpper
      "\\u" ++ String.ofList (List.replicate (4 - ds.length) '0' ++ ds)
    else String.singleton c

/-- Whether three single quotes stand in a row. -/
def hasTripleQuote : List Char → Bool
  | '\'' :: '\'' :: '\'' :: _ => true
  | _ :: rest => hasTripleQuote rest
  | [] => false

/-- A key name as messages write it: bare when it can be; between single quotes when it holds a
backslash and nothing that single quotes cannot hold; else between double quotes, escaped. -/
def quoteKey (name : String) : String :=
  let cs := name.toList
  if !cs.isEmpty && cs.all isBareChar then name
  else
    let literal := cs.contains '\\' &&
      cs.all (fun c => c = '\t' || c = '\n' || 0x20 ≤ c.toNat) &&
      !hasTripleQuote cs && cs.getLast? != some '\''
    if literal then "'" ++ name ++ "'"
    else "\"" ++ String.join (cs.map escapeQuoted) ++ "\""

def Key.repr (k : Key) : String := quoteKey k.name

/-- A value, a table or an array of tables. -/
inductive Item where
  | string (s : String) (span : Span)
  | integer (i : Int) (span : Span)
  | float (x : Binary64) (span : Span)
  | boolean (b : Bool) (span : Span)
  | datetime (d : Datetime) (span : Span)
  | array (items : List Item) (span : Span)
  /-- A table written inside a value, or made by a dotted key inside one. -/
  | inlineTable (entries : List (Key × Item)) (implicit dotted : Bool) (span : Option Span)
  /-- A table of the document: opened by a header, or made on the way (`implicit`), or by a
  dotted key (`dotted`). -/
  | table (entries : List (Key × Item)) (implicit dotted : Bool) (span : Option Span)
  | arrayOfTables (tables : List Item) (span : Option Span)
  deriving Inhabited

namespace Item

/-- The kind of a value, as messages name it. -/
def typeName : Item → String
  | .string .. => "string"
  | .integer .. => "integer"
  | .float .. => "float"
  | .boolean .. => "boolean"
  | .datetime .. => "datetime"
  | .array .. => "array"
  | .inlineTable .. => "inline table"
  | .table .. => "table"
  | .arrayOfTables .. => "array of tables"

def span? : Item → Option Span
  | .string _ s | .integer _ s | .float _ s | .boolean _ s | .datetime _ s | .array _ s => some s
  | .inlineTable _ _ _ s | .table _ _ _ s | .arrayOfTables _ s => s

end Item

/-- The fields of a document table, apart from the item that holds them. -/
structure TableData where
  entries : List (Key × Item)
  implicit : Bool
  dotted : Bool
  span : Option Span
  deriving Inhabited

namespace TableData

def empty : TableData := ⟨[], false, false, none⟩

def toItem (t : TableData) : Item := .table t.entries t.implicit t.dotted t.span

def find? (t : TableData) (name : String) : Option Item :=
  (t.entries.find? (·.1.name = name)).map (·.2)

def push (t : TableData) (k : Key) (v : Item) : TableData := { t with entries := t.entries ++ [(k, v)] }

def replace (t : TableData) (name : String) (v : Item) : TableData :=
  { t with entries := t.entries.map fun (k, w) => if k.name = name then (k, v) else (k, w) }

def remove (t : TableData) (name : String) : TableData :=
  { t with entries := t.entries.filter (·.1.name ≠ name) }

end TableData

end Mooring.Toml
