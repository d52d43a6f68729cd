import Mooring.Toml.Document
namespace Mooring.Toml

open Mooring.Record

/-- Why a document cannot be built. -/
inductive BuildError where
  /-- A key defined twice; the path of the table it is in, when known. -/
  | duplicateKey (key : String) (table : Option (List String))
  /-- A dotted key that runs into a value of this kind. -/
  | extendWrongType (path : List String) (actual : String)
  deriving DecidableEq

def BuildError.message : BuildError → String
  | .duplicateKey key none => "duplicate key `" ++ key ++ "`"
  | .duplicateKey key (some []) => "duplicate key `" ++ key ++ "` in document root"
  | .duplicateKey key (some path) =>
    "duplicate key `" ++ key ++ "` in table `" ++ ".".intercalate path ++ "`"
  | .extendWrongType path actual =>
    "dotted key `" ++ ".".intercalate path ++ "` attempted to extend non-table type (" ++ actual ++
      ")"

def duplicateAt (path : List Key) (i : Nat) : BuildError :=
  .duplicateKey ((path.getD i ⟨"", (0, 0)⟩).repr) (some ((path.take i).map (·.name)))

/-- Walks down `path` from `t`, making implicit tables where missing, and changes the table at
the end by `f`. A dotted walk refuses tables opened by headers. `walked` is the part of the whole
path before `path`, for messages. -/
def descend {β : Type} (dotted : Bool) (whole : List Key) (walked : Nat) (t : TableData)
    (f : TableData → Except BuildError (TableData × β)) :
    List Key → Except BuildError (TableData × β)
  | [] => f t
  | k :: ks =>
    match t.find? k.name with
    | none => do
      let (child, b) ← descend dotted whole (walked + 1) ⟨[], true, dotted, none⟩ f ks
      return (t.push k child.toItem, b)
    | some (.table entries implicit isDotted span) => do
      if dotted && !implicit then throw (.duplicateKey k.name none)
      let (child, b) ← descend dotted whole (walked + 1) ⟨entries, implicit, isDotted, span⟩ f ks
      return (t.replace k.name child.toItem, b)
    | some (.arrayOfTables tables span) =>
      match tables.getLast? with
      | some (.table entries implicit isDotted tspan) => do
        let (child, b) ←
          descend dotted whole (walked + 1) ⟨entries, implicit, isDotted, tspan⟩ f ks
        return (t.replace k.name (.arrayOfTables (tables.dropLast ++ [child.toItem]) span), b)
      | _ => throw (.extendWrongType ((whole.take (walked + 1)).map (·.repr)) "array of tables")
    | some v => throw (.extendWrongType ((whole.take (walked + 1)).map (·.repr)) v.typeName)

/-- Where a document is being built: the tables put in place so far, the table being filled,
its header path, and whether it belongs to an array of tables. -/
structure Builder where
  root : TableData
  current : TableData
  path : List Key
  inArray : Bool
  deriving Inhabited

namespace Builder

def new : Builder := ⟨.empty, .empty, [], false⟩

/-- Adds a pair `path.key = value` to the current table. -/
def addPair (b : Builder) (path : List Key) (key : Key) (value : Item) :
    Except BuildError Builder := do
  let current := match b.current.span, value.span? with
    | some (start, _), some (_, stop) => { b.current with span := some (start, stop) }
    | _, _ => b.current
  let (current, _) ← descend true path 0 current (fun t => do
    -- a plain key belongs in a table that no dotted key made, a dotted key in one that one did
    if t.dotted == path.isEmpty then throw (.duplicateKey key.name none)
    match t.find? key.name with
    | some _ => throw (.duplicateKey key.name (some (b.path.map (·.name))))
    | none => return (t.push key value, ())) path
  return { b with current := current }

/-- Puts the current table in its place. -/
def finish (b : Builder) : Except BuildError Builder := do
  let table := b.current
  match b.path.reverse with
  | [] => return { b with root := table, current := .empty, path := [], inArray := false }
  | last :: parentRev =>
    let parent := parentRev.reverse
    let (root, _) ← descend false b.path 0 b.root (fun p => do
      if b.inArray then
        match p.find? last.name with
        | none => return (p.push last (.arrayOfTables [table.toItem] none), ())
        | some (.arrayOfTables tables span) =>
          return (p.replace last.name (.arrayOfTables (tables ++ [table.toItem]) span), ())
        | some _ => throw (duplicateAt b.path parent.length)
      else
        match p.find? last.name with
        | none => return (p.push last table.toItem, ())
        | some (.table _ true _ _) => return (p.replace last.name table.toItem, ())
        | some _ => throw (duplicateAt b.path parent.length)) parent
    return { b with root := root, current := .empty, path := [], inArray := false }

/-- Opens the table of a header `[path]`. -/
def openTable (b : Builder) (path : List Key) (span : Span) : Except BuildError Builder := do
  let b ← b.finish
  match path.reverse with
  | [] => return b
  | last :: parentRev =>
    let parent := parentRev.reverse
    let (root, found) ← descend false path 0 b.root (fun p =>
      match p.find? last.name with
      | none => return (p, none)
      | some (.table entries true false _) => return (p.remove last.name, some entries)
      | some _ => throw (duplicateAt path parent.length)) parent
    return ⟨root, ⟨found.getD [], false, false, some span⟩, path, false⟩

/-- Opens a new table of the array of a header `[[path]]`. -/
def openArrayTable (b : Builder) (path : List Key) (span : Span) : Except BuildError Builder := do
  let b ← b.finish
  match path.reverse with
  | [] => return b
  | last :: parentRev =>
    let parent := parentRev.reverse
    let (root, _) ← descend false path 0 b.root (fun p =>
      match p.find? last.name with
      | none => return (p.push last (.arrayOfTables [] none), ())
      | some (.arrayOfTables _ _) => return (p, ())
      | some _ => throw (duplicateAt path parent.length)) parent
    return ⟨root, ⟨[], false, false, some span⟩, path, true⟩

end Builder

end Mooring.Toml
