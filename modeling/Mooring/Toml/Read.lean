import Mooring.Toml.Lexical
import Mooring.Toml.Build
import Mooring.Toml.Report
namespace Mooring.Toml

open Reader Mooring.Record Mooring.Text

/-- A dotted key as the path of tables it walks and its last part. -/
def splitKey : List Key → List Key × Key
  | [] => ([], ⟨"", (0, 0)⟩)
  | [k] => ([], k)
  | k :: ks => let (path, last) := splitKey ks; (k :: path, last)

/-- Adds a pair `whole = value` to the entries of an inline table, walking `path`, the part of
`whole` not yet walked, through tables that dotted keys made and making those that are missing;
`i` counts the parts walked. -/
def insertInline (whole : List Key) (key : Key) (v : Item) :
    Nat → List (Key × Item) → List Key → Except BuildError (List (Key × Item))
  | _, entries, [] =>
    match entries.find? (·.1.name = key.name) with
    | some _ => .error (.duplicateKey key.name none)
    | none => .ok (entries ++ [(key, v)])
  | i, entries, k :: ks =>
    match entries.find? (·.1.name = k.name) with
    | none => do
      let child ← insertInline whole key v (i + 1) [] ks
      return entries ++ [(k, .inlineTable child true true none)]
    | some (_, .inlineTable es implicit dotted span) => do
      if !implicit then throw (.duplicateKey k.name none)
      let child ← insertInline whole key v (i + 1) es ks
      return entries.map fun (k', w) =>
        if k'.name = k.name then (k', .inlineTable child implicit dotted span) else (k', w)
    | some (_, w) => .error (.extendWrongType ((whole.take (i + 1)).map (·.repr)) w.typeName)

/-- The entries of an inline table made of pairs `path.key = value`. -/
def tableFromPairs (pairs : List (List Key × Key × Item)) : Except String (List (Key × Item)) :=
  (pairs.foldlM (fun entries (path, k, v) => insertInline path k v 0 entries path) []).mapError
    BuildError.message

/-- A string, a boolean or a special float: failures say a string was expected. -/
def stringLike {α : Type} (r : Reader α) : Reader α :=
  expecting (.char '\'') (expecting (.char '"') (label "string" r))

/-- `r` with the reader of nested values, or a refusal when nesting is too deep. -/
def nested {α : Type} (inner : Option (Reader Item)) (r : Reader Item → Reader α) : Reader α :=
  match inner with
  | some elem => r elem
  | none => cut (fail [] (some "recursion limit exceeded"))

section
variable (total : Nat)

/-- An array whose elements `elem` reads. -/
def arrayOf (elem : Reader Item) : Reader (List Item) := do
  byte 0x5B
  let items ← cut do
    if (← peek) == some 0x5D then return []
    let items ← separated (do wsCommentNewline; let v ← elem; wsCommentNewline; return v)
      (byte 0x2C)
    if !items.isEmpty then
      let _ ← optional (byte 0x2C)
    wsCommentNewline
    return items
  cut (expecting (.char ']') (label "array" (byte 0x5D)))
  return items

/-- A pair `key = value`, the value read by `elem`, followed by what `trailing` reads. -/
def pairWith (elem : Reader Item) (trailing : Reader Unit) : Reader (List Key × Key × Item) := do
  let keys ← key total
  cut do
    expecting (.char '=') (expecting (.char '.') (byte 0x3D))
    ws
    let v ← elem
    ws
    trailing
    let (path, last) := splitKey keys
    return (path, last, v)

/-- An inline table whose values `elem` reads. -/
def inlineTableOf (elem : Reader Item) : Reader (List (Key × Item)) := do
  byte 0x7B
  let entries ← cut <| tryMap (do
      let pairs ← separated (pairWith total elem (pure ())) (byte 0x2C)
      ws
      return pairs)
    tableFromPairs
  cut (expecting (.char '}') (label "inline table" (byte 0x7D)))
  return entries

/-- A value whose arrays and inline tables read their elements by `inner`, or refuse to nest
when there is no `inner`. -/
def valueWith (inner : Option (Reader Item)) : Reader Item := do
  let start ← offset total
  let item : Span → Item ← match ← peek with
    | some 0x22 | some 0x27 => do
      let s ← string
      pure (Item.string (textOf s))
    | some 0x5B => nested inner fun elem => do
      let items ← arrayOf elem
      pure (Item.array items)
    | some 0x7B => nested inner fun elem => do
      let entries ← inlineTableOf total elem
      pure fun span => Item.inlineTable entries false false (some span)
    | some 0x5F => expecting (.description "leading digit") do
      let i ← integer
      pure (Item.integer i)
    | some 0x2E => expecting (.description "leading digit") do
      let x ← float
      pure (Item.float x)
    | some 0x74 => stringLike do
      cut (literal (ascii "true"))
      pure (Item.boolean true)
    | some 0x66 => stringLike do
      cut (literal (ascii "false"))
      pure (Item.boolean false)
    | some 0x69 | some 0x6E => stringLike do
      let x ← specialFloat
      pure (Item.float x)
    | some b =>
      if b == 0x2B || b == 0x2D || isDigitByte b then
        orElse (do let d ← dateTime; pure (Item.datetime d)) <|
          orElse (do let x ← float; pure (Item.float x)) (do let i ← integer; pure (Item.integer i))
      else stringLike (fail [] none)
    | none => fail [] none
  let stop ← offset total
  return item (start, stop)

/-- A value in which arrays and inline tables nest at most `depth` deep. -/
def value : Nat → Reader Item
  | 0 => valueWith total none
  | depth + 1 => valueWith total (some (value depth))

/-- A table header `[path]` or `[[path]]`: the path and the place of the brackets and path. -/
def headerPath (opening closing : String) : Reader (List Key × Span) := do
  let start ← offset total
  literal (ascii opening)
  let path ← cut (key total)
  cut (expecting (.literal closing) (expecting (.char '.') (literal (ascii closing))))
  let stop ← offset total
  cut (expecting (.char '#') (expecting (.char '\n') lineTrailing))
  return (path, (start, stop))

/-- A table header, opening its table. -/
def header (b : Builder) : Reader Builder := label "table header" do
  match ← peekTwo with
  | none => fail [] none
  | some (0x5B, 0x5B) =>
    tryMap (headerPath total "[[" "]]") fun (path, span) =>
      (b.openArrayTable path span).mapError BuildError.message
  | some _ =>
    tryMap (headerPath total "[" "]") fun (path, span) =>
      (b.openTable path span).mapError BuildError.message

/-- One line of a document. -/
def statement (b : Builder) : Reader Builder := do
  match ← peek with
  | some 0x23 =>
    cut (do comment; lineEnding)
    return b
  | some 0x5B => cut (header total b)
  | some 0x0A | some 0x0D =>
    newline
    return b
  | some _ =>
    cut <| tryMap (pairWith total (value total 79)
        (expecting (.char '#') (expecting (.char '\n') lineTrailing)))
      fun (path, k, v) => (b.addPair path k v).mapError BuildError.message
  | none => fail [] none

/-- Lines until one cannot be read, at most `fuel` of them. -/
def statements : Nat → Builder → Reader Builder
  | 0, b => return b
  | fuel + 1, b => do
    match ← optional (do let b' ← statement total b; ws; return b') with
    | none => return b
    | some b' => statements fuel b'

/-- A whole document, after an optional byte order mark. -/
def document : Reader Builder := do
  let _ ← optional (literal [0xEF, 0xBB, 0xBF])
  ws
  let b ← statements total (← budget) Builder.new
  eof
  return b

end

/-- Reads a TOML text into its root table. -/
def parse (text : String) : Except TomlError Item :=
  let bytes := Utf8.encode text
  let total := bytes.length
  match document total bytes with
  | .ok (b, _) =>
    match b.finish with
    | .ok b => .ok b.root.toItem
    | .error e => .error ⟨e.message, none⟩
  | .error f =>
    let place := total - f.error.remaining
    .error ⟨f.error.message, some (if place = total then (place, place) else (place, place + 1))⟩

end Mooring.Toml
