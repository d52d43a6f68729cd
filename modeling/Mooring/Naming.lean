import Mooring.Image.Name
import Mooring.Text.Regex
namespace Mooring.Naming

open Mooring.Text Mooring.Image

/-- Why no name could be given or recognized. -/
inductive NamingError where
  | invalidEmptyPlaceholder (pattern : String)
  | missingAlias (pattern : String)
  | nameCollisionExhausted (pattern : String) (maxIndex : Nat)
  | invalidPattern (pattern reason : String)
  | imageName (e : ImageNameError)
  deriving DecidableEq

namespace NamingError

def message : NamingError → String
  | .invalidEmptyPlaceholder p => "Invalid use of container naming pattern '%e' in '" ++ p ++ "'"
  | .missingAlias p => "Naming pattern '" ++ p ++ "' uses %a but the image has no alias"
  | .nameCollisionExhausted p m =>
    "Could not find a free container name for pattern '" ++ p ++ "' within " ++ toString m ++
      " indexes"
  | .invalidPattern p r => "Naming pattern '" ++ p ++ "' cannot be used for matching: " ++ r
  | .imageName e => e.message

/-- The variant's name, with the image error's own for a wrapped one. -/
def kind : NamingError → String
  | .invalidEmptyPlaceholder _ => "InvalidEmptyPlaceholder"
  | .missingAlias _ => "MissingAlias"
  | .nameCollisionExhausted _ _ => "NameCollisionExhausted"
  | .invalidPattern _ _ => "InvalidPattern"
  | .imageName e => "ImageNameError." ++ e.kind

end NamingError

/-- What a name is computed from. -/
structure NamingContext where
  pattern : String
  imageName : String
  aliasName : Option String
  /-- The build time, in milliseconds since the epoch. -/
  timestampMillis : Int
  existing : List String

def defaultPattern : String := "%n-%i"

def defaultMaxIndex : Nat := 10000

def isSafeNameChar (c : Char) : Bool := c.isAlphanum || c = '_' || c = '.' || c = '-'

/-- Replaces each maximal run of unsafe characters by one `_`; `inRun` tells whether the
character before was unsafe. -/
def replaceUnsafe (inRun : Bool) : List Char → List Char
  | [] => []
  | c :: rest =>
    if isSafeNameChar c then c :: replaceUnsafe false rest
    else if inRun then replaceUnsafe true rest
    else '_' :: replaceUnsafe true rest

/-- The image's repository name without user, made safe for a container name. -/
def cleanImageName (image : String) : Except NamingError String :=
  match ImageName.parse image with
  | .error e => .error (.imageName e)
  | .ok n => .ok (String.ofList (replaceUnsafe false n.simpleName.toList))

/-- Whether the pattern asks the engine to choose the name; `%e` with anything else is refused. -/
def usesEmptyName (pattern : String) : Except NamingError Bool :=
  if pattern = "%e" then .ok true
  else if contains "%e".toList pattern.toList then .error (.invalidEmptyPlaceholder pattern)
  else .ok false

/-- A piece of a filled-in pattern: literal text, or a placeholder's value. -/
inductive Piece where
  | literal (c : Char)
  | value (text : String)
  /-- A run of at least this many decimal digits, in a pattern for matching. -/
  | digits (atLeast : Nat)

/-- Walks a pattern, replacing `%` and a letter by what `lookup` gives for the letter; a letter
without a value leaves the `%` as text. Lookups happen in pattern order, and the first error
ends the walk. -/
def render (lookup : Char → Except NamingError (Option Piece)) :
    List Char → Except NamingError (List Piece)
  | [] => .ok []
  | '%' :: t :: rest => do
    match ← lookup t with
    | some piece => return piece :: (← render lookup rest)
    | none => return .literal '%' :: (← render lookup (t :: rest))
  | c :: rest => do return .literal c :: (← render lookup rest)

namespace NamingContext

def aliasValue (ctx : NamingContext) : Except NamingError String :=
  match ctx.aliasName with
  | some a => .ok a
  | none => .error (.missingAlias ctx.pattern)

/-- The value of a placeholder letter for naming. -/
def lookup (ctx : NamingContext) : Char → Except NamingError (Option Piece)
  | 'a' => return some (.value (← ctx.aliasValue))
  | 'n' => return some (.value (← cleanImageName ctx.imageName))
  | 't' => return some (.value (toString ctx.timestampMillis))
  | _ => return none

/-- The pattern with alias, image name and time filled in; `%i` stays. -/
def partialName (ctx : NamingContext) : Except NamingError String := do
  let pieces ← render ctx.lookup ctx.pattern.toList
  return String.join (pieces.map fun
    | .literal c => String.singleton c
    | .value t => t
    | .digits _ => "")

end NamingContext

def candidate (partialName : String) (index : Nat) : String :=
  String.ofList (replaceAll "%i".toList (toString index).toList partialName.toList)

def asksIndex (partialName : String) : Bool := contains "%i".toList partialName.toList

/-- The least index from `start` on, within `fuel` indices, whose name is not taken. -/
def firstFree (partialName : String) (taken : List String) (start : Nat) : Nat → Option Nat
  | 0 => none
  | fuel + 1 =>
    if candidate partialName start ∈ taken then firstFree partialName taken (start + 1) fuel
    else some start

/-- Gives container names for contexts, with indices from 1 to `maxIndex`. -/
structure NameResolver where
  maxIndex : Nat

namespace NameResolver

def new (maxIndex : Nat) : NameResolver := ⟨max maxIndex 1⟩

instance : Inhabited NameResolver := ⟨⟨defaultMaxIndex⟩⟩

/-- The name for a context, or `none` when the engine is to choose it. -/
def calculateName (r : NameResolver) (ctx : NamingContext) :
    Except NamingError (Option String) := do
  if ← usesEmptyName ctx.pattern then return none
  let partialName ← ctx.partialName
  if !asksIndex partialName then return some partialName
  match firstFree partialName ctx.existing 1 r.maxIndex with
  | some i => return some (candidate partialName i)
  | none => .error (.nameCollisionExhausted partialName r.maxIndex)

/-- The name given last: the one before the least free index, `none` if index 1 is free. -/
def calculateLastName (r : NameResolver) (ctx : NamingContext) :
    Except NamingError (Option String) := do
  if ← usesEmptyName ctx.pattern then return none
  let partialName ← ctx.partialName
  if !asksIndex partialName then return some partialName
  match firstFree partialName ctx.existing 1 r.maxIndex with
  | some 1 => return none
  | some i => return some (candidate partialName (i - 1))
  | none => .error (.nameCollisionExhausted partialName r.maxIndex)

/-- Whether a name spells a matching pattern's pieces, digits for each digit run. -/
def spells : List Piece → List Char → Bool
  | [], cs => cs.isEmpty
  | .literal c :: ps, cs =>
    match cs with
    | d :: ds => c == d && spells ps ds
    | [] => false
  | .value t :: ps, cs =>
    match stripPrefix? t.toList cs with
    | some rest => spells ps rest
    | none => false
  | .digits n :: ps, cs =>
    let run := (cs.takeWhile isUnicodeDigit).length
    (List.range (run + 1)).any fun j => n ≤ j && spells ps (cs.drop j)

/-- The value of a placeholder letter for matching. -/
def matchLookup (ctx : NamingContext) : Char → Except NamingError (Option Piece)
  | 'a' => return some (.value (← ctx.aliasValue))
  | 'n' => return some (.value (← cleanImageName ctx.imageName))
  | 't' => return some (.digits 10)
  | 'i' => return some (.digits 1)
  | _ => return none

def isRegexMeta (c : Char) : Bool :=
  "\\.+*?()|[]^$#&-~".toList.contains c || c = Char.ofNat 0x7b || c = Char.ofNat 0x7d

def regexEscape (s : String) : String :=
  String.join (s.toList.map fun c => if isRegexMeta c then "\\" ++ c.toString else c.toString)

/-- The regex that matching builds from the pieces of a pattern. -/
def matchingRegex (pieces : List Piece) : String :=
  "^" ++ String.join (pieces.map fun
    | .literal c => regexEscape c.toString
    | .value t => regexEscape t
    | .digits n => if n = 1 then "\\d+" else "\\d\x7b" ++ toString n ++ ",\x7d") ++ "$"

/-- The names among `names` that the context's pattern produces. Matching builds a regex, whose
program takes `size` of its text in bytes and may not pass the crate's limit. -/
def matchingNames (r : NameResolver) (size : String → Nat) (ctx : NamingContext)
    (names : List String) : Except NamingError (List String) := do
  if ← usesEmptyName ctx.pattern then return names
  if asksIndex ctx.pattern then
    let partialName ← ctx.partialName
    -- the run of taken indices 1, 2, … ends before the least index whose name is absent
    let last := match firstFree partialName names 1 r.maxIndex with
      | some i => i - 1
      | none => r.maxIndex
    let earlier := (List.range (last - 1)).map fun j => candidate partialName (j + 1)
    return names.filter fun n => n ∉ earlier
  let pieces ← render (matchLookup ctx) ctx.pattern.toList
  if Regex.sizeLimit < size (matchingRegex pieces) then
    throw (.invalidPattern ctx.pattern Regex.tooBigMessage)
  return names.filter fun n => spells pieces n.toList

end NameResolver

end Mooring.Naming
