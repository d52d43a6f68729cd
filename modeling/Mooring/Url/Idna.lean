import Mooring.Url.Data
import Mooring.Url.Punycode
import Mooring.Text.Canonical
import Mooring.Text.Bidi
namespace Mooring.Url.Idna

open Mooring.Text

/-- How UTS 46 treats a code point. -/
inductive Status where
  | valid
  | mapped
  | deviation
  | ignored
  | disallowed
  deriving DecidableEq, Inhabited

/-- A run of code points from `start` up to the next run's start, with one status and, for
mapped ones, one replacement. -/
structure Range where
  start : Nat
  status : Status
  replacement : List Char
  deriving Inhabited

def Status.ofLetter? : Char → Option Status
  | 'v' => some .valid
  | 'm' => some .mapped
  | 'd' => some .deviation
  | 'i' => some .ignored
  | 'x' => some .disallowed
  | _ => none

/-- Reads one range of the mapping text: hexadecimal start, status letter, replacement. -/
def Range.read? (entry : List Char) : Option Range :=
  let startHex := entry.takeWhile fun c => c.isDigit || c.isUpper
  match entry.drop startHex.length with
  | s :: rest => do
    let status ← Status.ofLetter? s
    let replacement :=
      if rest.isEmpty || rest = ['_'] then [] else (splitAtEach ',' rest).map (Char.ofNat ∘ hexValue)
    some ⟨hexValue startHex, status, replacement⟩
  | [] => none

def ranges : Array Range :=
  ((splitAtEach ';' mappingText.toList).filterMap Range.read?).toArray

/-- The combining marks, as increasing inclusive ranges. -/
def marks : Array (Nat × Nat) :=
  ((splitAtEach ';' markText.toList).filterMap fun entry =>
    match splitAtEach '-' entry with
    | [a, b] => some (hexValue a, hexValue b)
    | _ => none).toArray

def lookup (cp : Nat) : Range :=
  ranges.getD (lastAtMost ranges Range.start cp 0 ranges.size) default

/-- Whether a code point is a combining mark. -/
def isMark (c : Char) : Bool :=
  let (first, last) := marks.getD (lastAtMost marks Prod.fst c.toNat 0 marks.size) (0, 0)
  first ≤ c.toNat && c.toNat ≤ last && 0 < marks.size

/-- The code points a code point maps to, or `none` when it is disallowed. -/
def mapChar (c : Char) : Option (List Char) :=
  let r := lookup c.toNat
  match r.status with
  | .valid | .deviation => some [c]
  | .mapped => some r.replacement
  | .ignored => some []
  | .disallowed => none

def isDenied (c : Char) : Bool :=
  c.toNat ≤ 0x20 || c.toNat = 0x7F || "%#/:<>?@[\\]^|".toList.contains c

/-- Whether a code point may stand in a label as it is. -/
def isValid (c : Char) : Bool :=
  match (lookup c.toNat).status with
  | .valid | .deviation => true
  | _ => false

/-- How a code point joins its neighbours in cursive scripts. -/
inductive JoiningType where
  /-- Joins the code point after it. -/
  | left
  /-- Joins the code point before it. -/
  | right
  /-- Joins on both sides. -/
  | dual
  /-- Makes its neighbours join. -/
  | causing
  /-- Lets joining pass through. -/
  | transparent
  deriving DecidableEq, Inhabited

def JoiningType.ofName? : List Char → Option JoiningType
  | ['L'] => some .left
  | ['R'] => some .right
  | ['D'] => some .dual
  | ['C'] => some .causing
  | ['T'] => some .transparent
  | _ => none

def joiningTable : RangeTable JoiningType := RangeTable.read joiningText JoiningType.ofName?

def joiningType? (c : Char) : Option JoiningType := joiningTable.find? c.toNat

/-- Whether the first code point that is not transparent has a joining type that `ok` accepts. -/
def joinsOnward (ok : JoiningType → Bool) : List Char → Bool
  | [] => false
  | c :: rest =>
    match joiningType? c with
    | some .transparent => joinsOnward ok rest
    | some t => ok t
    | none => false

def isVirama (c : Char) : Bool := combiningClass c = 9

/-- Whether every joiner of a label stands where it may: the zero width joiner only after a
virama, the zero width non-joiner after a virama or between a code point that joins to the right
and one that joins to the left, transparent code points between. `before` is the part of the
label already read, reversed. -/
def joinersAllowed (before : List Char) : List Char → Bool
  | [] => true
  | c :: rest =>
    let afterVirama := (before.head?.map isVirama).getD false
    let ok :=
      if c = '\u200D' then afterVirama
      else if c = '\u200C' then afterVirama ||
        (joinsOnward (fun t => t == .left || t == .dual) before &&
          joinsOnward (fun t => t == .right || t == .dual) rest)
      else true
    ok && joinersAllowed (c :: before) rest

/-- The classes a left-to-right label may hold. -/
def allowedLeftToRight : BidiClass → Bool
  | .leftToRight | .europeanNumber | .europeanSeparator | .commonSeparator | .europeanTerminator
  | .otherNeutral | .boundaryNeutral | .nonspacingMark => true
  | _ => false

/-- The classes a right-to-left label may hold. -/
def allowedRightToLeft : BidiClass → Bool
  | .rightToLeft | .arabicLetter | .arabicNumber | .europeanNumber | .europeanSeparator
  | .commonSeparator | .europeanTerminator | .otherNeutral | .boundaryNeutral | .nonspacingMark => true
  | _ => false

/-- The bidi rule for one label of a name that holds right-to-left code points: a label starts
with a strong code point; a left-to-right one holds only left-to-right classes and ends, before
any nonspacing marks, with a left-to-right code point or a European digit; a right-to-left one
holds only right-to-left classes, ends with a right-to-left code point or a digit, and does not
mix European and Arabic digits. An empty label keeps the rule. -/
def bidiRuleHolds (label : List Char) : Bool :=
  match label with
  | [] => true
  | first :: _ =>
    let classes := label.map bidiClass
    let last := (classes.reverse.dropWhile (· == .nonspacingMark)).head?
    match bidiClass first with
    | .leftToRight =>
      classes.all allowedLeftToRight &&
        (last == some .leftToRight || last == some .europeanNumber)
    | .rightToLeft | .arabicLetter =>
      classes.all allowedRightToLeft &&
        (match last with
          | some .rightToLeft | some .arabicLetter | some .europeanNumber
          | some .arabicNumber => true
          | _ => false) &&
        !(classes.contains .europeanNumber && classes.contains .arabicNumber)
    | _ => false

/-- Checks one mapped label: its code points, for the bidi rule, and its ASCII form. -/
def checkLabel (label : List Char) : Option (List Char × List Char) := do
  let (unicode, ascii) ← match label with
    | 'x' :: 'n' :: '-' :: '-' :: rest => do
      guard (rest.all (·.toNat < 0x80))
      let decoded ← Punycode.decode rest
      guard (!decoded.isEmpty && decoded.any (0x80 ≤ ·.toNat) && decoded.all isValid)
      guard (isComposed decoded)
      some (decoded, label)
    | _ =>
      if label.all (·.toNat < 0x80) then some (label, label)
      else some (label, 'x' :: 'n' :: '-' :: '-' :: Punycode.encode label)
  guard (!(unicode.head?.map isMark).getD false)
  guard (joinersAllowed [] unicode)
  some (unicode, ascii)

/-- The ASCII form of a domain name, or `none` when it is not a valid one. -/
def toAscii (name : List Char) : Option String := do
  let mapped ← name.foldr (fun c acc => do
    let m ← mapChar c
    let rest ← acc
    pure (m ++ rest)) (some [])
  let normal := composed mapped
  guard (!normal.any isDenied)
  let labels ← (splitAtEach '.' normal).mapM checkLabel
  let unicode := labels.map (·.1)
  if unicode.any (·.any isRightToLeft) then guard (unicode.all bidiRuleHolds)
  pure (String.ofList (List.intercalate ['.'] (labels.map (·.2))))

end Mooring.Url.Idna
