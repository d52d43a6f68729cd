import Mooring.Text.CanonicalData
import Mooring.Text.Table
namespace Mooring.Text

def combiningTable : RangeTable Nat := RangeTable.read combiningText fun v => some (hexValue v)

/-- The canonical combining class of a code point; starters have class 0. -/
def combiningClass (c : Char) : Nat := (combiningTable.find? c.toNat).getD 0

/-- The full canonical decompositions, by code point. -/
def decompositionTable : Array (Nat × List Char) :=
  ((tableEntries decompositionText).filterMap fun entry => do
    let (cp, parts) ← splitOnceChar ':' entry
    pure (hexValue cp, (splitAtEach ',' parts).map fun p => Char.ofNat (hexValue p))).toArray

/-- The canonical composition pairs, keyed by `first * 0x110000 + second`. -/
def compositionTable : Array (Nat × Char) :=
  ((tableEntries compositionText).filterMap fun entry => do
    let (pair, composite) ← splitOnceChar ':' entry
    let (first, second) ← splitOnceChar ',' pair
    pure (hexValue first * 0x110000 + hexValue second, Char.ofNat (hexValue composite))).toArray

def hangulBase : Nat := 0xAC00
def leadBase : Nat := 0x1100
def vowelBase : Nat := 0x1161
def trailBase : Nat := 0x11A7
def vowelCount : Nat := 21
def trailCount : Nat := 28
/-- The number of syllables: 19 leading consonants, 21 vowels, 28 trailing consonants or none. -/
def syllableCount : Nat := 11172

/-- The jamo of a Hangul syllable. -/
def hangulParts (n : Nat) : List Char :=
  let i := n - hangulBase
  let lead := Char.ofNat (leadBase + i / (vowelCount * trailCount))
  let vowel := Char.ofNat (vowelBase + i % (vowelCount * trailCount) / trailCount)
  if i % trailCount = 0 then [lead, vowel]
  else [lead, vowel, Char.ofNat (trailBase + i % trailCount)]

/-- The full canonical decomposition of a code point. -/
def decomposeChar (c : Char) : List Char :=
  let n := c.toNat
  if hangulBase ≤ n && n < hangulBase + syllableCount then hangulParts n
  else
    let i := lastAtMost decompositionTable (·.1) n 0 decompositionTable.size
    match decompositionTable[i]? with
    | some (cp, parts) => if cp = n then parts else [c]
    | none => [c]

/-- Inserts a code point into a run sorted by class, after those of its class or a lower one. -/
def insertByClass (c : Char × Nat) : List (Char × Nat) → List (Char × Nat)
  | [] => [c]
  | d :: rest => if c.2 < d.2 then c :: d :: rest else d :: insertByClass c rest

/-- Sorts each run of code points of nonzero class by class, keeping the order within a class;
`run` holds the sorted run read so far. -/
def reorder (run : List (Char × Nat)) : List Char → List Char
  | [] => run.map (·.1)
  | c :: rest =>
    let k := combiningClass c
    if k = 0 then run.map (·.1) ++ c :: reorder [] rest
    else reorder (insertByClass (c, k) run) rest

/-- The canonical composite of two code points, if they have one. -/
def composePair (first second : Char) : Option Char :=
  let a := first.toNat
  let b := second.toNat
  if leadBase ≤ a && a < leadBase + 19 && vowelBase ≤ b && b < vowelBase + vowelCount then
    some (Char.ofNat (hangulBase + ((a - leadBase) * vowelCount + (b - vowelBase)) * trailCount))
  else if hangulBase ≤ a && a < hangulBase + syllableCount && (a - hangulBase) % trailCount = 0 &&
      trailBase < b && b < trailBase + trailCount then
    some (Char.ofNat (a + (b - trailBase)))
  else
    let key := a * 0x110000 + b
    let i := lastAtMost compositionTable (·.1) key 0 compositionTable.size
    match compositionTable[i]? with
    | some (k, composite) => if k = key then some composite else none
    | none => none

/-- Composes a decomposed, reordered text. `done` holds what comes before the current starter,
reversed; `starter` is the last starter; `marks` what followed it and was not composed into it,
reversed; `lastClass` the class of the last of those, or 0 when there are none. -/
def composeFrom (done : List Char) (starter : Option Char) (marks : List Char) (lastClass : Nat) :
    List Char → List Char
  | [] => (marks ++ starter.toList ++ done).reverse
  | c :: rest =>
    let k := combiningClass c
    let composite := if lastClass < k || lastClass = 0 then starter.bind (composePair · c) else none
    match composite with
    | some s => composeFrom done (some s) marks lastClass rest
    | none =>
      if k = 0 then composeFrom (marks ++ starter.toList ++ done) (some c) [] 0 rest
      else if starter.isNone then composeFrom (c :: done) none [] lastClass rest
      else composeFrom done starter (c :: marks) k rest

def composed (s : List Char) : List Char :=
  composeFrom [] none [] 0 (reorder [] (s.flatMap decomposeChar))

def isComposed (s : List Char) : Bool := composed s == s

end Mooring.Text
