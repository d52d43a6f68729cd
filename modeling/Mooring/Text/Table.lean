import Mooring.Text.Pieces
namespace Mooring.Text

/-- The value of a hexadecimal digit, either case. -/
def hexDigitValue (c : Char) : Nat :=
  if c.isDigit then c.toNat - 48
  else if 'a' ≤ c && c ≤ 'f' then c.toNat - 87
  else c.toNat - 55

def hexValue (cs : List Char) : Nat := cs.foldl (fun acc c => acc * 16 + hexDigitValue c) 0

/-- The pieces between the occurrences of a separator, read in one pass from the left, so that
long tables need no deep recursion. -/
def splitAtEach (sep : Char) (cs : List Char) : List (List Char) :=
  let (last, done) := cs.foldl (fun (cur, done) c =>
    if c = sep then ([], cur.reverse :: done) else (c :: cur, done)) ([], [])
  (last.reverse :: done).reverse

def tableEntries (text : String) : List (List Char) :=
  (splitAtEach ';' text.toList).filter (!·.isEmpty)

/-- An entry `key:value`, the key one number or an inclusive range `first-last`. -/
def readRangeEntry (entry : List Char) : Option (Nat × Nat × List Char) :=
  match splitOnceChar ':' entry with
  | some (key, value) =>
    match splitOnceChar '-' key with
    | some (first, last) => some (hexValue first, hexValue last, value)
    | none => some (hexValue key, hexValue key, value)
  | none => none

/-- The last index in `[lo, hi)` whose key is at most `cp`, given that the key at `lo` is. -/
def lastAtMost {α : Type} [Inhabited α] (table : Array α) (key : α → Nat) (cp lo hi : Nat) :
    Nat :=
  if h : lo + 1 < hi then
    let mid := (lo + hi) / 2
    if key (table.getD mid default) ≤ cp then lastAtMost table key cp mid hi
    else lastAtMost table key cp lo mid
  else lo
termination_by hi - lo

/-- Values on sorted, disjoint, inclusive ranges of code points. -/
structure RangeTable (α : Type) where
  ranges : Array (Nat × Nat × α)

namespace RangeTable

/-- The value of the range holding a code point. -/
def find? {α : Type} [Inhabited α] (t : RangeTable α) (cp : Nat) : Option α :=
  let (first, last, v) := t.ranges.getD (lastAtMost t.ranges (·.1) cp 0 t.ranges.size) default
  if first ≤ cp && cp ≤ last then some v else none

/-- Reads a table of range entries, each value read by `value?`; unreadable entries are left out. -/
def read {α : Type} (text : String) (value? : List Char → Option α) : RangeTable α :=
  ⟨((tableEntries text).filterMap fun entry => do
    let (first, last, v) ← readRangeEntry entry
    let a ← value? v
    pure (first, last, a)).toArray⟩

end RangeTable

end Mooring.Text
