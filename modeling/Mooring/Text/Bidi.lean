import Mooring.Text.BidiData
import Mooring.Text.Table
namespace Mooring.Text

/-- How a code point behaves in bidirectional text. -/
inductive BidiClass where
  /-- Strong left-to-right (`L`). -/
  | leftToRight
  /-- Strong right-to-left (`R`). -/
  | rightToLeft
  /-- Strong right-to-left, of Arabic letters (`AL`). -/
  | arabicLetter
  /-- European digits (`EN`). -/
  | europeanNumber
  /-- Plus and minus signs (`ES`). -/
  | europeanSeparator
  /-- Currency and degree signs and the like (`ET`). -/
  | europeanTerminator
  /-- Arabic digits (`AN`). -/
  | arabicNumber
  /-- Commas, colons, full stops and the like (`CS`). -/
  | commonSeparator
  /-- Nonspacing marks (`NSM`). -/
  | nonspacingMark
  /-- Controls and format characters that leave no trace (`BN`). -/
  | boundaryNeutral
  /-- Paragraph separators (`B`). -/
  | paragraphSeparator
  /-- Segment separators, such as the tab (`S`). -/
  | segmentSeparator
  /-- Spaces (`WS`). -/
  | whiteSpace
  /-- All other neutrals (`ON`). -/
  | otherNeutral
  /-- Embeddings, overrides and isolates (`LRE` to `PDI`). -/
  | explicitControl
  deriving DecidableEq, Inhabited

/-- A class by its short name. -/
def BidiClass.ofName? : List Char → Option BidiClass
  | ['L'] => some .leftToRight
  | ['R'] => some .rightToLeft
  | ['A', 'L'] => some .arabicLetter
  | ['E', 'N'] => some .europeanNumber
  | ['E', 'S'] => some .europeanSeparator
  | ['E', 'T'] => some .europeanTerminator
  | ['A', 'N'] => some .arabicNumber
  | ['C', 'S'] => some .commonSeparator
  | ['N', 'S', 'M'] => some .nonspacingMark
  | ['B', 'N'] => some .boundaryNeutral
  | ['B'] => some .paragraphSeparator
  | ['S'] => some .segmentSeparator
  | ['W', 'S'] => some .whiteSpace
  | ['O', 'N'] => some .otherNeutral
  | ['L', 'R', 'E'] | ['L', 'R', 'O'] | ['R', 'L', 'E'] | ['R', 'L', 'O'] | ['P', 'D', 'F']
  | ['L', 'R', 'I'] | ['R', 'L', 'I'] | ['F', 'S', 'I'] | ['P', 'D', 'I'] => some .explicitControl
  | _ => none

/-- The classes, each from the code point of its entry up to the next entry's. -/
def bidiTable : Array (Nat × BidiClass) :=
  ((tableEntries bidiText).filterMap fun entry => do
    let (first, name) ← splitOnceChar ':' entry
    pure (hexValue first, ← BidiClass.ofName? name)).toArray

def bidiClass (c : Char) : BidiClass :=
  (bidiTable.getD (lastAtMost bidiTable (·.1) c.toNat 0 bidiTable.size) (0, .leftToRight)).2

/-- Whether a code point is right-to-left: a strong right-to-left one or an Arabic digit. -/
def isRightToLeft (c : Char) : Bool :=
  match bidiClass c with
  | .rightToLeft | .arabicLetter | .arabicNumber => true
  | _ => false

end Mooring.Text
