import Mooring.Float.Binary64
namespace Mooring.Float

/-- A decimal `digits * 10 ^ exponent` with no trailing zero in `digits`. -/
structure Decimal where
  digits : Nat
  exponent : Int

namespace Decimal

/-- Compares `a * 10 ^ ka` with `b * 2 ^ qb` exactly: the result is `a * 10 ^ ka ≤ b * 2 ^ qb`
when `strict` is false, and `<` when it is true. -/
def tenBelowTwo (a : Nat) (ka : Int) (b : Nat) (qb : Int) (strict : Bool) : Bool :=
  let lhs := a * Nat.pow 10 ka.toNat * Nat.pow 2 (-qb).toNat
  let rhs := b * Nat.pow 2 qb.toNat * Nat.pow 10 (-ka).toNat
  if strict then lhs < rhs else lhs ≤ rhs

def digitCount (n : Nat) : Nat := (Nat.toDigits 10 n).length

/-- The floor of `log10 (num / den)` for positive fractions above `10 ^ -400`. -/
def log10Floor (num den : Nat) : Int :=
  (digitCount (num * Nat.pow 10 400 / den) : Int) - 1 - 400

/-- Drops trailing zeros into the exponent. -/
def normalize (digits : Nat) (exponent : Int) : Decimal :=
  go digits exponent (digitCount digits)
where
  go (d : Nat) (e : Int) : Nat → Decimal
    | 0 => ⟨d, e⟩
    | fuel + 1 => if d ≠ 0 ∧ d % 10 = 0 then go (d / 10) (e + 1) fuel else ⟨d, e⟩

/-- The decimal chosen on the grid of spacing `10 ^ k`, if that grid has a point in the interval
`[low, high] * 2 ^ s` around `v = num / den` (open at both ends unless `closed`). -/
def onGrid (num den low high : Nat) (s : Int) (closed : Bool) (k : Int) : Option Nat :=
  -- `v / 10 ^ k = n / d`
  let n := num * Nat.pow 10 (-k).toNat
  let d := den * Nat.pow 10 k.toNat
  let g := n / d
  let r := n % d
  -- `low * 2 ^ s ≤ c * 10 ^ k` and `c * 10 ^ k ≤ high * 2 ^ s`, strict unless `closed`
  let aboveLow (c : Nat) := !(tenBelowTwo c k low s closed)
  let belowHigh (c : Nat) := tenBelowTwo c k high s (!closed)
  let gIn := aboveLow g && belowHigh g
  let hIn := r ≠ 0 && aboveLow (g + 1) && belowHigh (g + 1)
  if gIn && hIn then
    if 2 * r < d then some g
    else if 2 * r > d then some (g + 1)
    else if g % 2 = 0 then some g else some (g + 1)
  else if gIn then some g
  else if hIn then some (g + 1)
  else none

/-- The shortest decimal that reads back as the finite positive value `m * 2 ^ q`. -/
def shortest (m : Nat) (q : Int) (narrowBelow : Bool) : Decimal :=
  -- the value and its interval, in units of `2 ^ (q - 2)`
  let v := 4 * m
  let low := if narrowBelow then v - 1 else v - 2
  let high := v + 2
  let s := q - 2
  let (num, den) := Binary64.scaleByTwo v s
  let e10 := log10Floor num den
  let closed := m % 2 = 0
  let rec search : Nat → Nat → Decimal
    | _, 0 => normalize m 0
    | n, fuel + 1 =>
      let k := e10 - (n : Int) + 1
      match onGrid num den low high s closed k with
      | some c => normalize c k
      | none => search (n + 1) fuel
  search 1 18

end Decimal

/-- The shortest decimal of a finite nonzero value's magnitude. -/
def Binary64.toDecimal (x : Binary64) : Decimal :=
  Decimal.shortest x.significand x.exponent
    (x.fraction = 0 && x.biasedExponent > 1)

/-- Where a printed double switches between positional and scientific notation, and how its
exponent is marked. -/
structure FloatStyle where
  /-- Positional for values in `[10 ^ -minExp, 10 ^ maxDigits)` -/
  maxDigits : Nat
  minExp : Nat
  /-- Whether an integral positional value keeps a trailing `.0` -/
  pointZero : Bool
  /-- The text before the exponent -/
  exponentMark : String

namespace Decimal

def digitString (n : Nat) : String := String.ofList (Nat.toDigits 10 n)

def zeros (n : Nat) : String := String.ofList (List.replicate n '0')

/-- Writes a decimal in a style: positional when its leading digit stands at `10 ^ (kk - 1)` with
`-minExp < kk ≤ maxDigits`, scientific with one digit before the point otherwise. -/
def render (style : FloatStyle) (d : Decimal) : String :=
  let ds := digitString d.digits
  let len : Int := ds.length
  let kk := len + d.exponent
  if 0 ≤ d.exponent ∧ kk ≤ style.maxDigits then
    ds ++ zeros d.exponent.toNat ++ (if style.pointZero then ".0" else "")
  else if 0 < kk ∧ kk ≤ style.maxDigits then
    String.ofList (ds.toList.take kk.toNat) ++ "." ++ String.ofList (ds.toList.drop kk.toNat)
  else if -(style.minExp : Int) < kk ∧ kk ≤ 0 then
    "0." ++ zeros (-kk).toNat ++ ds
  else
    let exp := kk - 1
    let expText := if exp < 0 then "-" ++ digitString (-exp).toNat else digitString exp.toNat
    match ds.toList with
    | [c] => String.singleton c ++ style.exponentMark ++ expText
    | c :: rest => String.singleton c ++ "." ++ String.ofList rest ++ style.exponentMark ++ expText
    | [] => style.exponentMark ++ expText

end Decimal

/-- Writes a finite value in a style; zero is written `0.0` or `0`, with its sign. -/
def Binary64.render (style : FloatStyle) (x : Binary64) : String :=
  let sign := if x.isNegative then "-" else ""
  if x.isZero then sign ++ (if style.pointZero then "0.0" else "0")
  else sign ++ x.toDecimal.render style

end Mooring.Float
