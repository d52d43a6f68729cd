namespace Mooring.Float

/-- A double-precision value, held as its 64 bits. -/
structure Binary64 where
  bits : UInt64
  deriving DecidableEq

namespace Binary64

def isNegative (x : Binary64) : Bool := (x.bits >>> 63) == 1

/-- The biased exponent field, `0` for zero and subnormals and `2047` for infinities and NaN. -/
def biasedExponent (x : Binary64) : Nat := ((x.bits >>> 52) &&& 0x7FF).toNat

def fraction (x : Binary64) : Nat := (x.bits &&& 0xFFFFFFFFFFFFF).toNat

def isFinite (x : Binary64) : Bool := x.biasedExponent != 2047

def isInfinite (x : Binary64) : Bool := x.biasedExponent == 2047 && x.fraction == 0

def isNaN (x : Binary64) : Bool := x.biasedExponent == 2047 && x.fraction != 0

def isZero (x : Binary64) : Bool := x.biasedExponent == 0 && x.fraction == 0

def significand (x : Binary64) : Nat :=
  if x.biasedExponent == 0 then x.fraction else x.fraction + Nat.pow 2 52

def exponent (x : Binary64) : Int :=
  if x.biasedExponent == 0 then -1074 else (x.biasedExponent : Int) - 1075

def make (negative : Bool) (biased frac : Nat) : Binary64 :=
  ⟨((if negative then Nat.pow 2 63 else 0) + (biased % 2048) * Nat.pow 2 52 + frac % Nat.pow 2 52).toUInt64⟩

def zero (negative : Bool) : Binary64 := make negative 0 0

def infinity (negative : Bool) : Binary64 := make negative 2047 0

def nan : Binary64 := make false 2047 (Nat.pow 2 51)

def neg (x : Binary64) : Binary64 := ⟨x.bits ^^^ 0x8000000000000000⟩

/-- The quotient `n / d` rounded to the nearest integer, a tie going to the even one. -/
def roundHalfEven (n d : Nat) : Nat :=
  let q := n / d
  let r := n % d
  if 2 * r < d then q
  else if 2 * r > d then q + 1
  else if q % 2 == 0 then q
  else q + 1

/-- `n * 2 ^ k` for an integer `k`, as the numerator and denominator of a fraction. -/
def scaleByTwo (n : Nat) (k : Int) : Nat × Nat :=
  if 0 ≤ k then (n * Nat.pow 2 k.toNat, 1) else (n, Nat.pow 2 (-k).toNat)

/-- The floor of `log2 (num / den)`, for positive `num` and `den`. -/
def log2Floor (num den : Nat) : Int :=
  let guess : Int := (num.log2 : Int) - (den.log2 : Int)
  let (a, b) := scaleByTwo den guess
  -- `num / den ≥ 2 ^ guess` exactly when `num * b ≥ a`
  if num * b ≥ a then guess else guess - 1

/-- The value nearest to `(num / den) * 2 ^ shift`, with the given sign.

The quantum of the result is `2 ^ (e - 52)` for a value in `[2 ^ e, 2 ^ (e + 1))`, but never
below `2 ^ -1074`; the scaled quotient is rounded half to even, and a carry into the 54th bit
moves the value up one binade. Values beyond the largest finite one become infinity. -/
def ofFraction (negative : Bool) (num den : Nat) (shift : Int) : Binary64 :=
  if num = 0 ∨ den = 0 then zero negative
  else
    let e := log2Floor num den + shift
    let quantum : Int := max (e - 52) (-1074)
    let (a, b) := scaleByTwo num (shift - quantum)
    let m := roundHalfEven a (den * b)
    let (m, quantum) := if m = Nat.pow 2 53 then (Nat.pow 2 52, quantum + 1) else (m, quantum)
    if m < Nat.pow 2 52 then make negative 0 m
    else
      let biased := quantum + 1075
      if biased ≥ 2047 then infinity negative
      else make negative biased.toNat (m - Nat.pow 2 52)

def ofNat (n : Nat) : Binary64 := ofFraction false n 1 0

/-- The product, rounded once. An infinite factor gives infinity, or NaN against zero. -/
def mul (x y : Binary64) : Binary64 :=
  let negative := x.isNegative != y.isNegative
  if x.isNaN || y.isNaN then nan
  else if x.isInfinite || y.isInfinite then
    if x.isZero || y.isZero then nan else infinity negative
  else ofFraction negative (x.significand * y.significand) 1 (x.exponent + y.exponent)

/-- The quotient, rounded once, for a finite dividend. A zero divisor gives infinity, or NaN
for a zero dividend; an infinite divisor gives zero. -/
def div (x y : Binary64) : Binary64 :=
  let negative := x.isNegative != y.isNegative
  if x.isNaN || y.isNaN || x.isInfinite then nan
  else if y.isInfinite then zero negative
  else if y.isZero then (if x.isZero then nan else infinity negative)
  else ofFraction negative x.significand y.significand (x.exponent - y.exponent)

instance : Mul Binary64 := ⟨mul⟩
instance : Div Binary64 := ⟨div⟩
instance : Neg Binary64 := ⟨neg⟩

def powTen (k : Nat) : Binary64 := ofNat (Nat.pow 10 k)

/-- The value nearest to `m * 10 ^ e`, with the given sign. Values whose leading digit stands
beyond `10 ^ 400` are infinite and those below `10 ^ -400` are zero, both far outside the range
of finite values, so the exact quotient is only formed for exponents of moderate size. -/
def ofDecimal (negative : Bool) (m : Nat) (e : Int) : Binary64 :=
  let lead := e + ((Nat.toDigits 10 m).length : Nat)
  if m = 0 then zero negative
  else if lead > 400 then infinity negative
  else if lead < -400 then zero negative
  else if 0 ≤ e then ofFraction negative (m * Nat.pow 10 e.toNat) 1 0
  else ofFraction negative m (Nat.pow 10 (-e).toNat) 0

end Binary64

end Mooring.Float
