import Mooring.Json.Value
import Mooring.Text.Utf8
namespace Mooring.Json

open Mooring.Float

/-- Why a text is not JSON. -/
inductive ReadError where
  | eofWhileParsingList
  | eofWhileParsingObject
  | eofWhileParsingString
  | eofWhileParsingValue
  | expectedColon
  | expectedListCommaOrEnd
  | expectedObjectCommaOrEnd
  | expectedSomeIdent
  | expectedSomeValue
  | invalidEscape
  | invalidNumber
  | numberOutOfRange
  | invalidUnicodeCodePoint
  | controlCharacterWhileParsingString
  | keyMustBeAString
  | loneLeadingSurrogateInHexEscape
  | trailingComma
  | trailingCharacters
  | unexpectedEndOfHexEscape
  | recursionLimitExceeded
  deriving DecidableEq

namespace ReadError

/-- The refusals found at the end of the input, which more text could mend. -/
def isEof : ReadError → Bool
  | eofWhileParsingList | eofWhileParsingObject | eofWhileParsingString
  | eofWhileParsingValue => true
  | _ => false

def message : ReadError → String
  | eofWhileParsingList => "EOF while parsing a list"
  | eofWhileParsingObject => "EOF while parsing an object"
  | eofWhileParsingString => "EOF while parsing a string"
  | eofWhileParsingValue => "EOF while parsing a value"
  | expectedColon => "expected `:`"
  | expectedListCommaOrEnd => "expected `,` or `]`"
  | expectedObjectCommaOrEnd => "expected `,` or `\x7d`"
  | expectedSomeIdent => "expected ident"
  | expectedSomeValue => "expected value"
  | invalidEscape => "invalid escape"
  | invalidNumber => "invalid number"
  | numberOutOfRange => "number out of range"
  | invalidUnicodeCodePoint => "invalid unicode code point"
  | controlCharacterWhileParsingString =>
    "control character (\\u0000-\\u001F) found while parsing a string"
  | keyMustBeAString => "key must be a string"
  | loneLeadingSurrogateInHexEscape => "lone leading surrogate in hex escape"
  | trailingComma => "trailing comma"
  | trailingCharacters => "trailing characters"
  | unexpectedEndOfHexEscape => "unexpected end of hex escape"
  | recursionLimitExceeded => "recursion limit exceeded"

end ReadError

abbrev Bytes := List UInt8

/-- A value read off the front of the input, with the rest of the input. -/
abbrev Read (α : Type) := Except ReadError (α × Bytes)

namespace Reader

/-- The four whitespace bytes of JSON: space, line feed, tab and carriage return. -/
def isSpace (b : UInt8) : Bool := b == 0x20 || b == 0x0A || b == 0x09 || b == 0x0D

def skipSpace : Bytes → Bytes
  | b :: rest => if isSpace b then skipSpace rest else b :: rest
  | [] => []

def isDigit (b : UInt8) : Bool := 0x30 ≤ b && b ≤ 0x39

def digitValue (b : UInt8) : Nat := b.toNat - 0x30

def isExponentMark (b : UInt8) : Bool := b == 0x65 || b == 0x45

/-- Reads the rest of a literal after its first letter. -/
def literal : List UInt8 → Bytes → Except ReadError Bytes
  | [], s => .ok s
  | _ :: _, [] => .error .eofWhileParsingValue
  | c :: cs, b :: s => if b == c then literal cs s else .error .expectedSomeIdent

def u64Max : Nat := Nat.pow 2 64 - 1

def i32Max : Nat := Nat.pow 2 31 - 1

def passes (limit acc d : Nat) : Bool :=
  acc ≥ limit / 10 && (acc > limit / 10 || d > limit % 10)

def clampI32 (x : Int) : Int := max (-(Nat.pow 2 31)) (min x (Nat.pow 2 31 - 1))

/-- `significand * 10 ^ exponent`, scaled by the double nearest the power of ten; exponents beyond
`308` divide by `10 ^ 308` first, and a product that overflows is refused. -/
def fromParts (positive : Bool) (significand : Nat) (exponent : Int) :
    Except ReadError Binary64 :=
  (go (Binary64.ofNat significand) exponent 8).map (fun f => if positive then f else -f)
where
  go (f : Binary64) (exponent : Int) : Nat → Except ReadError Binary64
    | 0 => .ok f
    | fuel + 1 =>
      if exponent.natAbs ≤ 308 then
        if 0 ≤ exponent then
          let g := f * Binary64.powTen exponent.natAbs
          if g.isInfinite then .error .numberOutOfRange else .ok g
        else .ok (f / Binary64.powTen exponent.natAbs)
      else if f.isZero then .ok f
      else if 0 ≤ exponent then .error .numberOutOfRange
      else go (f / Binary64.powTen 308) (exponent + 308) fuel

/-- Skips a run of digits. -/
def skipDigits : Bytes → Bytes
  | b :: rest => if isDigit b then skipDigits rest else b :: rest
  | [] => []

/-- An exponent too large for 32 bits: zero, or refused when it would scale a nonzero
significand up. -/
def exponentOverflow (positive zeroSignificand positiveExp : Bool) (s : Bytes) : Read Binary64 :=
  if !zeroSignificand && positiveExp then .error .numberOutOfRange
  else .ok (Binary64.zero (!positive), skipDigits s)

/-- The digits of an exponent, after its first one. -/
def exponentDigits (positive : Bool) (significand : Nat) (start : Int) (positiveExp : Bool)
    (exp : Nat) : Bytes → Read Binary64
  | b :: rest =>
    if isDigit b then
      if passes i32Max exp (digitValue b) then
        exponentOverflow positive (significand == 0) positiveExp rest
      else exponentDigits positive significand start positiveExp (exp * 10 + digitValue b) rest
    else
      let e := if positiveExp then clampI32 (start + exp) else clampI32 (start - exp)
      (fromParts positive significand e).map (·, b :: rest)
  | [] =>
    let e := if positiveExp then clampI32 (start + exp) else clampI32 (start - exp)
    (fromParts positive significand e).map (·, [])

/-- An exponent, after its `e` or `E`. -/
def exponentPart (positive : Bool) (significand : Nat) (start : Int) (s : Bytes) :
    Read Binary64 :=
  let (positiveExp, s) := match s with
    | 0x2B :: r => (true, r)
    | 0x2D :: r => (false, r)
    | r => (true, r)
  match s with
  | [] => .error .eofWhileParsingValue
  | b :: rest =>
    if isDigit b then exponentDigits positive significand start positiveExp (digitValue b) rest
    else .error .invalidNumber

/-- The end of a number's digits: an exponent, or the value so far. -/
def finishFloat (positive : Bool) (significand : Nat) (exponent : Int) (s : Bytes) :
    Read Binary64 :=
  match s with
  | b :: rest =>
    if isExponentMark b then exponentPart positive significand exponent rest
    else (fromParts positive significand exponent).map (·, s)
  | [] => (fromParts positive significand exponent).map (·, [])

/-- Fraction digits that no longer fit: they are skipped. -/
def fractionOverflow (positive : Bool) (significand : Nat) (exponent : Int) (s : Bytes) :
    Read Binary64 :=
  finishFloat positive significand exponent (skipDigits s)

/-- Fraction digits, each one taken into the significand while it fits. -/
def fractionDigits (positive : Bool) (significand : Nat) (before after : Int) :
    Bytes → Read Binary64
  | b :: rest =>
    if isDigit b then
      if passes u64Max significand (digitValue b) then
        fractionOverflow positive significand (before + after) (b :: rest)
      else fractionDigits positive (significand * 10 + digitValue b) before (after - 1) rest
    else if after = 0 then .error .invalidNumber
    else finishFloat positive significand (before + after) (b :: rest)
  | [] =>
    if after = 0 then .error .eofWhileParsingValue
    else finishFloat positive significand (before + after) []

/-- Integer digits that no longer fit: each one counts in the exponent. -/
def longInteger (positive : Bool) (significand : Nat) (exponent : Int) : Bytes → Read Binary64
  | b :: rest =>
    if isDigit b then longInteger positive significand (exponent + 1) rest
    else if b == 0x2E then fractionDigits positive significand exponent 0 rest
    else if isExponentMark b then exponentPart positive significand exponent rest
    else (fromParts positive significand exponent).map (·, b :: rest)
  | [] => (fromParts positive significand exponent).map (·, [])

/-- An integer without fraction or exponent, by its sign and magnitude. -/
def integerValue (positive : Bool) (n : Nat) : Number :=
  if positive then .natural n
  else if n = 0 then .float (Binary64.zero true)
  else if n ≤ Nat.pow 2 63 then .negative (-(n : Int))
  else .float (-(Binary64.ofNat n))

/-- What follows an integer's digits. -/
def afterInteger (positive : Bool) (significand : Nat) (s : Bytes) : Read Number :=
  match s with
  | b :: rest =>
    if b == 0x2E then
      (fractionDigits positive significand 0 0 rest).map fun (f, r) => (.float f, r)
    else if isExponentMark b then
      (exponentPart positive significand 0 rest).map fun (f, r) => (.float f, r)
    else .ok (integerValue positive significand, s)
  | [] => .ok (integerValue positive significand, [])

/-- Integer digits after the first, while the significand fits in 64 bits. -/
def integerDigits (positive : Bool) (significand : Nat) : Bytes → Read Number
  | b :: rest =>
    if isDigit b then
      if passes u64Max significand (digitValue b) then
        (longInteger positive significand 0 (b :: rest)).map fun (f, r) => (.float f, r)
      else integerDigits positive (significand * 10 + digitValue b) rest
    else afterInteger positive significand (b :: rest)
  | [] => afterInteger positive significand []

/-- A number, after its sign if it has one. A leading zero stands alone. -/
def number (positive : Bool) (s : Bytes) : Read Number :=
  match s with
  | [] => .error .eofWhileParsingValue
  | b :: rest =>
    if b == 0x30 then
      match rest with
      | c :: _ => if isDigit c then .error .invalidNumber else afterInteger positive 0 rest
      | [] => afterInteger positive 0 []
    else if isDigit b then integerDigits positive (digitValue b) rest
    else .error .invalidNumber

def hexValue (b : UInt8) : Option Nat :=
  if isDigit b then some (digitValue b)
  else if 0x61 ≤ b && b ≤ 0x66 then some (b.toNat - 0x61 + 10)
  else if 0x41 ≤ b && b ≤ 0x46 then some (b.toNat - 0x41 + 10)
  else none

/-- Four hex digits. -/
def hex4 : Bytes → Except ReadError Nat
  | a :: b :: c :: d :: _ =>
    match hexValue a, hexValue b, hexValue c, hexValue d with
    | some a, some b, some c, some d => .ok (((a * 16 + b) * 16 + c) * 16 + d)
    | _, _, _, _ => .error .invalidEscape
  | _ => .error .eofWhileParsingString

def codePointBytes (n : Nat) : List UInt8 := Text.Utf8.encodeChar (Char.ofNat n)

/-- A `\u` escape after its `u`: its bytes, and how many input bytes it took. -/
def unicodeEscape (s : Bytes) : Except ReadError (List UInt8 × Nat) := do
  let n ← hex4 s
  if 0xDC00 ≤ n ∧ n ≤ 0xDFFF then .error .loneLeadingSurrogateInHexEscape
  else if n < 0xD800 ∨ 0xDBFF < n then .ok (codePointBytes n, 4)
  else
    match s.drop 4 with
    | [] => .error .eofWhileParsingString
    | c :: r =>
      if c != 0x5C then .error .unexpectedEndOfHexEscape
      else match r with
        | [] => .error .eofWhileParsingString
        | u :: r2 =>
          if u != 0x75 then .error .unexpectedEndOfHexEscape
          else do
            let low ← hex4 r2
            if low < 0xDC00 ∨ 0xDFFF < low then .error .loneLeadingSurrogateInHexEscape
            else .ok (codePointBytes ((n - 0xD800) * 1024 + (low - 0xDC00) + 0x10000), 10)

/-- An escape after its backslash: its bytes, and how many input bytes it took. -/
def escape : Bytes → Except ReadError (List UInt8 × Nat)
  | [] => .error .eofWhileParsingString
  | c :: r =>
    if c == 0x22 then .ok ([0x22], 1)
    else if c == 0x5C then .ok ([0x5C], 1)
    else if c == 0x2F then .ok ([0x2F], 1)
    else if c == 0x62 then .ok ([0x08], 1)
    else if c == 0x66 then .ok ([0x0C], 1)
    else if c == 0x6E then .ok ([0x0A], 1)
    else if c == 0x72 then .ok ([0x0D], 1)
    else if c == 0x74 then .ok ([0x09], 1)
    else if c == 0x75 then (unicodeEscape r).map fun (bytes, k) => (bytes, k + 1)
    else .error .invalidEscape

/-- The decoded bytes of a string up to its closing quote, reversed onto `acc`. -/
def stringBytes (acc : List UInt8) : Bytes → Except ReadError (List UInt8 × Bytes)
  | [] => .error .eofWhileParsingString
  | b :: rest =>
    if b == 0x22 then .ok (acc.reverse, rest)
    else if b == 0x5C then
      match escape rest with
      | .ok (bytes, k) =>
        have : (rest.drop k).length < (b :: rest).length := by
          simp only [List.length_drop, List.length_cons]; omega
        stringBytes (bytes.reverse ++ acc) (rest.drop k)
      | .error e => .error e
    else if b < 0x20 then .error .controlCharacterWhileParsingString
    else stringBytes (b :: acc) rest
  termination_by s => s.length

/-- A string after its opening quote. -/
def string (s : Bytes) : Read String :=
  match stringBytes [] s with
  | .error e => .error e
  | .ok (bytes, rest) =>
    match Text.Utf8.decode? bytes with
    | some text => .ok (text, rest)
    | none => .error .invalidUnicodeCodePoint

/-- After a member's key: the colon. -/
def colon (s : Bytes) : Except ReadError Bytes :=
  match skipSpace s with
  | [] => .error .eofWhileParsingObject
  | b :: rest => if b == 0x3A then .ok rest else .error .expectedColon

mutual

/-- A value, with `depth` more levels of nesting allowed; `fuel` bounds the steps and is never
short once it exceeds twice the length of the input. -/
def value (fuel depth : Nat) (s : Bytes) : Read Value :=
  match fuel with
  | 0 => .error .recursionLimitExceeded
  | fuel + 1 =>
    match skipSpace s with
    | [] => .error .eofWhileParsingValue
    | b :: rest =>
      if b == 0x6E then (literal [0x75, 0x6C, 0x6C] rest).map (.null, ·)
      else if b == 0x74 then (literal [0x72, 0x75, 0x65] rest).map (.bool true, ·)
      else if b == 0x66 then (literal [0x61, 0x6C, 0x73, 0x65] rest).map (.bool false, ·)
      else if b == 0x2D then (number false rest).map fun (n, r) => (.number n, r)
      else if isDigit b then (number true (b :: rest)).map fun (n, r) => (.number n, r)
      else if b == 0x22 then (string rest).map fun (t, r) => (.string t, r)
      else if b == 0x5B then
        if depth ≤ 1 then .error .recursionLimitExceeded
        else (items fuel (depth - 1) true [] rest).map fun (xs, r) => (.array xs, r)
      else if b == 0x7B then
        if depth ≤ 1 then .error .recursionLimitExceeded
        else (members fuel (depth - 1) true [] rest).map fun (ms, r) => (.object ms, r)
      else .error .expectedSomeValue

/-- The items of an array after its `[`, up to and including its `]`. -/
def items (fuel depth : Nat) (first : Bool) (acc : List Value) (s : Bytes) : Read (List Value) :=
  match fuel with
  | 0 => .error .recursionLimitExceeded
  | fuel + 1 =>
    match skipSpace s with
    | [] => .error .eofWhileParsingList
    | b :: rest =>
      if b == 0x5D then .ok (acc.reverse, rest)
      else
        let next : Except ReadError Bytes :=
          if b == 0x2C && !first then
            match skipSpace rest with
            | [] => .error .eofWhileParsingValue
            | c :: r => if c == 0x5D then .error .trailingComma else .ok (c :: r)
          else if first then .ok (b :: rest)
          else .error .expectedListCommaOrEnd
        match next with
        | .error e => .error e
        | .ok t =>
          match value fuel depth t with
          | .error e => .error e
          | .ok (v, r) => items fuel depth false (v :: acc) r

/-- The members of an object after its `{`, up to and including its `}`. -/
def members (fuel depth : Nat) (first : Bool) (acc : List (String × Value)) (s : Bytes) :
    Read (List (String × Value)) :=
  match fuel with
  | 0 => .error .recursionLimitExceeded
  | fuel + 1 =>
    match skipSpace s with
    | [] => .error .eofWhileParsingObject
    | b :: rest =>
      if b == 0x7D then .ok (acc, rest)
      else
        let next : Except ReadError Bytes :=
          if b == 0x2C && !first then .ok (skipSpace rest)
          else if first then .ok (b :: rest)
          else .error .expectedObjectCommaOrEnd
        match next with
        | .error e => .error e
        | .ok [] => .error .eofWhileParsingValue
        | .ok (c :: r) =>
          if c == 0x22 then
            match string r with
            | .error e => .error e
            | .ok (key, r) =>
              match colon r with
              | .error e => .error e
              | .ok r =>
                match value fuel depth r with
                | .error e => .error e
                | .ok (v, r) => members fuel depth false (Value.insertMember key v acc) r
          else if c == 0x7D then .error .trailingComma
          else .error .keyMustBeAString

end

end Reader

/-- Reads a whole text as one JSON value; only whitespace may follow it. -/
def Value.read (s : Bytes) : Except ReadError Value :=
  match Reader.value (2 * s.length + 1) 128 s with
  | .error e => .error e
  | .ok (v, rest) =>
    match Reader.skipSpace rest with
    | [] => .ok v
    | _ :: _ => .error .trailingCharacters

def Value.readString (s : String) : Except ReadError Value :=
  Value.read (Text.Utf8.encode s)

end Mooring.Json
