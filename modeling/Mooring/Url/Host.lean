import Mooring.Url.Idna
import Mooring.Text.Utf8
namespace Mooring.Url

open Mooring.Text

/-- Why a web address does not read. -/
inductive UrlError where
  | emptyHost
  | invalidDomain
  | invalidPort
  | invalidIpv4
  | invalidIpv6
  deriving DecidableEq

def UrlError.message : UrlError → String
  | .emptyHost => "empty host"
  | .invalidDomain => "invalid international domain name"
  | .invalidPort => "invalid port number"
  | .invalidIpv4 => "invalid IPv4 address"
  | .invalidIpv6 => "invalid IPv6 address"

inductive Host where
  | domain (name : String)
  | ipv4 (address : Nat)
  /-- The eight pieces of the address. -/
  | ipv6 (pieces : List Nat)
  deriving DecidableEq

/-- The value of a hexadecimal digit. -/
def hexDigit? (c : Char) : Option Nat :=
  if c.isDigit then some (c.toNat - 48)
  else if 'a' ≤ c && c ≤ 'f' then some (c.toNat - 87)
  else if 'A' ≤ c && c ≤ 'F' then some (c.toNat - 55)
  else none

/-- Replaces each `%` followed by two hexadecimal digits with the byte they name. -/
def percentDecode : List UInt8 → List UInt8
  | 0x25 :: tail@(a :: b :: rest) =>
    match hexDigit? (Char.ofNat a.toNat), hexDigit? (Char.ofNat b.toNat) with
    | some x, some y => (x * 16 + y).toUInt8 :: percentDecode rest
    | _, _ => 0x25 :: percentDecode tail
  | b :: rest => b :: percentDecode rest
  | [] => []

/-- One part of an IPv4 address: `none` when it is not a number, `some none` when it is one
that does not fit in 32 bits. -/
def ipv4Part (part : List Char) : Option (Option Nat) :=
  if part.isEmpty then none
  else
    let (radix, digits) := match part with
      | '0' :: 'x' :: rest | '0' :: 'X' :: rest => (16, rest)
      | '0' :: rest@(_ :: _) => (8, rest)
      | _ => (10, part)
    let values := digits.map fun c =>
      match hexDigit? c with
      | some v => if v < radix && (radix = 16 || c.isDigit) then some v else none
      | none => none
    if values.all Option.isSome then
      let n := values.foldl (fun acc v => acc * radix + v.getD 0) 0
      some (if n < Nat.pow 2 32 then some n else none)
    else none

/-- Whether the last label of a domain (the one before an empty last label) is a number. -/
def endsInNumber (domain : List Char) : Bool :=
  let parts := (splitAtEach '.' domain).reverse
  let last := match parts with
    | [] :: before :: _ => some before
    | [] :: [] => none
    | last :: _ => some last
    | [] => none
  match last with
  | none => false
  | some last => (!last.isEmpty && last.all Char.isDigit) || (ipv4Part last).isSome

/-- Reads an IPv4 address of one to four parts. -/
def parseIpv4 (domain : List Char) : Except UrlError Nat := do
  let parts := splitAtEach '.' domain
  let parts := if parts.getLast? = some [] then parts.dropLast else parts
  if 4 < parts.length then throw .invalidIpv4
  let numbers ← parts.mapM fun part =>
    match ipv4Part part with
    | some (some n) => pure n
    | _ => throw UrlError.invalidIpv4
  match numbers.reverse with
  | [] => throw .invalidIpv4
  | last :: firsts =>
    let firsts := firsts.reverse
    if Nat.pow 2 (8 * (4 - firsts.length)) ≤ last || firsts.any (255 < ·) then throw .invalidIpv4
    pure (firsts.zipIdx.foldl (fun acc (n, i) => acc + n * Nat.pow 2 (8 * (3 - i))) last)

def ipv4Text (a : Nat) : String :=
  ".".intercalate ([24, 16, 8, 0].map fun s => toString (a / Nat.pow 2 s % 256))

/-- The pieces read so far of an IPv6 address, and where `::` stood. -/
structure Ipv6Reader where
  pieces : List Nat
  compress : Option Nat

/-- The index of the next piece: `::` stands for at least one zero piece. -/
def Ipv6Reader.index (r : Ipv6Reader) : Nat :=
  r.pieces.length + (if r.compress.isSome then 1 else 0)

/-- Up to four hexadecimal digits, their value and the rest. -/
def hexPiece (s : List Char) : Nat × List Char × Nat :=
  let digits := (s.take 4).takeWhile fun c => (hexDigit? c).isSome
  (digits.foldl (fun acc c => acc * 16 + (hexDigit? c).getD 0) 0, s.drop digits.length,
    digits.length)

/-- The trailing IPv4 part of an IPv6 address: four decimal numbers up to 255 without leading
zeros, joined by dots, as two pieces. -/
def ipv6Tail (s : List Char) : Option (Nat × Nat) := do
  let numbers ← (splitAtEach '.' s).mapM fun part =>
    if part.isEmpty || !part.all Char.isDigit || (part.length > 1 && part.head? = some '0') then
      none
    else
      let n := part.foldl (fun acc c => acc * 10 + (c.toNat - 48)) 0
      if n ≤ 255 then some n else none
  match numbers with
  | [a, b, c, d] => some (a * 256 + b, c * 256 + d)
  | _ => none

/-- Reads pieces of an IPv6 address, at most `fuel` of them. -/
def ipv6Pieces : Nat → List Char → Ipv6Reader → Option Ipv6Reader
  | 0, _, _ => none
  | _, [], r => some r
  | fuel + 1, s@(c :: rest), r =>
    if r.index = 8 then none
    else if c = ':' then
      if r.compress.isSome then none
      else ipv6Pieces fuel rest ⟨r.pieces, some r.pieces.length⟩
    else
      let (value, after, count) := hexPiece s
      match after with
      | '.' :: _ =>
        if count = 0 || 6 < r.index then none
        else do
          let (hi, lo) ← ipv6Tail s
          some ⟨r.pieces ++ [hi, lo], r.compress⟩
      | ':' :: [] => none
      | ':' :: more => ipv6Pieces fuel more ⟨r.pieces ++ [value], r.compress⟩
      | [] => if count = 0 then none else some ⟨r.pieces ++ [value], r.compress⟩
      | _ => none

/-- Reads an IPv6 address, without its brackets. -/
def parseIpv6 (s : List Char) : Except UrlError (List Nat) :=
  let start : Option (List Char × Ipv6Reader) := match s with
    | ':' :: ':' :: rest => some (rest, ⟨[], some 0⟩)
    | ':' :: _ => none
    | _ => some (s, ⟨[], none⟩)
  match start with
  | none => .error .invalidIpv6
  | some (rest, r) =>
    if s.length < 2 then .error .invalidIpv6
    else
      match ipv6Pieces (s.length + 1) rest r with
      | none => .error .invalidIpv6
      | some r =>
        match r.compress with
        | some at_ =>
          if 8 ≤ r.pieces.length then .error .invalidIpv6
          else
            .ok (r.pieces.take at_ ++ List.replicate (8 - r.pieces.length) 0 ++ r.pieces.drop at_)
        | none => if r.pieces.length = 8 then .ok r.pieces else .error .invalidIpv6

/-- The first longest run of zero pieces, as its start and length. -/
def longestZeros (pieces : List Nat) : Nat × Nat :=
  let (best, _, _) := pieces.foldl (fun (best, run, i) p =>
    if p = 0 then
      let run := match run with
        | some (start, len) => some (start, len + 1)
        | none => some (i, 1)
      let best := match run, best with
        | some (start, len), (_, bestLen) => if bestLen < len then (start, len) else best
        | none, _ => best
      (best, run, i + 1)
    else (best, none, i + 1)) ((0, 0), none, 0)
  best

def hexText (n : Nat) : String := String.ofList (Nat.toDigits 16 n)

/-- An IPv6 address in its shortest form. -/
def ipv6Text (pieces : List Nat) : String :=
  let (start, len) := longestZeros pieces
  let texts := pieces.map hexText
  if len < 2 then ":".intercalate texts
  else ":".intercalate (texts.take start) ++ "::" ++ ":".intercalate (texts.drop (start + len))

namespace Host

/-- Reads the host of a web address. -/
def parse (text : String) : Except UrlError Host :=
  match text.toList with
  | '[' :: rest =>
    if rest.getLast? ≠ some ']' then .error .invalidIpv6
    else (parseIpv6 rest.dropLast).map ipv6
  | _ =>
    match Utf8.decode? (percentDecode text.toUTF8.toList) with
    | none => .error .invalidDomain
    | some name =>
      match Idna.toAscii name.toList with
      | none => .error .invalidDomain
      | some ascii =>
        if ascii.isEmpty then .error .emptyHost
        else if endsInNumber ascii.toList then (parseIpv4 ascii.toList).map ipv4
        else .ok (.domain ascii)

def toText : Host → String
  | .domain name => name
  | .ipv4 a => ipv4Text a
  | .ipv6 pieces => "[" ++ ipv6Text pieces ++ "]"

end Host

end Mooring.Url
