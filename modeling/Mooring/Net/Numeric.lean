import Mooring.Net.IpAddr
namespace Mooring.Net

def digitsValue (radix : Nat) (ds : List Nat) : Nat := ds.foldl (fun acc d => acc * radix + d) 0

/-- The leading octal digits of a text, as values. -/
def leadingOctal : List Char → List Nat
  | [] => []
  | c :: rest => if '0' ≤ c && c ≤ '7' then (c.toNat - '0'.toNat) :: leadingOctal rest else []

/-- Reads a C integer constant at the start of a text, which must start with a digit. A `0x`
that no hexadecimal digit follows is read as the `0` alone. -/
def readCNumber (s : List Char) : Option (Nat × List Char) :=
  match s with
  | '0' :: x :: rest =>
    if x = 'x' || x = 'X' then
      let ds := leadingDigits 16 rest
      if ds.isEmpty then some (0, x :: rest) else some (digitsValue 16 ds, rest.drop ds.length)
    else
      let ds := leadingOctal s
      some (digitsValue 8 ds, s.drop ds.length)
  | c :: _ =>
    if c.isDigit then
      let ds := leadingDigits 10 s
      some (digitsValue 10 ds, s.drop ds.length)
    else none
  | [] => none

/-- The largest last part after as many parts before it: it fills the bytes they left. -/
def lastPartLimit : Nat → Nat
  | 0 => 0xffffffff
  | 1 => 0xffffff
  | 2 => 0xffff
  | _ => 0xff

/-- Reads the parts of a loose IPv4 address up to the first part no dot follows, with `done` the
parts read before; gives those before it, that last part and the rest of the text. A part
followed by a dot must be a byte, every part must fit in 32 bits, and `fuel` bounds the parts. -/
def readLooseParts : Nat → List Nat → List Char → Option (List Nat × Nat × List Char)
  | 0, _, _ => none
  | fuel + 1, done, s => do
    let (v, rest) ← readCNumber s
    if 0xffffffff < v then none
    else
      match rest with
      | '.' :: more =>
        if 3 ≤ done.length || 0xff < v then none else readLooseParts fuel (done ++ [v]) more
      | _ => some (done, v, rest)

namespace Ipv4Addr

def ofNat (n : Nat) : Ipv4Addr :=
  ⟨#v[UInt8.ofNat (n >>> 24), UInt8.ofNat (n >>> 16), UInt8.ofNat (n >>> 8), UInt8.ofNat n]⟩

/-- Reads a whole text as an IPv4 address in the loose numeric form. -/
def parseLoose? (text : String) : Option Ipv4Addr := do
  let (parts, last, rest) ← readLooseParts 4 [] text.toList
  if rest.isEmpty && last ≤ lastPartLimit parts.length then
    some (ofNat (digitsValue 256 parts * Nat.pow 256 (4 - parts.length) + last))
  else none

end Ipv4Addr

/-- Whether a zone is a decimal number below 2^32. -/
def isNumericZone (zone : List Char) : Bool :=
  !zone.isEmpty && zone.all Char.isDigit &&
    digitsValue 10 (zone.map fun c => c.toNat - '0'.toNat) ≤ 0xffffffff

namespace IpAddr

/-- The address a host name spells by number, if it spells one: in the usual form, as a loose
IPv4 address, or as an IPv6 address with a numeric zone. -/
def ofNumericHost? (host : String) : Option IpAddr :=
  match parse? host with
  | some a => some a
  | none =>
    match Ipv4Addr.parseLoose? host with
    | some a => some (.v4 a)
    | none =>
      match host.toList.span (· != '%') with
      | (address, '%' :: zone) =>
        match Ipv6Addr.read address with
        | some (a, []) => if isNumericZone zone then some (.v6 a) else none
        | _ => none
      | _ => none

/-- The address the system resolver gives a host name: the one the name spells by number, else,
for a name without a NUL character, the first one the name service has for it. -/
def resolve (names : String → Option IpAddr) (host : String) : Option IpAddr :=
  match ofNumericHost? host with
  | some a => some a
  | none => if host.toList.contains (Char.ofNat 0) then none else names host

end IpAddr

end Mooring.Net
