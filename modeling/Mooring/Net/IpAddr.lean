namespace Mooring.Net

/-- An IPv4 address, by its four octets. -/
structure Ipv4Addr where
  octets : Vector UInt8 4
  deriving DecidableEq

/-- An IPv6 address, by its eight 16-bit groups. -/
structure Ipv6Addr where
  segments : Vector UInt16 8
  deriving DecidableEq

/-- An IPv4 or IPv6 address. -/
inductive IpAddr where
  | v4 (a : Ipv4Addr)
  | v6 (a : Ipv6Addr)
  deriving DecidableEq

/-- The value of a digit in base 10 or 16; hexadecimal letters may have either case. -/
def digitValue (radix : Nat) (c : Char) : Option Nat :=
  if '0' ≤ c && c ≤ '9' then some (c.toNat - '0'.toNat)
  else if radix = 16 && 'a' ≤ c && c ≤ 'f' then some (c.toNat - 'a'.toNat + 10)
  else if radix = 16 && 'A' ≤ c && c ≤ 'F' then some (c.toNat - 'A'.toNat + 10)
  else none

/-- The leading digits of a text, as values. -/
def leadingDigits (radix : Nat) : List Char → List Nat
  | [] => []
  | c :: rest =>
    match digitValue radix c with
    | some d => d :: leadingDigits radix rest
    | none => []

/-- Reads a number of one to `maxDigits` digits; more digits refuse the number, and so does a
leading zero before other digits unless `allowZeroPrefix`. -/
def readNumber (radix maxDigits : Nat) (allowZeroPrefix : Bool) (s : List Char) :
    Option (Nat × List Char) :=
  let ds := leadingDigits radix s
  if ds.isEmpty || maxDigits < ds.length then none
  else if !allowZeroPrefix && s.head? = some '0' && 1 < ds.length then none
  else some (ds.foldl (fun acc d => acc * radix + d) 0, s.drop ds.length)

/-- Runs a reader after a separator when `separated`, directly otherwise. -/
def afterSeparator {α : Type} (sep : Char) (separated : Bool)
    (read : List Char → Option (α × List Char)) (s : List Char) : Option (α × List Char) :=
  if separated then
    match s with
    | c :: rest => if c = sep then read rest else none
    | [] => none
  else read s

/-- Reads one octet of an IPv4 address. -/
def readOctet (s : List Char) : Option (UInt8 × List Char) :=
  match readNumber 10 3 false s with
  | some (n, rest) => if n < 256 then some (n.toUInt8, rest) else none
  | none => none

/-- Reads octets, each after a dot but the first. -/
def readOctets (first : Bool) : Nat → List Char → Option (List UInt8 × List Char)
  | 0, s => some ([], s)
  | n + 1, s =>
    match afterSeparator '.' (!first) readOctet s with
    | some (o, rest) =>
      match readOctets false n rest with
      | some (os, rest) => some (o :: os, rest)
      | none => none
    | none => none

namespace Ipv4Addr

def ofList (os : List UInt8) : Ipv4Addr := ⟨Vector.ofFn fun i => os.getD i 0⟩

def read (s : List Char) : Option (Ipv4Addr × List Char) :=
  (readOctets true 4 s).map fun (os, rest) => (ofList os, rest)

/-- The address as the two groups of an IPv6 address. -/
def groups (a : Ipv4Addr) : List UInt16 :=
  let o := a.octets.toList.map UInt8.toUInt16
  [o.getD 0 0 * 256 + o.getD 1 0, o.getD 2 0 * 256 + o.getD 3 0]

def toText (a : Ipv4Addr) : String :=
  ".".intercalate (a.octets.toList.map fun o => toString o.toNat)

end Ipv4Addr

def readGroup (s : List Char) : Option (UInt16 × List Char) :=
  (readNumber 16 4 true s).map fun (n, rest) => (n.toUInt16, rest)

/-- Reads up to `limit` groups, each after a colon but the first, where an IPv4 address may
stand for two groups while two slots are left. Gives the groups, whether they ended in an IPv4
address, and the rest; a group that cannot be read leaves its colon unread. -/
def readGroups (limit : Nat) : Nat → List Char → List UInt16 × Bool × List Char
  | 0, s => ([], false, s)
  | n + 1, s =>
    let index := limit - (n + 1)
    let embedded := if index + 1 < limit then
      afterSeparator ':' (0 < index) Ipv4Addr.read s else none
    match embedded with
    | some (a, rest) => (a.groups, true, rest)
    | none =>
      match afterSeparator ':' (0 < index) readGroup s with
      | some (g, rest) =>
        let (gs, v4, rest) := readGroups limit n rest
        (g :: gs, v4, rest)
      | none => ([], false, s)

namespace Ipv6Addr

/-- The address whose groups start with `head` and end with `tail`, zeros between. -/
def ofParts (head tail : List UInt16) : Ipv6Addr :=
  let gs := head ++ List.replicate (8 - head.length - tail.length) 0 ++ tail
  ⟨Vector.ofFn fun i => gs.getD i 0⟩

/-- Reads an IPv6 address at the start of a text. -/
def read (s : List Char) : Option (Ipv6Addr × List Char) :=
  let (head, headV4, rest) := readGroups 8 8 s
  if head.length = 8 then some (ofParts head [], rest)
  else if headV4 then none
  else
    match rest with
    | ':' :: ':' :: rest =>
      let limit := 7 - head.length
      let (tail, _, rest) := readGroups limit limit rest
      some (ofParts head tail, rest)
    | _ => none

/-- The IPv4 address this one maps, for `::ffff:a.b.c.d`. -/
def toIpv4Mapped (a : Ipv6Addr) : Option Ipv4Addr :=
  match a.segments.toList with
  | [0, 0, 0, 0, 0, 0xffff, x, y] =>
    some ⟨#v[(x >>> 8).toUInt8, (x &&& 0xff).toUInt8, (y >>> 8).toUInt8, (y &&& 0xff).toUInt8]⟩
  | _ => none

/-- The first longest run of zero groups, as start and length, scanning from `index` with the
current run starting at `start` of length `len`. -/
def longestZeros : List UInt16 → (index start len bestStart bestLen : Nat) → Nat × Nat
  | [], _, _, _, bestStart, bestLen => (bestStart, bestLen)
  | g :: gs, index, start, len, bestStart, bestLen =>
    if g = 0 then
      let start := if len = 0 then index else start
      let len := len + 1
      if bestLen < len then longestZeros gs (index + 1) start len start len
      else longestZeros gs (index + 1) start len bestStart bestLen
    else longestZeros gs (index + 1) 0 0 bestStart bestLen

def hexGroups (gs : List UInt16) : String :=
  ":".intercalate (gs.map fun g => String.ofList (Nat.toDigits 16 g.toNat))

def toText (a : Ipv6Addr) : String :=
  match a.toIpv4Mapped with
  | some v4 => "::ffff:" ++ v4.toText
  | none =>
    let gs := a.segments.toList
    let (start, len) := longestZeros gs 0 0 0 0 0
    if 1 < len then hexGroups (gs.take start) ++ "::" ++ hexGroups (gs.drop (start + len))
    else hexGroups gs

end Ipv6Addr

namespace IpAddr

/-- Reads a whole text as an address: IPv4 first, then IPv6. -/
def parse? (text : String) : Option IpAddr :=
  match Ipv4Addr.read text.toList with
  | some (a, []) => some (.v4 a)
  | some _ => none
  | none =>
    match Ipv6Addr.read text.toList with
    | some (a, []) => some (.v6 a)
    | _ => none

def toText : IpAddr → String
  | .v4 a => a.toText
  | .v6 a => a.toText

end IpAddr

end Mooring.Net
