namespace Mooring.Text.Utf8

/-- The bytes of one character. -/
def encodeChar (c : Char) : List UInt8 :=
  let n := c.toNat
  if n < 0x80 then [n.toUInt8]
  else if n < 0x800 then [(0xC0 + n / 64).toUInt8, (0x80 + n % 64).toUInt8]
  else if n < 0x10000 then
    [(0xE0 + n / 4096).toUInt8, (0x80 + n / 64 % 64).toUInt8, (0x80 + n % 64).toUInt8]
  else
    [(0xF0 + n / 262144).toUInt8, (0x80 + n / 4096 % 64).toUInt8,
      (0x80 + n / 64 % 64).toUInt8, (0x80 + n % 64).toUInt8]

def encode (s : String) : List UInt8 := s.toList.flatMap encodeChar

def isTail (b : UInt8) : Bool := 0x80 ≤ b && b ≤ 0xBF

/-- How many bytes a sequence with this lead byte has, and the range of its second byte;
`none` for a byte that starts no sequence. -/
def leadShape (b : UInt8) : Option (Nat × UInt8 × UInt8) :=
  if b < 0x80 then some (1, 0, 0)
  else if 0xC2 ≤ b && b ≤ 0xDF then some (2, 0x80, 0xBF)
  else if b == 0xE0 then some (3, 0xA0, 0xBF)
  else if b == 0xED then some (3, 0x80, 0x9F)
  else if 0xE1 ≤ b && b ≤ 0xEF then some (3, 0x80, 0xBF)
  else if b == 0xF0 then some (4, 0x90, 0xBF)
  else if 0xF1 ≤ b && b ≤ 0xF3 then some (4, 0x80, 0xBF)
  else if b == 0xF4 then some (4, 0x80, 0x8F)
  else none

/-- The code point of a well-formed sequence, from its lead byte and continuation bytes. -/
def codePoint (lead : UInt8) (tails : List UInt8) : Nat :=
  let start := match tails.length with
    | 0 => lead.toNat
    | 1 => lead.toNat % 32
    | 2 => lead.toNat % 16
    | _ => lead.toNat % 8
  tails.foldl (fun acc t => acc * 64 + t.toNat % 64) start

/-- Reads the sequence that starts with lead byte `b`: the character, or `none` for an
ill-formed prefix, and how many of the following bytes it takes. -/
def step (b : UInt8) (rest : List UInt8) : Option Char × Nat :=
  match leadShape b with
  | none => (none, 0)
  | some (1, _, _) => (some (Char.ofNat b.toNat), 0)
  | some (len, lo, hi) =>
    match rest with
    | b1 :: r1 =>
      if lo ≤ b1 && b1 ≤ hi then
        if len = 2 then (some (Char.ofNat (codePoint b [b1])), 1)
        else match r1 with
          | b2 :: r2 =>
            if isTail b2 then
              if len = 3 then (some (Char.ofNat (codePoint b [b1, b2])), 2)
              else match r2 with
                | b3 :: _ =>
                  if isTail b3 then (some (Char.ofNat (codePoint b [b1, b2, b3])), 3)
                  else (none, 2)
                | [] => (none, 2)
            else (none, 1)
          | [] => (none, 1)
      else (none, 0)
    | [] => (none, 0)

/-- Decodes, replacing each maximal ill-formed subsequence by U+FFFD. -/
def decodeLossy (bytes : List UInt8) : String :=
  String.ofList (go bytes)
where
  go : List UInt8 → List Char
    | [] => []
    | b :: rest =>
      let (c, k) := step b rest
      have : (rest.drop k).length < (b :: rest).length := by
        simp only [List.length_drop, List.length_cons]; omega
      c.getD '\uFFFD' :: go (rest.drop k)
  termination_by bytes => bytes.length

/-- Decodes a well-formed byte list, or refuses it. -/
def decode? (bytes : List UInt8) : Option String :=
  (go bytes).map String.ofList
where
  go : List UInt8 → Option (List Char)
    | [] => some []
    | b :: rest =>
      let (c, k) := step b rest
      have : (rest.drop k).length < (b :: rest).length := by
        simp only [List.length_drop, List.length_cons]; omega
      match c with
      | some c => (go (rest.drop k)).map (c :: ·)
      | none => none
  termination_by bytes => bytes.length

end Mooring.Text.Utf8
