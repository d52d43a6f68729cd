namespace Mooring.Url.Punycode

def digitChar (d : Nat) : Char :=
  if d < 26 then Char.ofNat (0x61 + d) else Char.ofNat (0x30 + d - 26)

/-- The value of a digit; upper-case letters count as lower-case ones. -/
def digitValue (c : Char) : Option Nat :=
  let n := c.toNat
  if 0x61 ≤ n && n ≤ 0x7A then some (n - 0x61)
  else if 0x41 ≤ n && n ≤ 0x5A then some (n - 0x41)
  else if 0x30 ≤ n && n ≤ 0x39 then some (n - 0x30 + 26)
  else none

/-- The threshold of the digit at position `k` (a multiple of 36) under `bias`: between 1 and 26. -/
def threshold (k bias : Nat) : Nat :=
  if k ≤ bias then 1 else if bias + 26 ≤ k then 26 else k - bias

theorem threshold_pos (k bias : Nat) : 1 ≤ threshold k bias := by
  unfold threshold; split <;> (try split) <;> omega

theorem threshold_le (k bias : Nat) : threshold k bias ≤ 26 := by
  unfold threshold; split <;> (try split) <;> omega

/-- Divides `delta` by 35 until it is at most 455, counting 36 per division. -/
def shrink (delta k : Nat) : Nat × Nat :=
  if 455 < delta then shrink (delta / 35) (k + 36) else (delta, k)
termination_by delta
decreasing_by exact Nat.div_lt_self (by omega) (by omega)

/-- The bias after a code point, from the distance just written and the code points so far. -/
def adapt (delta numPoints : Nat) (first : Bool) : Nat :=
  let delta := if first then delta / 700 else delta / 2
  let delta := delta + delta / numPoints
  let (delta, k) := shrink delta 0
  k + 36 * delta / (delta + 38)

/-- The digits of `q` from position `k` on. -/
def encodeNumber (bias k q : Nat) : List Char :=
  let t := threshold k bias
  if q < t then [digitChar q]
  else digitChar (t + (q - t) % (36 - t)) :: encodeNumber bias (k + 36) ((q - t) / (36 - t))
termination_by q
decreasing_by
  have := threshold_pos k bias
  have := threshold_le k bias
  calc (q - threshold k bias) / (36 - threshold k bias)
      ≤ q - threshold k bias := Nat.div_le_self _ _
    _ < q := by omega

/-- The encoder between code points: the text so far, the distance, the bias, and how many code
points are written. -/
structure Encoder where
  out : List Char
  delta : Nat
  bias : Nat
  written : Nat

/-- Passes one code point of the label while writing the code point `m`. -/
def passOne (basic m : Nat) (e : Encoder) (c : Char) : Encoder :=
  if c.toNat < m then { e with delta := e.delta + 1 }
  else if c.toNat = m then
    ⟨e.out ++ encodeNumber e.bias 36 e.delta, 0, adapt e.delta (e.written + 1) (e.written = basic),
      e.written + 1⟩
  else e

/-- Writes the code points `todo`, increasing, the previous one being below `n`. -/
def encodeAll (label : List Char) (basic : Nat) : List Nat → Nat → Encoder → Encoder
  | [], _, e => e
  | m :: rest, n, e =>
    let e := { e with delta := e.delta + (m - n) * (e.written + 1) }
    let e := label.foldl (passOne basic m) e
    encodeAll label basic rest (m + 1) { e with delta := e.delta + 1 }

/-- Inserts into an increasing list without repeats. -/
def insertSorted (x : Nat) : List Nat → List Nat
  | [] => [x]
  | y :: ys => if x < y then x :: y :: ys else if x = y then y :: ys else y :: insertSorted x ys

/-- Encodes a label, without the `xn--` prefix. -/
def encode (label : List Char) : List Char :=
  let basic := label.filter (·.toNat < 0x80)
  let others := (label.filter (0x80 ≤ ·.toNat)).foldr (fun c acc => insertSorted c.toNat acc) []
  let e := encodeAll label basic.length others 128 ⟨[], 0, 72, basic.length⟩
  basic ++ (if basic.isEmpty then [] else ['-']) ++ e.out

/-- Reads one number from position `k` on, adding its digits, weighted by `w`, to `i`; gives the
new `i` and the rest. Values beyond 32 bits are refused. -/
def decodeNumber (bias : Nat) : List Char → Nat → Nat → Nat → Option (Nat × List Char)
  | [], _, _, _ => none
  | c :: rest, k, w, i => do
    let d ← digitValue c
    let i := i + d * w
    if Nat.pow 2 32 ≤ i then none
    else
      let t := threshold k bias
      if d < t then some (i, rest)
      else if Nat.pow 2 32 ≤ w * (36 - t) then none
      else decodeNumber bias rest (k + 36) (w * (36 - t)) i

theorem decodeNumber_shorter (bias : Nat) :
    ∀ (l : List Char) (k w i : Nat) (r : Nat × List Char),
      decodeNumber bias l k w i = some r → r.2.length < l.length
  | [], _, _, _, _, h => by simp [decodeNumber] at h
  | c :: rest, k, w, i, r, h => by
    simp only [decodeNumber, Option.bind_eq_bind] at h
    cases hd : digitValue c with
    | none => simp [hd] at h
    | some d =>
      simp only [hd, Option.bind_some] at h
      split at h
      · simp at h
      · split at h
        · cases h; simp
        · split at h
          · simp at h
          · have := decodeNumber_shorter bias rest _ _ _ r h
            simp; omega

/-- Reads the inserted code points, inserting each into `out`; `n` is the last code point and
`i` the last position. -/
def decodeAll (bias n i : Nat) (out : List Char) : List Char → Option (List Char)
  | [] => some out
  | c :: rest =>
    match h : decodeNumber bias (c :: rest) 36 1 i with
    | none => none
    | some (i', remaining) =>
      let count := out.length + 1
      let n' := n + i' / count
      let pos := i' % count
      if n' < 0xD800 || (0xDFFF < n' && n' < 0x110000) then
        decodeAll (adapt (i' - i) count (i = 0)) n' (pos + 1) (out.insertIdx pos (Char.ofNat n'))
          remaining
      else none
termination_by l => l.length
decreasing_by
  have := decodeNumber_shorter bias (c :: rest) 36 1 i (i', remaining) h
  simpa using this

/-- Decodes a label without its `xn--` prefix: the ASCII part is what stands before the last
hyphen. -/
def decode (label : List Char) : Option (List Char) :=
  let (basic, extended) := match label.reverse.span (· ≠ '-') with
    | (tail, []) => ([], tail.reverse)
    | (tail, _ :: head) => (head.reverse, tail.reverse)
  if basic.any (0x80 ≤ ·.toNat) then none
  else decodeAll 72 128 0 basic extended

end Mooring.Url.Punycode
