import Mooring.Engine.Logs
namespace Mooring.Engine.LogDecoder

open Mooring.Text

/-- Pushes chunks in order, collecting the lines of all of them. -/
def pushAll (d : LogDecoder) : List (List UInt8) → LogDecoder × List LogLine
  | [] => (d, [])
  | c :: cs =>
    let r := (d.push c).1.pushAll cs
    (r.1, (d.push c).2 ++ r.2)

/-- One byte of a payload: a line feed ends the partial line, any other byte extends it. The
partial line and the lines are kept reversed. -/
def lineStep (stream : LogStream) : List UInt8 × List LogLine → UInt8 → List UInt8 × List LogLine :=
  fun (partial_, lines) b =>
    if b == 0x0A then ([], LogLine.parse stream (Utf8.decodeLossy partial_.reverse) :: lines)
    else (b :: partial_, lines)

section Lines

variable (d : LogDecoder) (s : LogStream)

theorem splitLines_eq (p : List UInt8) :
    d.splitLines s p =
      ({ d with partials := fun t =>
          if t = s then (p.foldl (lineStep s) ((d.partials s).reverse, [])).1.reverse
          else d.partials t },
        (p.foldl (lineStep s) ((d.partials s).reverse, [])).2.reverse) := by
  unfold splitLines
  rfl

@[simp] theorem splitLines_buffer (p : List UInt8) : (d.splitLines s p).1.buffer = d.buffer := rfl

theorem foldl_lineStep (q pt : List UInt8) (ls : List LogLine) :
    q.foldl (lineStep s) (pt, ls) =
      ((q.foldl (lineStep s) (pt, [])).1, (q.foldl (lineStep s) (pt, [])).2 ++ ls) := by
  induction q generalizing pt ls with
  | nil => simp
  | cons b q ih =>
    simp only [List.foldl_cons, lineStep]
    split
    · rw [ih [] (_ :: ls), ih [] [_]]
      simp
    · exact ih (b :: pt) ls

theorem splitLines_append (p q : List UInt8) :
    d.splitLines s (p ++ q) =
      (((d.splitLines s p).1.splitLines s q).1,
        (d.splitLines s p).2 ++ ((d.splitLines s p).1.splitLines s q).2) := by
  simp only [splitLines_eq, List.foldl_append, ↓reduceIte, List.reverse_reverse]
  rw [foldl_lineStep s q]
  refine Prod.ext ?_ (by simp)
  simp only
  congr 1
  funext t
  split <;> simp [*]

end Lines

theorem frameHeader_append {b : List UInt8} (c : List UInt8) (hb : 8 ≤ b.length) :
    frameHeader (b ++ c) = frameHeader b := by
  match b, hb with
  | _ :: _ :: _ :: _ :: _ :: _ :: _ :: _ :: _, _ => rfl

theorem frameHeader_eq_none {b : List UInt8} : frameHeader b = none ↔ b.length < 8 := by
  match b with
  | _ :: _ :: _ :: _ :: _ :: _ :: _ :: _ :: _ => simp [frameHeader]
  | [] | [_] | [_, _] | [_, _, _] | [_, _, _, _] | [_, _, _, _, _] | [_, _, _, _, _, _]
    | [_, _, _, _, _, _, _] => simp [frameHeader]

theorem frameHeader_length {b : List UInt8} {h : LogStream × Nat} (hb : frameHeader b = some h) :
    8 ≤ b.length :=
  Nat.le_of_not_lt fun hlt => by simp [frameHeader_eq_none.mpr hlt] at hb

theorem looksFramed_append {b : List UInt8} (c : List UInt8) (hb : 4 ≤ b.length) :
    looksFramed (b ++ c) = looksFramed b := by
  match b, hb with
  | _ :: _ :: _ :: _ :: _, _ =>
    simp only [List.cons_append, looksFramed]
    split <;> split <;> simp_all

section Frames

variable {d : LogDecoder} {n : Nat}

theorem frames_succ_of_complete {st : LogStream} {size : Nat}
    (h : frameHeader d.buffer = some (st, size)) (hc : 8 + size ≤ d.buffer.length) :
    d.frames (n + 1) =
      let r := ({ d with buffer := d.buffer.drop (8 + size) } : LogDecoder).splitLines st
        ((d.buffer.drop 8).take size)
      ((r.1.frames n).1, r.2 ++ (r.1.frames n).2) := by
  simp only [frames, h, show ¬d.buffer.length < 8 + size by omega, ↓reduceIte]

theorem frames_succ_of_incomplete
    (h : ∀ st size, frameHeader d.buffer = some (st, size) → d.buffer.length < 8 + size) :
    d.frames (n + 1) = (d, []) := by
  simp only [frames]
  split
  · next st size hh => simp [h st size hh]
  · rfl

theorem frames_framed (n : Nat) : ∀ d : LogDecoder, (d.frames n).1.framed = d.framed := by
  induction n with
  | zero => intro d; rfl
  | succ n ih =>
    intro d
    by_cases hc : ∃ st size, frameHeader d.buffer = some (st, size) ∧ 8 + size ≤ d.buffer.length
    · obtain ⟨st, size, h, hc⟩ := hc
      rw [frames_succ_of_complete h hc]
      exact ih _
    · rw [frames_succ_of_incomplete fun st size h =>
        Nat.lt_of_not_le fun hle => hc ⟨st, size, h, hle⟩]

/-- A frame takes at least its eight header bytes, so one round of fuel per byte held is enough,
and more changes nothing. -/
theorem frames_fuel (n : Nat) :
    ∀ (d : LogDecoder) (m : Nat), d.buffer.length ≤ n → d.buffer.length ≤ m →
      d.frames n = d.frames m := by
  induction n with
  | zero =>
    intro d m hn _
    have hnone : frameHeader d.buffer = none := frameHeader_eq_none.mpr (by omega)
    cases m with
    | zero => rfl
    | succ m => rw [frames_succ_of_incomplete (by simp [hnone])]; rfl
  | succ n ih =>
    intro d m hn hm
    cases m with
    | zero =>
      have hnone : frameHeader d.buffer = none := frameHeader_eq_none.mpr (by omega)
      rw [frames_succ_of_incomplete (by simp [hnone])]; rfl
    | succ m =>
      by_cases hc : ∃ st size, frameHeader d.buffer = some (st, size) ∧ 8 + size ≤ d.buffer.length
      · obtain ⟨st, size, h, hc⟩ := hc
        rw [frames_succ_of_complete h hc, frames_succ_of_complete h hc]
        dsimp only
        rw [ih _ m (by simp; omega) (by simp; omega)]
      · have hinc : ∀ st size, frameHeader d.buffer = some (st, size) →
            d.buffer.length < 8 + size := fun st size h =>
          Nat.lt_of_not_le fun hle => hc ⟨st, size, h, hle⟩
        rw [frames_succ_of_incomplete hinc, frames_succ_of_incomplete hinc]

/-- Taking frames off `b ++ c` is taking them off `b`, then off what `b` left with `c` after it:
a frame complete in `b` is the same frame in `b ++ c`, and the rest of `b` is held either way. -/
theorem frames_append (c : List UInt8) (n : Nat) :
    ∀ d : LogDecoder, d.buffer.length ≤ n →
      ({ d with buffer := d.buffer ++ c } : LogDecoder).frames (d.buffer.length + c.length) =
        let r := d.frames n
        let r' := ({ r.1 with buffer := r.1.buffer ++ c } : LogDecoder).frames
          (r.1.buffer.length + c.length)
        (r'.1, r.2 ++ r'.2) := by
  induction n with
  | zero => intro d _; rfl
  | succ n ih =>
    intro d hn
    by_cases hc : ∃ st size, frameHeader d.buffer = some (st, size) ∧ 8 + size ≤ d.buffer.length
    · obtain ⟨st, size, h, hc⟩ := hc
      have h8 : 8 ≤ d.buffer.length := frameHeader_length h
      have h' : frameHeader (d.buffer ++ c) = some (st, size) := by
        rw [frameHeader_append c h8, h]
      obtain ⟨k, hk⟩ : ∃ k, d.buffer.length + c.length = k + 1 :=
        ⟨d.buffer.length + c.length - 1, by omega⟩
      rw [hk, frames_succ_of_complete (d := { d with buffer := d.buffer ++ c }) h'
        (by simp; omega), frames_succ_of_complete h hc]
      let e : LogDecoder := { d with buffer := d.buffer.drop (8 + size) }
      let r := e.splitLines st ((d.buffer.drop 8).take size)
      -- the longer buffer has the same frame at the front, with the same payload, and holds
      -- `c` after what the shorter one holds
      have hsplit : ({ d with buffer := (d.buffer ++ c).drop (8 + size) } : LogDecoder).splitLines
          st (((d.buffer ++ c).drop 8).take size) = ({ r.1 with buffer := r.1.buffer ++ c }, r.2) := by
        rw [List.drop_append_of_le_length hc, List.drop_append_of_le_length (by omega),
          List.take_append_of_le_length (by simp; omega)]
        rfl
      have hlen : r.1.buffer.length = d.buffer.length - (8 + size) := by simp [r, e]
      dsimp only
      rw [hsplit]
      dsimp only
      rw [frames_fuel k _ (r.1.buffer.length + c.length) (by simp [hlen]; omega) (by simp),
        ih r.1 (by omega)]
      simp only [List.append_assoc]
      rfl
    · have hinc : ∀ st size, frameHeader d.buffer = some (st, size) →
          d.buffer.length < 8 + size := fun st size h =>
        Nat.lt_of_not_le fun hle => hc ⟨st, size, h, hle⟩
      rw [frames_succ_of_incomplete hinc]
      rfl

end Frames

/-- Whether the output is framed once a chunk is in: as decided before, or, once eight bytes
have come, as their first four say. -/
def framing (d : LogDecoder) (c : List UInt8) : Option Bool :=
  match d.framed with
  | none => if (d.buffer ++ c).length < 8 then none else some (looksFramed (d.buffer ++ c))
  | some f => some f

theorem push_eq (d : LogDecoder) (c : List UInt8) :
    d.push c =
      match d.framing c with
      | none => ({ d with buffer := d.buffer ++ c }, [])
      | some true => ({ d with buffer := d.buffer ++ c, framed := some true } : LogDecoder).frames
          (d.buffer ++ c).length
      | some false => ({ d with buffer := [], framed := some false } : LogDecoder).splitLines .raw
          (d.buffer ++ c) := by
  unfold push framing
  cases d.framed with
  | none =>
    by_cases hl : (d.buffer ++ c).length < 8
    · simp only [hl, ↓reduceIte]
    · simp only [hl, ↓reduceIte]
      cases looksFramed (d.buffer ++ c) <;> rfl
  | some f => cases f <;> rfl

theorem push_hold (d : LogDecoder) (xs ys : List UInt8) :
    ({ d with buffer := d.buffer ++ xs } : LogDecoder).push ys = d.push (xs ++ ys) := by
  simp only [push, List.append_assoc]

theorem framing_append {d : LogDecoder} {xs : List UInt8} {f : Bool} (ys : List UInt8)
    (h : d.framing xs = some f) : d.framing (xs ++ ys) = some f := by
  unfold framing at h ⊢
  split at h
  · next hd =>
    split at h
    · cases h
    · next hlen =>
      have h4 : 4 ≤ (d.buffer ++ xs).length := by omega
      rw [← List.append_assoc, looksFramed_append ys h4, if_neg (by simp at hlen ⊢; omega)]
      exact h
  · next hd => simpa [hd] using h

/-- Pushing two chunks one after the other is pushing them joined: the decoder ends the same and
the lines of the two pushes, in order, are the lines of the one. -/
theorem push_append (d : LogDecoder) (xs ys : List UInt8) :
    d.push (xs ++ ys) = (((d.push xs).1.push ys).1, (d.push xs).2 ++ ((d.push xs).1.push ys).2) := by
  cases hf : d.framing xs with
  | none =>
    rw [push_eq d xs, hf]
    dsimp only
    rw [← push_hold]
    simp
  | some f =>
    have hf' := framing_append ys hf
    cases f with
    | true =>
      -- framed output: frames complete in the first chunk are taken, the rest waits
      let e : LogDecoder := { d with buffer := d.buffer ++ xs, framed := some true }
      have he : (e.frames e.buffer.length).1.framed = some true := frames_framed _ e
      have hnext : ∀ d' : LogDecoder, d'.framed = some true → d'.push ys =
          ({ d' with buffer := d'.buffer ++ ys } : LogDecoder).frames (d'.buffer.length + ys.length) := by
        intro d' hd'
        rw [push_eq, show d'.framing ys = some true by simp [framing, hd']]
        simp [hd']
      rw [push_eq d xs, hf, push_eq d (xs ++ ys), hf', hnext _ he]
      have := frames_append ys e.buffer.length e (Nat.le_refl _)
      simp only [e, List.append_assoc, List.length_append, Nat.add_assoc] at this ⊢
      rw [← this]
    | false =>
      -- raw output: the lines of the joined chunks are those of the first, then the second
      rw [push_eq d xs, hf, push_eq d (xs ++ ys), hf']
      dsimp only
      rw [push_eq, show (({ d with buffer := [], framed := some false } : LogDecoder).splitLines
        .raw (d.buffer ++ xs)).1.framing ys = some false from rfl]
      simp only [← List.append_assoc]
      rw [splitLines_append]
      rfl

theorem pushAll_after_push (cs : List (List UInt8)) :
    ∀ (d : LogDecoder) (p : List UInt8),
      (((d.push p).1.pushAll cs).1, (d.push p).2 ++ ((d.push p).1.pushAll cs).2) =
        d.push (p ++ cs.flatten) := by
  induction cs with
  | nil => intro d p; simp [pushAll]
  | cons c cs ih =>
    intro d p
    -- the chunks after `p` are pushed as one, by the induction, and then joined to `p`
    obtain ⟨h1, h2⟩ := Prod.ext_iff.mp (ih (d.push p).1 c)
    simp only [pushAll] at h1 h2 ⊢
    rw [h1, h2, List.flatten_cons, push_append d p]

theorem pushAll_eq_push_join {d : LogDecoder} (h : d.push [] = (d, [])) (cs : List (List UInt8)) :
    d.pushAll cs = d.push cs.flatten := by
  cases cs with
  | nil => exact h.symm
  | cons c cs => exact pushAll_after_push cs d c

/-- The lines of a log body do not depend on how it is cut into chunks: pushing the chunks in
order into a fresh decoder and then ending it gives exactly the lines of decoding the body at
once, with the same streams, texts and timestamps, in the same order. -/
theorem chunked_lines_eq_decodeAll (chunks : List (List UInt8)) :
    (empty.pushAll chunks).2 ++ (empty.pushAll chunks).1.finish.2 = decodeAll chunks.flatten := by
  rw [pushAll_eq_push_join rfl]
  rfl

end Mooring.Engine.LogDecoder
