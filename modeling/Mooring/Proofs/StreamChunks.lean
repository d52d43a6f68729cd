import Mooring.Engine.Stream
namespace Mooring.Engine.StreamDecoder

open Mooring.Json

/-- The decoder holding `held`, all of it scanned. -/
def withHeld (d : StreamDecoder) (held : Array UInt8) : StreamDecoder :=
  { d with buffer := held, scanned := held.size }

/-- Feeds one byte to a decoder that has scanned all it holds: the decoder afterwards, holding
the value or fragment still open, and the value the byte completed. -/
def feed (d : StreamDecoder) (b : UInt8) : StreamDecoder × Option Value :=
  let r := scanByte d d.buffer.toList b
  (r.1.withHeld (if r.2.1 then #[] else d.buffer.push b), r.2.2)

/-- Feeds bytes one by one, collecting the values they complete. -/
def feedBytes (d : StreamDecoder) : List UInt8 → StreamDecoder × List Value
  | [] => (d, [])
  | b :: bs =>
    let r := (d.feed b).1.feedBytes bs
    (r.1, (d.feed b).2.toList ++ r.2)

/-- Pushes chunks in order, collecting the values of all of them. -/
def pushAll (d : StreamDecoder) : List Bytes → StreamDecoder × List Value
  | [] => (d, [])
  | c :: cs =>
    let r := (d.push c).1.pushAll cs
    (r.1, (d.push c).2 ++ r.2)

@[simp] theorem withHeld_withHeld (d : StreamDecoder) (h h' : Array UInt8) :
    (d.withHeld h).withHeld h' = d.withHeld h' := rfl

@[simp] theorem buffer_withHeld (d : StreamDecoder) (h : Array UInt8) :
    (d.withHeld h).buffer = h := rfl

theorem withHeld_buffer {d : StreamDecoder} (hd : d.scanned = d.buffer.size) :
    d.withHeld d.buffer = d := by
  cases d
  simp only [withHeld] at hd ⊢
  rw [hd]

theorem scanByte_withHeld (d : StreamDecoder) (h : Array UInt8) (held : Bytes) (b : UInt8) :
    scanByte (d.withHeld h) held b =
      ((scanByte d held b).1.withHeld h, (scanByte d held b).2) := by
  simp only [scanByte, withHeld, skip]
  -- the decidability instances on the left still mention `withHeld`, so only the splits on
  -- the right go through; each hypothesis they give then settles the same test on the left
  repeat' (split <;> try simp only [*, ↓reduceIte, Bool.false_eq_true])

@[simp] theorem feedBytes_nil (d : StreamDecoder) : d.feedBytes [] = (d, []) := rfl

theorem feedBytes_cons (d : StreamDecoder) (b : UInt8) (bs : Bytes) :
    d.feedBytes (b :: bs) =
      (((d.feed b).1.feedBytes bs).1, (d.feed b).2.toList ++ ((d.feed b).1.feedBytes bs).2) := rfl

theorem feedBytes_append (d : StreamDecoder) (xs ys : Bytes) :
    d.feedBytes (xs ++ ys) =
      (((d.feedBytes xs).1.feedBytes ys).1, (d.feedBytes xs).2 ++ ((d.feedBytes xs).1.feedBytes ys).2) := by
  induction xs generalizing d with
  | nil => rfl
  | cons b xs ih => simp [feedBytes_cons, ih]

theorem toList_extract_of_lt {buf : Array UInt8} {i j : Nat} (hi : i < buf.size) (hj : i < j) :
    (buf.extract i j).toList = buf[i] :: (buf.extract (i + 1) j).toList := by
  simp only [Array.toList_extract, List.extract_eq_take_drop]
  rw [List.drop_eq_getElem_cons (by simpa using hi), show j - i = j - (i + 1) + 1 by omega,
    List.take_succ_cons, Array.getElem_toList]

theorem step_eq_feed (buf : Array UInt8) (d : StreamDecoder) (start i : Nat)
    (values : List Value) (hs : start ≤ i) (hi : i < buf.size) :
    let r := step buf (d, start, values) i
    r.2.1 ≤ i + 1 ∧
      r.1.withHeld (buf.extract r.2.1 (i + 1)) = ((d.withHeld (buf.extract start i)).feed buf[i]).1 ∧
      r.2.2 = ((d.withHeld (buf.extract start i)).feed buf[i]).2.toList ++ values := by
  have hb : buf.getD i 0 = buf[i] := (Array.getElem_eq_getD 0).symm
  simp only [step, feed, hb, buffer_withHeld, scanByte_withHeld, withHeld_withHeld]
  rcases hsb : scanByte d (buf.extract start i).toList buf[i] with ⟨d', restart, v⟩
  cases restart
  · simp only [Bool.false_eq_true, ↓reduceIte, and_true]
    exact ⟨by omega, by rw [Array.extract_succ_right (by omega) hi]⟩
  · simp only [↓reduceIte, and_true, Nat.le_refl, true_and]
    rw [Array.extract_empty_of_stop_le_start (Nat.le_refl _)]

/-- The index scan over `buf[i:i+k]`, started with the value held from `start`, is the feed of
those bytes to the decoder holding `buf[start:i]`: both end on the same decoder once it holds
what the scan kept, and the values come out in the same order. -/
theorem foldl_step (buf : Array UInt8) (k : Nat) :
    ∀ (i start : Nat) (d : StreamDecoder) (values : List Value), start ≤ i → i + k ≤ buf.size →
      let r := (List.range' i k).foldl (step buf) (d, start, values)
      let s := (d.withHeld (buf.extract start i)).feedBytes (buf.extract i (i + k)).toList
      r.2.1 ≤ i + k ∧ r.1.withHeld (buf.extract r.2.1 (i + k)) = s.1 ∧
        r.2.2 = s.2.reverse ++ values := by
  induction k with
  | zero =>
    intro i start d values hs _
    simp [hs]
  | succ k ih =>
    intro i start d values hs hk
    have hi : i < buf.size := by omega
    obtain ⟨hle, hd, hv⟩ := step_eq_feed buf d start i values hs hi
    simp only [List.range'_succ, List.foldl_cons]
    generalize step buf (d, start, values) i = r at hle hd hv ⊢
    obtain ⟨d1, start1, values1⟩ := r
    simp only at hle hd hv
    obtain ⟨hle', hd', hv'⟩ := ih (i + 1) start1 d1 values1 hle (by omega)
    rw [toList_extract_of_lt hi (by omega), feedBytes_cons, ← hd,
      show i + (k + 1) = i + 1 + k by omega]
    refine ⟨hle', hd', ?_⟩
    rw [hv', hv]
    cases (feed (d.withHeld (buf.extract start i)) buf[i]).2 <;> simp

theorem push_eq_feedBytes (d : StreamDecoder) (hd : d.scanned = d.buffer.size) (chunk : Bytes) :
    d.push chunk = d.feedBytes chunk := by
  have hsize : (d.buffer ++ chunk.toArray).size = d.buffer.size + chunk.length := by simp
  obtain ⟨-, hdec, hval⟩ := foldl_step (d.buffer ++ chunk.toArray) chunk.length d.buffer.size 0 d []
    (Nat.zero_le _) (by omega)
  have hheld : (d.buffer ++ chunk.toArray).extract 0 d.buffer.size = d.buffer := by simp
  have hnew : (d.buffer ++ chunk.toArray).extract d.buffer.size (d.buffer.size + chunk.length) =
      chunk.toArray := by simp
  rw [hheld, hnew, withHeld_buffer hd, List.toList_toArray] at hdec hval
  rw [← hsize] at hdec
  unfold push
  dsimp only
  rw [hd, show (d.buffer ++ chunk.toArray).size - d.buffer.size = chunk.length by omega]
  generalize (List.range' d.buffer.size chunk.length).foldl (step _) (d, 0, []) = r at hdec hval ⊢
  obtain ⟨d', start, values⟩ := r
  simp only [List.append_nil] at hdec hval
  exact Prod.ext hdec (by simp [hval])

theorem push_scanned (d : StreamDecoder) (chunk : Bytes) :
    (d.push chunk).1.scanned = (d.push chunk).1.buffer.size := rfl

theorem pushAll_eq_feedBytes (d : StreamDecoder) (hd : d.scanned = d.buffer.size)
    (chunks : List Bytes) : d.pushAll chunks = d.feedBytes chunks.flatten := by
  induction chunks generalizing d with
  | nil => rfl
  | cons c cs ih =>
    have hc := push_eq_feedBytes d hd c
    rw [pushAll, ih _ (push_scanned d c), List.flatten_cons, feedBytes_append, ← hc]

/-- Chunk boundaries are invisible: pushing the chunks of a stream one after another into a
fresh decoder gives the values of pushing the whole stream at once, and leaves the same
decoder, so the same warnings and held bytes now and after the end of the input. -/
theorem pushAll_eq_push_flatten (chunks : List Bytes) :
    empty.pushAll chunks = empty.push chunks.flatten := by
  rw [pushAll_eq_feedBytes empty rfl, push_eq_feedBytes empty rfl]

end Mooring.Engine.StreamDecoder
