import Mooring.Proofs.ReaderFuel
import Mooring.Proofs.StreamChunks
namespace Mooring.Engine

namespace StreamDecoder

open Mooring.Json Mooring.Json.Reader
open Nesting (outside Closes)

/-- The decoder partway through a value: holding `held`, at nesting `n`, with no warning. -/
def reading (n : Nesting) (held : Bytes) : StreamDecoder :=
  ⟨held.toArray, held.length, n.depth, n.inString, n.escaped, false, 0⟩

theorem reading_outside_nil : reading (outside 0) [] = empty := rfl

/-- Inside a value, a byte that keeps it open moves the scan as it moves the nesting. -/
theorem scanByte_reading {n : Nesting} {held : Bytes} {b : UInt8} (hdeep : 0 < (n.step b).depth)
    (hlf : b = 0x0A → ∃ e, Value.read held = .error e ∧ e.isEof = true) :
    scanByte (reading n held) held b = (reading (n.step b) held, false, none) := by
  obtain ⟨k, s, e⟩ := n
  cases s
  · -- outside strings: brackets and quotes move the nesting, and a line feed finds the text
    -- held still unfinished
    by_cases ho : b = 0x7B ∨ b = 0x5B
    · simp [scanByte, Nesting.step, reading, ho]
    have hk : 0 < k := Nat.pos_of_ne_zero fun hk => by
      simp [Nesting.step, ho, hk] at hdeep
    by_cases hq : b = 0x22
    · subst hq
      simp [scanByte, Nesting.step, reading, hk]
    by_cases hc : b = 0x7D ∨ b = 0x5D
    · have hk1 : k - 1 ≠ 0 := by
        simp [Nesting.step, ho, hk, hq, hc] at hdeep
        omega
      simp [scanByte, Nesting.step, reading, ho, hk, hq, hc, hk1]
    by_cases hl : b = 0x0A
    · obtain ⟨err, hread, heof⟩ := hlf hl
      subst hl
      simp [scanByte, Nesting.step, reading, hk, hread, heof]
    · simp [scanByte, Nesting.step, reading, ho, hk, hq, hc, hl]
  · -- inside a string only a backslash and a quote count
    cases e
    · by_cases hbs : b = 0x5C
      · simp [scanByte, Nesting.step, reading, hbs]
      by_cases hq : b = 0x22
      · subst hq
        simp [scanByte, Nesting.step, reading]
      · simp [scanByte, Nesting.step, reading, hbs, hq]
    · simp [scanByte, Nesting.step, reading]

theorem feed_reading {n : Nesting} {held : Bytes} {b : UInt8} (hdeep : 0 < (n.step b).depth)
    (hlf : b = 0x0A → ∃ e, Value.read held = .error e ∧ e.isEof = true) :
    (reading n held).feed b = (reading (n.step b) (held ++ [b]), none) := by
  simp only [feed]
  rw [show (reading n held).buffer.toList = held from List.toList_toArray, scanByte_reading hdeep hlf]
  simp [reading, withHeld]

theorem feed_reading_close {n : Nesting} {held : Bytes} {b : UInt8} {v : Value}
    (hd : 0 < n.depth) (hclose : n.step b = outside 0) (hv : Value.read (held ++ [b]) = .ok v) :
    (reading n held).feed b = (empty, some v) := by
  obtain ⟨rfl, hb⟩ := Nesting.step_eq_outside_zero hd hclose
  rcases hb with rfl | rfl <;> simp [feed, scanByte, reading, outside, hv, withHeld, empty]

theorem feedBytes_reading (p : Bytes) {n : Nesting} {held : Bytes}
    (hdeep : ∀ p₁ p₂, p = p₁ ++ p₂ → p₁ ≠ [] → 0 < (n.run p₁).depth)
    (hlf : ∀ p₁ q, p = p₁ ++ 0x0A :: q →
      ∃ e, Value.read (held ++ p₁) = .error e ∧ e.isEof = true) :
    (reading n held).feedBytes p = (reading (n.run p) (held ++ p), []) := by
  induction p generalizing n held with
  | nil => simp
  | cons b p ih =>
    have hstep : (reading n held).feed b = (reading (n.step b) (held ++ [b]), none) :=
      feed_reading (by simpa using hdeep [b] p rfl (by simp))
        (fun hb => by simpa using hlf [] p (by rw [hb]; rfl))
    rw [feedBytes_cons, hstep]
    rw [ih (fun p₁ p₂ h hne => by simpa using hdeep (b :: p₁) p₂ (by rw [h]; rfl) (by simp))
      (fun p₁ q h => by simpa using hlf (b :: p₁) q (by rw [h]; rfl))]
    simp

/-- Fed from rest, the bytes `x` give the values `vs` and leave the decoder at rest, and no part of
them on the way gives a warning. -/
def Decodes (x : Bytes) (vs : List Value) : Prop :=
  empty.feedBytes x = (empty, vs) ∧ ∀ p q, x = p ++ q → (empty.feedBytes p).1.warnings = 0

theorem Decodes.append {x y : Bytes} {xs ys : List Value} (hx : Decodes x xs)
    (hy : Decodes y ys) : Decodes (x ++ y) (xs ++ ys) := by
  refine ⟨by rw [feedBytes_append, hx.1, hy.1], fun p q h => ?_⟩
  rcases List.append_eq_append_iff.mp h with ⟨a, rfl, hy'⟩ | ⟨c, rfl, -⟩
  · -- past `x`, the decoder is at rest again
    rw [feedBytes_append, hx.1]
    exact hy.2 a q hy'
  · exact hx.2 p c rfl

theorem feed_empty_of_isAsciiSpace {b : UInt8} (h : isAsciiSpace b = true) :
    empty.feed b = (empty, none) := by
  have hno : b ≠ 0x7B ∧ b ≠ 0x5B := by
    simp only [isAsciiSpace, Bool.or_eq_true, beq_iff_eq] at h
    rcases h with (((rfl | rfl) | rfl) | rfl) | rfl <;> decide
  simp [feed, scanByte, empty, h, hno, withHeld]

theorem decodes_blank {ws : Bytes} (h : ∀ b ∈ ws, isAsciiSpace b = true) : Decodes ws [] := by
  have hrest : ∀ ws : Bytes, (∀ b ∈ ws, isAsciiSpace b = true) → empty.feedBytes ws = (empty, []) := by
    intro ws hws
    induction ws with
    | nil => rfl
    | cons b ws ih =>
      rw [feedBytes_cons, feed_empty_of_isAsciiSpace (hws b (by simp)),
        ih fun b hb => hws b (by simp [hb])]
      rfl
  refine ⟨hrest ws h, fun p q hpq => ?_⟩
  rw [hrest p fun b hb => h b (by simp [hpq, hb])]
  rfl

/-- A container's text read from rest: its opening bracket starts a value, its body keeps the
value open to its last byte, each line feed finding the text so far unfinished, and the last byte
gives the container. -/
theorem decodes_container {b : UInt8} {body : Bytes} {v : Value} (hb : b = 0x7B ∨ b = 0x5B)
    (hclose : Closes 0 body) (hread : Value.read (b :: body) = .ok v)
    (hcut : ∀ p q, b :: body = p ++ 0x0A :: q → ∃ e, Value.read p = .error e ∧ e.isEof = true) :
    Decodes (b :: body) [v] := by
  have hopen : (outside 0).step b = outside 1 := by
    rcases hb with rfl | rfl <;> rfl
  -- the body is not empty, as it closes the bracket: split off its last byte
  obtain ⟨body, c, rfl⟩ : ∃ body' c, body = body' ++ [c] := by
    rcases List.eq_nil_or_concat body with rfl | ⟨body', c, rfl⟩
    · have h := hclose.1
      simp [outside] at h
    · exact ⟨body', c, List.concat_eq_append⟩
  rw [← List.cons_append] at hread hcut ⊢
  -- every front part of the text before its last byte leaves the decoder inside the value
  have hinside : ∀ p s, b :: body = p ++ s →
      empty.feedBytes p = (reading ((outside 0).run p) p, []) := by
    intro p s hps
    rw [← reading_outside_nil]
    refine feedBytes_reading p (fun p₁ p₂ h hne => ?_) (fun p₁ q h => ?_)
    · obtain ⟨a, p₁, rfl⟩ := List.exists_cons_of_ne_nil hne
      subst h
      simp only [List.cons_append, List.append_assoc, List.cons.injEq] at hps
      obtain ⟨rfl, hps⟩ := hps
      rw [Nesting.run_cons, hopen]
      exact hclose.2 p₁ (p₂ ++ s ++ [c]) (by simp [hps]) (by simp)
    · simpa using hcut p₁ (q ++ s ++ [c]) (by rw [hps, h]; simp)
  -- the last byte closes the value, and its text reads as the container
  have hlast : (reading ((outside 0).run (b :: body)) (b :: body)).feed c = (empty, some v) := by
    refine feed_reading_close ?_ ?_ hread
    · rw [Nesting.run_cons, hopen]
      exact hclose.2 body [c] rfl (by simp)
    · rw [show ((outside 0).run (b :: body)).step c = (outside 0).run (b :: body ++ [c]) by
        rw [Nesting.run_append]; rfl]
      rw [List.cons_append, Nesting.run_cons, hopen]
      exact hclose.1
  have hall : empty.feedBytes (b :: body ++ [c]) = (empty, [v]) := by
    rw [feedBytes_append, hinside (b :: body) [] (by simp), feedBytes_cons, hlast]
    rfl
  refine ⟨hall, fun p q hpq => ?_⟩
  rcases List.eq_nil_or_concat q with rfl | ⟨q, c', rfl⟩
  · rw [List.append_nil] at hpq
    rw [← hpq, hall]
    rfl
  · rw [List.concat_eq_append, ← List.append_assoc] at hpq
    obtain ⟨hp, -⟩ := List.append_inj' hpq rfl
    rw [hinside p q hp]
    rfl

theorem isAsciiSpace_of_isSpace {b : UInt8} (h : isSpace b = true) : isAsciiSpace b = true := by
  simp only [isSpace, Bool.or_eq_true, beq_iff_eq] at h
  rcases h with ((rfl | rfl) | rfl) | rfl <;> decide

/-- One value as a stream has it: a text that reads whole as an array or an object, and the
blanks after it. -/
structure Written where
  text : Bytes
  value : Value
  gap : Bytes
  reads : Value.read text = .ok value
  container : value.isContainer = true
  blank : ∀ b ∈ gap, isAsciiSpace b = true

/-- The bytes of a written value, its blanks included. -/
def Written.bytes (w : Written) : Bytes := w.text ++ w.gap

theorem decodes_written (w : Written) : Decodes w.bytes [w.value] := by
  obtain ⟨ws, b, body, ws', htext, hws, hws', hb, hclose, hread, hcut⟩ :=
    read_container w.reads w.container
  have hblank : ∀ {x : Bytes}, Blank x → ∀ b ∈ x, isAsciiSpace b = true :=
    fun hx b hb => isAsciiSpace_of_isSpace (hx b hb)
  have hbytes : w.bytes = ws ++ (b :: body ++ (ws' ++ w.gap)) := by
    simp [Written.bytes, htext]
  rw [hbytes, show [w.value] = [] ++ ([w.value] ++ []) from rfl]
  refine (decodes_blank (hblank hws)).append
    ((decodes_container hb hclose hread hcut).append (decodes_blank fun c hc => ?_))
  rcases List.mem_append.mp hc with hc | hc
  · exact hblank hws' c hc
  · exact w.blank c hc

theorem decodes_writtens (ws : List Written) :
    Decodes (ws.flatMap Written.bytes) (ws.map Written.value) := by
  induction ws with
  | nil => exact decodes_blank (by simp)
  | cons w ws ih =>
    rw [List.flatMap_cons, List.map_cons, ← List.singleton_append]
    exact (decodes_written w).append ih

/-- A stream of containers decodes exactly: after blanks `w0`, each written value, however the
stream is cut into chunks, comes out once and in order, no chunk gives a warning, and nothing is
held at the end. -/
theorem pushAll_decodes_written (w0 : Bytes) (hw0 : ∀ b ∈ w0, isAsciiSpace b = true)
    (ws : List Written) (chunks : List Bytes)
    (hsplit : chunks.flatten = w0 ++ ws.flatMap Written.bytes) :
    (empty.pushAll chunks).2 = ws.map Written.value ∧
      (∀ k, (empty.pushAll (chunks.take k)).1.warnings = 0) ∧
      (empty.pushAll chunks).1.pendingBytes = 0 := by
  have hdec := (decodes_blank hw0).append (decodes_writtens ws)
  rw [List.nil_append, ← hsplit] at hdec
  have hall : empty.pushAll chunks = (empty, ws.map Written.value) := by
    rw [pushAll_eq_feedBytes empty rfl, hdec.1]
  refine ⟨by rw [hall], fun k => ?_, by rw [hall]; rfl⟩
  -- the chunks so far are a front part of the stream
  rw [pushAll_eq_feedBytes empty rfl]
  refine hdec.2 _ (chunks.drop k).flatten ?_
  rw [← List.flatten_append, List.take_append_drop]

/-- A line feed inside an array, a blank before it and an object right after it, cut into four
chunks. -/
theorem pushAll_decodes_array_then_object :
    (empty.pushAll [[0x20, 0x5B], [0x0A], [0x5D, 0x7B], [0x7D]]).2 = [.array [], .object []] ∧
      (∀ k, (empty.pushAll ([[0x20, 0x5B], [0x0A], [0x5D, 0x7B], [0x7D]].take k)).1.warnings = 0) ∧
      (empty.pushAll [[0x20, 0x5B], [0x0A], [0x5D, 0x7B], [0x7D]]).1.pendingBytes = 0 :=
  pushAll_decodes_written [0x20] (List.all_eq_true.mp (by decide))
    [⟨[0x5B, 0x0A, 0x5D], .array [], [], rfl, rfl, by simp⟩,
      ⟨[0x7B, 0x7D], .object [], [], rfl, rfl, by simp⟩] _ rfl

end StreamDecoder

end Mooring.Engine
