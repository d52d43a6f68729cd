import Mathlib.Logic.Function.Basic
import Mooring.Proofs.LogChunks
namespace Mooring.Engine

open Mooring.Text

/-- A frame of multiplexed log output: the byte naming its stream and the payload, whose size
the header's 32 bits can hold. -/
structure LogFrame where
  type : UInt8
  payload : List UInt8
  names_stream : (LogStream.ofFrameType? type).isSome
  fits : payload.length < UInt32.size

namespace LogFrame

def stream (f : LogFrame) : LogStream := (LogStream.ofFrameType? f.type).get f.names_stream

/-- A size as the header writes it: four bytes, the most significant first. -/
def sizeBytes (n : Nat) : List UInt8 :=
  [UInt8.ofNat (n / 16777216), UInt8.ofNat (n / 65536), UInt8.ofNat (n / 256), UInt8.ofNat n]

/-- The stream's byte, three zero bytes and the payload's size, then the payload. -/
def encode (f : LogFrame) : List UInt8 :=
  f.type :: 0 :: 0 :: 0 :: sizeBytes f.payload.length ++ f.payload

theorem stream_ne_raw (f : LogFrame) : f.stream ≠ .raw := by
  have h := Option.some_get f.names_stream
  intro hraw
  rw [← stream, hraw] at h
  revert h
  unfold LogStream.ofFrameType?
  split <;> simp

theorem length_encode (f : LogFrame) : f.encode.length = 8 + f.payload.length := by
  simp only [encode, sizeBytes, List.cons_append, List.nil_append, List.length_cons]
  omega

theorem frameHeader_encode (f : LogFrame) (rest : List UInt8) :
    LogDecoder.frameHeader (f.encode ++ rest) = some (f.stream, f.payload.length) := by
  have hsize : (((UInt8.ofNat (f.payload.length / 16777216)).toNat * 256 +
      (UInt8.ofNat (f.payload.length / 65536)).toNat) * 256 +
      (UInt8.ofNat (f.payload.length / 256)).toNat) * 256 +
      (UInt8.ofNat f.payload.length).toNat = f.payload.length := by
    have := f.fits
    simp only [UInt8.toNat_ofNat', UInt32.size] at this ⊢
    omega
  have hstream : (LogStream.ofFrameType? f.type).getD .stdout = f.stream := by
    rw [stream, Option.getD_eq_iff]
    exact .inl (Option.some_get _).symm
  simp only [encode, sizeBytes, List.cons_append, List.nil_append, LogDecoder.frameHeader,
    hstream, hsize]

theorem looksFramed_encode (f : LogFrame) (rest : List UInt8) :
    LogDecoder.looksFramed (f.encode ++ rest) = true := by
  simpa [encode, LogDecoder.looksFramed] using f.names_stream

end LogFrame

/-- Bytes cut at their line feeds: the pieces before a line feed are lines, and the piece after
the last one stays pending. -/
def cutLines (bytes : List UInt8) : List (List UInt8) × List UInt8 :=
  ((bytes.splitOn 0x0A).dropLast, (bytes.splitOn 0x0A).getLast (List.splitOn_ne_nil _ _))

theorem splitOn_cutLines (b : List UInt8) : b.splitOn 0x0A = (cutLines b).1 ++ [(cutLines b).2] :=
  (List.dropLast_concat_getLast _).symm

theorem cutLines_eq_of_splitOn {b : List UInt8} {lines : List (List UInt8)} {rest : List UInt8}
    (h : b.splitOn 0x0A = lines ++ [rest]) : cutLines b = (lines, rest) := by
  have h' := (splitOn_cutLines b).symm.trans h
  obtain ⟨hl, hr⟩ := List.append_inj' h' rfl
  rw [← hl, ← List.singleton_inj.mp hr]

theorem cutLines_nil : cutLines [] = ([], []) := rfl

theorem cutLines_of_lf_not_mem {b : List UInt8} (h : 0x0A ∉ b) : cutLines b = ([], b) :=
  cutLines_eq_of_splitOn (List.splitOn_eq_singleton h)

theorem cutLines_lf {b : List UInt8} (h : 0x0A ∉ b) (c : List UInt8) :
    cutLines (b ++ 0x0A :: c) = (b :: (cutLines c).1, (cutLines c).2) := by
  apply cutLines_eq_of_splitOn
  rw [List.splitOn_append_cons_self_of_not_mem h, splitOn_cutLines c, List.cons_append]

theorem cutLines_cons (x : UInt8) (b : List UInt8) :
    cutLines (x :: b) =
      if x = 0x0A then ([] :: (cutLines b).1, (cutLines b).2)
      else match (cutLines b).1 with
        | [] => ([], x :: (cutLines b).2)
        | l :: ls => ((x :: l) :: ls, (cutLines b).2) := by
  by_cases hx : x = 0x0A
  · subst hx
    simpa using cutLines_lf (List.not_mem_nil) b
  · rw [if_neg hx]
    apply cutLines_eq_of_splitOn
    have hcons := @List.splitOn_cons_eq_if_modifyHead UInt8 _ 0x0A x b
    rw [if_neg (by simpa using hx), splitOn_cutLines b] at hcons
    rw [hcons]
    split <;> simp_all

theorem lf_not_mem_cutLines_snd (b : List UInt8) : 0x0A ∉ (cutLines b).2 := by
  induction b with
  | nil => simp [cutLines_nil]
  | cons x b ih =>
    rw [cutLines_cons]
    split
    · exact ih
    · split
      · simp only [List.mem_cons, not_or]
        exact ⟨Ne.symm ‹_›, ih⟩
      · exact ih

theorem splitOn_append_eq (b c : List UInt8) :
    (b ++ c).splitOn 0x0A = (cutLines b).1 ++ ((cutLines b).2 ++ c).splitOn 0x0A := by
  induction b with
  | nil => simp [cutLines_nil]
  | cons x b ih =>
    rw [List.cons_append, List.splitOn_cons_eq_if_modifyHead, ih, cutLines_cons]
    by_cases hx : x = 0x0A
    · simp [hx]
    · have hx' : (x == 0x0A) = false := by simpa using hx
      rw [if_neg hx, hx', if_neg Bool.false_ne_true]
      -- the byte joins the first line, or the pending bytes when the first part has no line feed
      split
      · next hnil =>
        rw [hnil, List.nil_append, List.nil_append, List.cons_append,
          List.splitOn_cons_eq_if_modifyHead, hx', if_neg Bool.false_ne_true]
      · next l ls hl =>
        rw [hl]
        rfl

theorem cutLines_append (b c : List UInt8) :
    cutLines (b ++ c) =
      ((cutLines b).1 ++ (cutLines ((cutLines b).2 ++ c)).1,
        (cutLines ((cutLines b).2 ++ c)).2) := by
  apply cutLines_eq_of_splitOn
  rw [splitOn_append_eq, splitOn_cutLines ((cutLines b).2 ++ c), List.append_assoc]

/-- The log line of bytes of a stream. -/
def lineOf (line : LogStream × List UInt8) : LogLine :=
  LogLine.parse line.1 (Utf8.decodeLossy line.2)

/-- Frames read one after the other, from the bytes pending per stream: each payload joins the
pending bytes of its stream, which are then cut at their line feeds. Gives the lines with their
streams, in the order of the line feeds that end them, and the bytes left pending. -/
def frameLines (pending : LogStream → List UInt8) :
    List LogFrame → List (LogStream × List UInt8) × (LogStream → List UInt8)
  | [] => ([], pending)
  | f :: fs =>
    let cut := cutLines (pending f.stream ++ f.payload)
    let rest := frameLines (Function.update pending f.stream cut.2) fs
    (cut.1.map (f.stream, ·) ++ rest.1, rest.2)

/-- The lines a run of frames should decode to: those its line feeds end, then the bytes left
pending on standard input, output and error, for each of them that has any. -/
def framedLines (frames : List LogFrame) : List (LogStream × List UInt8) :=
  let r := frameLines (fun _ => []) frames
  r.1 ++ [LogStream.stdin, .stdout, .stderr].filterMap fun s =>
    if r.2 s = [] then none else some (s, r.2 s)

theorem lf_not_mem_update_cutLines {pending : LogStream → List UInt8} {s : LogStream}
    (hs : 0x0A ∉ pending s) (x : LogStream) (b : List UInt8) :
    0x0A ∉ Function.update pending x (cutLines b).2 s := by
  by_cases hx : s = x
  · subst hx
    simpa using lf_not_mem_cutLines_snd b
  · simpa [hx] using hs

/-- Per stream, reading frame after frame cuts the stream's bytes as one: its lines and what
stays pending are those of its pending bytes followed by all of its payloads. -/
theorem frameLines_stream (s : LogStream) (fs : List LogFrame) :
    ∀ pending : LogStream → List UInt8, 0x0A ∉ pending s →
      ((((frameLines pending fs).1.filter (·.1 = s)).map (·.2)), (frameLines pending fs).2 s) =
        cutLines (pending s ++ (fs.filter (·.stream = s)).flatMap (·.payload)) := by
  induction fs with
  | nil =>
    intro pending hs
    simp only [frameLines, List.filter_nil, List.map_nil, List.flatMap_nil, List.append_nil]
    exact (cutLines_of_lf_not_mem hs).symm
  | cons f fs ih =>
    intro pending hs
    let cut := cutLines (pending f.stream ++ f.payload)
    let pending' := Function.update pending f.stream cut.2
    have hrest := ih pending' (lf_not_mem_update_cutLines hs f.stream _)
    simp only [frameLines, List.filter_append, List.map_append, List.filter_cons]
    by_cases hf : f.stream = s
    · -- the payload joins the stream's pending bytes, and the later payloads follow them
      subst hf
      have hcut : pending' f.stream = cut.2 := by simp [pending']
      rw [hcut] at hrest
      simp only [decide_true, if_true, List.flatMap_cons, ← List.append_assoc, cutLines_append
        (pending f.stream ++ f.payload)]
      rw [← hrest]
      simp [cut, pending', List.filter_map, Function.comp_def]
    · -- a payload of another stream leaves this one's lines and pending bytes as they are
      have hkeep : pending' s = pending s := by simp [pending', Ne.symm hf]
      rw [hkeep] at hrest
      simp only [hf, decide_false, Bool.false_eq_true, if_false]
      rw [← hrest]
      simp [cut, pending', List.filter_map, Function.comp_def, hf]

namespace LogDecoder

/-- Splitting a payload into lines, one byte after the other, cuts the partial line followed by
the payload at its line feeds; partial line and lines are kept reversed. -/
theorem foldl_lineStep_cutLines (s : LogStream) (p : List UInt8) :
    ∀ pt : List UInt8, 0x0A ∉ pt →
      p.foldl (lineStep s) (pt.reverse, []) =
        ((cutLines (pt ++ p)).2.reverse,
          ((cutLines (pt ++ p)).1.map fun l => lineOf (s, l)).reverse) := by
  induction p with
  | nil =>
    intro pt hpt
    simp [cutLines_of_lf_not_mem hpt]
  | cons b p ih =>
    intro pt hpt
    rw [List.foldl_cons]
    by_cases hb : b = 0x0A
    · -- the line feed ends the partial line, and the rest starts a new one
      subst hb
      have hstep : lineStep s (pt.reverse, []) 0x0A = ([].reverse, [lineOf (s, pt)]) := by
        simp [lineStep, lineOf]
      rw [hstep, foldl_lineStep, ih [] List.not_mem_nil, cutLines_lf hpt]
      simp
    · -- any other byte joins the partial line
      have hstep : lineStep s (pt.reverse, []) b = ((pt ++ [b]).reverse, []) := by
        simp [lineStep, hb]
      have hpt' : 0x0A ∉ pt ++ [b] := by simp [hpt, Ne.symm hb]
      rw [hstep, ih _ hpt', List.append_assoc, List.singleton_append]

theorem splitLines_eq_cutLines (d : LogDecoder) (s : LogStream) (p : List UInt8)
    (h : 0x0A ∉ d.partials s) :
    d.splitLines s p =
      ({ d with partials := Function.update d.partials s (cutLines (d.partials s ++ p)).2 },
        (cutLines (d.partials s ++ p)).1.map fun l => lineOf (s, l)) := by
  rw [splitLines_eq, foldl_lineStep_cutLines s p _ h]
  simp only [List.reverse_reverse]
  congr 2
  funext t
  rw [Function.update_apply]

theorem drop_encode (f : LogFrame) (rest : List UInt8) :
    (f.encode ++ rest).drop 8 = f.payload ++ rest := by
  simp [LogFrame.encode, LogFrame.sizeBytes]

/-- Frames that are all there are taken off one by one: nothing stays held, and the lines and
partial lines are those of reading the frames one after the other. -/
theorem frames_encoded (fs : List LogFrame) :
    ∀ (d : LogDecoder) (n : Nat), d.buffer = fs.flatMap LogFrame.encode →
      (∀ s, 0x0A ∉ d.partials s) → d.buffer.length ≤ n →
      d.frames n = ({ d with buffer := [], partials := (frameLines d.partials fs).2 },
        (frameLines d.partials fs).1.map lineOf) := by
  induction fs with
  | nil =>
    intro d n hb _ _
    obtain ⟨buffer, framed, partials⟩ := d
    simp only [List.flatMap_nil] at hb
    subst hb
    cases n <;> rfl
  | cons f fs ih =>
    intro d n hb hlf hn
    have hlen : d.buffer.length = 8 + f.payload.length + (fs.flatMap LogFrame.encode).length := by
      rw [hb, List.flatMap_cons, List.length_append, LogFrame.length_encode]
    obtain ⟨k, rfl⟩ : ∃ k, n = k + 1 := ⟨n - 1, by omega⟩
    have hh : frameHeader d.buffer = some (f.stream, f.payload.length) := by
      rw [hb, List.flatMap_cons]
      exact f.frameHeader_encode _
    have hdrop : d.buffer.drop (8 + f.payload.length) = fs.flatMap LogFrame.encode := by
      rw [← List.drop_drop, hb, List.flatMap_cons, drop_encode, List.drop_left]
    have htake : (d.buffer.drop 8).take f.payload.length = f.payload := by
      rw [hb, List.flatMap_cons, drop_encode, List.take_left]
    rw [frames_succ_of_complete hh (by omega), hdrop, htake,
      splitLines_eq_cutLines { d with buffer := fs.flatMap LogFrame.encode } _ _ (hlf f.stream)]
    dsimp only
    -- the rest of the frames are read from the partial lines this one left
    rw [ih _ k rfl (fun t => lf_not_mem_update_cutLines (hlf t) _ _)
      (show (fs.flatMap LogFrame.encode).length ≤ k by omega)]
    simp [frameLines, Function.comp_def]

theorem push_encoded (frames : List LogFrame) :
    ∃ framed, empty.push (frames.flatMap LogFrame.encode) =
      (⟨[], framed, (frameLines (fun _ => []) frames).2⟩,
        (frameLines (fun _ => []) frames).1.map lineOf) := by
  cases frames with
  | nil => exact ⟨none, rfl⟩
  | cons f fs =>
    have hlen : 8 ≤ (f.encode ++ fs.flatMap LogFrame.encode).length := by
      rw [List.length_append, LogFrame.length_encode]
      omega
    have hframing : empty.framing ((f :: fs).flatMap LogFrame.encode) = some true := by
      simp only [framing, empty, List.nil_append, List.flatMap_cons, if_neg (Nat.not_lt.mpr hlen),
        f.looksFramed_encode]
    refine ⟨some true, ?_⟩
    rw [push_eq, hframing]
    exact frames_encoded (f :: fs) _ _ rfl (fun _ => List.not_mem_nil) (Nat.le_refl _)

theorem finish_of_buffer_nil (d : LogDecoder) (h : d.buffer = []) :
    d.finish.2 = [LogStream.stdin, .stdout, .stderr, .raw].filterMap fun s =>
      if d.partials s = [] then none else some (lineOf (s, d.partials s)) := by
  simp [finish, h, lineOf]

end LogDecoder

/-- Decoding a run of frames gives the lines of reading them one after the other: each payload
joins the bytes pending on its stream and every line feed there ends a line of that stream; then
the bytes left pending on standard input, output and error, where there are any. Per stream, the
lines and what stays pending are the pieces of all the stream's payloads between their line
feeds. -/
theorem decodeAll_flatMap_encode (frames : List LogFrame) :
    decodeAll (frames.flatMap LogFrame.encode) = (framedLines frames).map lineOf ∧
      ∀ s, ((frameLines (fun _ => []) frames).1.filter (·.1 = s)).map (·.2) ++
          [(frameLines (fun _ => []) frames).2 s] =
        ((frames.filter (·.stream = s)).flatMap (·.payload)).splitOn 0x0A := by
  have hstream := fun s => frameLines_stream s frames (fun _ => []) List.not_mem_nil
  refine ⟨?_, fun s => ?_⟩
  · -- no frame is of the raw stream, so nothing is pending there at the end
    have hraw : (frameLines (fun _ => []) frames).2 .raw = [] := by
      have hnone : frames.filter (·.stream = .raw) = [] :=
        List.filter_eq_nil_iff.mpr fun f _ => by simpa using f.stream_ne_raw
      have := congrArg Prod.snd (hstream .raw)
      rw [hnone] at this
      exact this
    obtain ⟨framed, hpush⟩ := LogDecoder.push_encoded frames
    unfold decodeAll
    rw [hpush]
    dsimp only
    rw [LogDecoder.finish_of_buffer_nil _ rfl,
      show [LogStream.stdin, .stdout, .stderr, .raw] = [LogStream.stdin, .stdout, .stderr] ++ [.raw]
        from rfl, List.filterMap_append]
    have hnothing : [LogStream.raw].filterMap (fun s =>
        if (frameLines (fun _ => []) frames).2 s = [] then none
        else some (lineOf (s, (frameLines (fun _ => []) frames).2 s))) = [] := by
      simp [hraw]
    rw [hnothing, List.append_nil]
    simp only [framedLines, List.map_append, List.map_filterMap]
    congr 2
    funext s
    split <;> rfl
  · rw [splitOn_cutLines, ← List.nil_append (List.flatMap _ _), ← hstream s]

end Mooring.Engine
