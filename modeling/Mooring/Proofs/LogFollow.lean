import Mooring.Proofs.LogChunks
import Mooring.Engine.Client
namespace Mooring.Engine

open LogDecoder

variable {σ : Type} (callback : σ → LogLine → σ × LogControl)

@[simp] theorem feedLines_nil (s : σ) : feedLines callback s [] = (s, false) := rfl

theorem feedLines_append (s : σ) (a b : List LogLine) :
    feedLines callback s (a ++ b) =
      match feedLines callback s a with
      | (s', true) => (s', true)
      | (s', false) => feedLines callback s' b := by
  induction a generalizing s with
  | nil => rfl
  | cons line a ih =>
    simp only [List.cons_append, feedLines]
    rcases callback s line with ⟨s', _ | _⟩
    · exact ih s'
    · rfl

/-- How a follow ends once the lines were handed out: stopped if the callback asked, else as
`outcome` says. -/
def afterLines (outcome : Except EngineError FollowOutcome) : σ × Bool →
    Except EngineError FollowOutcome × σ
  | (s, true) => (.ok .stopped, s)
  | (s, false) => (outcome, s)

/-- What following the chunks from decoder `d` does: the lines of the chunks read before the
cancellation is seen, or of all of them and then the held ones when the body ends cleanly, go to
the callback up to its first stop. -/
def followSpec (url : String) (s : σ) (broken : Option String) (cancelAt : Option Nat)
    (d : LogDecoder) (chunks : List (List UInt8)) : Except EngineError FollowOutcome × σ :=
  match cancelAt.filter (· ≤ chunks.length) with
  | some k => afterLines (.ok .cancelled) (feedLines callback s (d.pushAll (chunks.take k)).2)
  | none =>
    match broken with
    | some reason =>
      afterLines (.error (.transport url reason)) (feedLines callback s (d.pushAll chunks).2)
    | none =>
      afterLines (.ok .ended)
        (feedLines callback s ((d.pushAll chunks).2 ++ (d.pushAll chunks).1.finish.2))

theorem afterLines_append (outcome : Except EngineError FollowOutcome) (s : σ)
    (a b : List LogLine) :
    afterLines outcome (feedLines callback s (a ++ b)) =
      match feedLines callback s a with
      | (s', true) => (.ok .stopped, s')
      | (s', false) => afterLines outcome (feedLines callback s' b) := by
  rw [feedLines_append]
  rcases feedLines callback s a with ⟨s', _ | _⟩ <;> rfl

theorem filter_map_pred {cancelAt : Option Nat} (h : cancelAt ≠ some 0) (n : Nat) :
    (cancelAt.map (· - 1)).filter (· ≤ n) = (cancelAt.filter (· ≤ n + 1)).map (· - 1) := by
  rcases cancelAt with _ | _ | k
  · rfl
  · exact absurd rfl h
  · by_cases hk : k ≤ n <;> simp [Option.filter, hk]

/-- Reading one more chunk: its lines go first, and unless the callback stops, the rest is
followed from the decoder it leaves, with one read fewer before the cancellation. -/
theorem followSpec_cons (url : String) (s : σ) (broken : Option String) {cancelAt : Option Nat}
    (h0 : cancelAt ≠ some 0) (d : LogDecoder) (chunk : List UInt8) (chunks : List (List UInt8)) :
    followSpec callback url s broken cancelAt d (chunk :: chunks) =
      match feedLines callback s (d.push chunk).2 with
      | (s', true) => (.ok .stopped, s')
      | (s', false) =>
        followSpec callback url s' broken (cancelAt.map (· - 1)) (d.push chunk).1 chunks := by
  unfold followSpec
  rw [List.length_cons]
  rcases hk : (cancelAt.map (· - 1)).filter (· ≤ chunks.length) with _ | k
  · -- no cancellation is seen: every chunk is read
    have hnone : cancelAt.filter (· ≤ chunks.length + 1) = none := by
      rw [filter_map_pred h0] at hk
      exact Option.map_eq_none_iff.mp hk
    simp only [hnone]
    rcases broken with _ | reason
    · simp only [pushAll, List.append_assoc, afterLines_append]
    · simp only [pushAll, afterLines_append]
  · -- the cancellation is seen at a later read: the first chunk is read whole before it
    obtain ⟨j, hj, hjk⟩ : ∃ j, cancelAt.filter (· ≤ chunks.length + 1) = some j ∧ j - 1 = k := by
      rw [filter_map_pred h0] at hk
      exact Option.map_eq_some_iff.mp hk
    have hj0 : j ≠ 0 := by
      rintro rfl
      exact h0 (Option.eq_some_of_filter_eq_some hj)
    obtain ⟨i, rfl⟩ : ∃ i, j = i + 1 := Nat.exists_eq_succ_of_ne_zero hj0
    simp only [Nat.add_sub_cancel] at hjk
    subst hjk
    simp only [hj, List.take_succ_cons, pushAll, afterLines_append]

/-- The follow from any decoder does what its specification says. The induction is on the
chunks left, with the callback's state, the decoder and the reads left before the cancellation
all generalized. -/
theorem pumpLog_eq_followSpec (url : String) (broken : Option String) (chunks : List (List UInt8)) :
    ∀ (s : σ) (cancelAt : Option Nat) (d : LogDecoder),
      pumpLog url callback s broken cancelAt d chunks =
        followSpec callback url s broken cancelAt d chunks := by
  induction chunks with
  | nil =>
    intro s cancelAt d
    by_cases h0 : cancelAt = some 0
    · subst h0
      rfl
    · have hnone : cancelAt.filter (· ≤ 0) = none := by
        rcases cancelAt with _ | _ | k
        · rfl
        · exact absurd rfl h0
        · simp [Option.filter]
      simp only [pumpLog, h0, if_false, followSpec, List.length_nil, hnone]
      rcases broken with _ | reason
      · simp only [pushAll, List.nil_append]
        rcases feedLines callback s d.finish.2 with ⟨s', _ | _⟩ <;> rfl
      · rfl
  | cons chunk chunks ih =>
    intro s cancelAt d
    by_cases h0 : cancelAt = some 0
    · subst h0
      rfl
    · simp only [pumpLog, h0, if_false, followSpec_cons callback url s broken h0]
      rcases feedLines callback s (d.push chunk).2 with ⟨s', _ | _⟩
      · exact ih s' _ _
      · rfl

/-- A log follow hands the callback, in order, the lines the decoder gives for the chunks read,
and nothing after its first stop. When it sees the cancellation before the read `k`, with
`k` at most the number of chunks, the lines are those of the first `k` chunks, and it ends
stopped if the callback asked, else cancelled. Otherwise, when the body breaks off, the lines are
those of all chunks, and it ends stopped or with the transport failure; when the body ends
cleanly, the lines the decoder still holds follow them, and it ends stopped or ended. -/
theorem pumpLog_delivers_in_order (url : String) (s : σ) (broken : Option String)
    (cancelAt : Option Nat) (chunks : List (List UInt8)) :
    pumpLog url callback s broken cancelAt LogDecoder.empty chunks =
      match cancelAt.filter (· ≤ chunks.length) with
      | some k =>
        afterLines (.ok .cancelled) (feedLines callback s (empty.pushAll (chunks.take k)).2)
      | none =>
        match broken with
        | some reason =>
          afterLines (.error (.transport url reason)) (feedLines callback s (empty.pushAll chunks).2)
        | none =>
          afterLines (.ok .ended) (feedLines callback s
            ((empty.pushAll chunks).2 ++ (empty.pushAll chunks).1.finish.2)) :=
  pumpLog_eq_followSpec callback url broken chunks s cancelAt LogDecoder.empty

end Mooring.Engine
