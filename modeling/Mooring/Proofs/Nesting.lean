import Mooring.Engine.Stream
namespace Mooring.Engine

open Mooring.Json

/-- Where a scan stands in a JSON text, as far as brackets and strings go. -/
structure Nesting where
  depth : Nat
  inString : Bool
  escaped : Bool
  deriving DecidableEq

namespace Nesting

/-- Outside any string, `k` brackets deep. -/
def outside (k : Nat) : Nesting := ⟨k, false, false⟩

/-- Inside a string, `k` brackets deep, with no escape pending. -/
def quoted (k : Nat) : Nesting := ⟨k, true, false⟩

/-- The nesting after one byte. Outside every bracket a quote opens no string: the scan does
not read strings there. -/
def step (n : Nesting) (b : UInt8) : Nesting :=
  if n.inString then
    if n.escaped then { n with escaped := false }
    else if b == 0x5C then { n with escaped := true }
    else if b == 0x22 then { n with inString := false }
    else n
  else if b == 0x7B || b == 0x5B then { n with depth := n.depth + 1 }
  else if 0 < n.depth then
    if b == 0x22 then { n with inString := true }
    else if b == 0x7D || b == 0x5D then { n with depth := n.depth - 1 }
    else n
  else n

def run (n : Nesting) (bs : Bytes) : Nesting := bs.foldl step n

@[simp] theorem run_nil (n : Nesting) : n.run [] = n := rfl

@[simp] theorem run_cons (n : Nesting) (b : UInt8) (bs : Bytes) :
    n.run (b :: bs) = (n.step b).run bs := rfl

theorem run_append (n : Nesting) (xs ys : Bytes) : n.run (xs ++ ys) = (n.run xs).run ys :=
  List.foldl_append

/-- A byte that no nesting notices: no bracket, no quote and no backslash. -/
def isPlain (b : UInt8) : Bool :=
  !(b == 0x7B || b == 0x5B || b == 0x7D || b == 0x5D || b == 0x22 || b == 0x5C)

theorem step_outside_of_isPlain {b : UInt8} (h : isPlain b = true) (k : Nat) :
    (outside k).step b = outside k := by
  simp only [isPlain, Bool.not_eq_true', Bool.or_eq_false_iff, beq_eq_false_iff_ne] at h
  obtain ⟨⟨⟨⟨⟨h1, h2⟩, h3⟩, h4⟩, h5⟩, -⟩ := h
  simp [step, outside, h1, h2, h3, h4, h5]

theorem step_quoted_of_ne {b : UInt8} (h1 : b ≠ 0x5C) (h2 : b ≠ 0x22) (k : Nat) :
    (quoted k).step b = quoted k := by
  simp [step, quoted, h1, h2]

theorem forall_prefix_append {P : Bytes → Prop} {Q : Bytes → Prop} {x y : Bytes}
    (hx : ∀ p q, x = p ++ q → P p) (hy : ∀ p q, y = p ++ q → Q q → P (x ++ p)) :
    ∀ p q, x ++ y = p ++ q → Q q → P p := by
  intro p q h hq
  rcases List.append_eq_append_iff.mp h with ⟨a, rfl, rfl⟩ | ⟨c, rfl, rfl⟩
  · exact hy a q rfl hq
  · exact hx p c rfl

theorem step_depth_of_inString {n : Nesting} (h : n.inString = true) (b : UInt8) :
    (n.step b).depth = n.depth := by
  simp only [step, h, ↓reduceIte]
  repeat' split
  all_goals rfl

theorem step_eq_outside_zero {n : Nesting} {b : UInt8} (hd : 0 < n.depth)
    (h : n.step b = outside 0) : n = outside 1 ∧ (b = 0x7D ∨ b = 0x5D) := by
  obtain ⟨k, s, e⟩ := n
  simp only at hd
  cases s
  · by_cases ho : b = 0x7B ∨ b = 0x5B
    · simp [step, outside, ho] at h
    by_cases hq : b = 0x22
    · simp [step, outside, hd, hq] at h
    by_cases hc : b = 0x7D ∨ b = 0x5D
    · simp [step, outside, ho, hd, hq, hc] at h
      obtain ⟨hk, rfl⟩ := h
      exact ⟨by simp [outside]; omega, hc⟩
    · simp [step, outside, ho, hd, hq, hc] at h
      omega
  · have := congrArg Nesting.depth h
    rw [step_depth_of_inString rfl] at this
    simp [outside] at this
    omega

/-- Read from `k` brackets deep outside strings, `c` comes back there and never goes
shallower. -/
def Balanced (k : Nat) (c : Bytes) : Prop :=
  (outside k).run c = outside k ∧ ∀ p q, c = p ++ q → k ≤ ((outside k).run p).depth

/-- Read just inside a bracket opened at depth `k`, `c` closes it with its last byte and not
before. -/
def Closes (k : Nat) (c : Bytes) : Prop :=
  (outside (k + 1)).run c = outside k ∧
    ∀ p q, c = p ++ q → q ≠ [] → k + 1 ≤ ((outside (k + 1)).run p).depth

/-- Read inside a string at any depth, `c` ends the string with its last byte, the depth
unchanged on the way. -/
def ClosesString (c : Bytes) : Prop :=
  ∀ k, (quoted k).run c = outside k ∧ ∀ p q, c = p ++ q → ((quoted k).run p).depth = k

/-- Read inside a string at any depth, `c` stays inside it. -/
def StaysQuoted (c : Bytes) : Prop :=
  ∀ k, (quoted k).run c = quoted k ∧ ∀ p q, c = p ++ q → ((quoted k).run p).depth = k

theorem balanced_of_isPlain {c : Bytes} (h : ∀ b ∈ c, isPlain b = true) (k : Nat) :
    Balanced k c := by
  have hrun : ∀ p, (∀ b ∈ p, isPlain b = true) → (outside k).run p = outside k := by
    intro p hp
    induction p with
    | nil => rfl
    | cons b p ih =>
      rw [run_cons, step_outside_of_isPlain (hp b (by simp)) k]
      exact ih fun b hb => hp b (by simp [hb])
  refine ⟨hrun c h, fun p q hc => ?_⟩
  rw [hrun p fun b hb => h b (by simp [hc, hb])]
  simp [outside]

theorem Balanced.append {k : Nat} {x y : Bytes} (hx : Balanced k x) (hy : Balanced k y) :
    Balanced k (x ++ y) := by
  refine ⟨by rw [run_append, hx.1, hy.1], ?_⟩
  intro p q h
  refine forall_prefix_append (Q := fun _ => True) hx.2 (fun p q hp _ => ?_) p q h trivial
  rw [run_append, hx.1]
  exact hy.2 p q hp

theorem Closes.append_left {k : Nat} {x y : Bytes} (hx : Balanced (k + 1) x)
    (hy : Closes k y) : Closes k (x ++ y) := by
  refine ⟨by rw [run_append, hx.1, hy.1], ?_⟩
  intro p q h hq
  refine forall_prefix_append (Q := fun q => q ≠ []) hx.2 (fun p q hp hq => ?_) p q h hq
  rw [run_append, hx.1]
  exact hy.2 p q hp hq

theorem closes_closing {b : UInt8} (hb : b = 0x7D ∨ b = 0x5D) (k : Nat) : Closes k [b] := by
  refine ⟨?_, fun p q h hq => ?_⟩
  · rcases hb with rfl | rfl <;> simp [step, outside]
  · cases p with
    | nil => simp [outside]
    | cons a p =>
      simp only [List.cons_append, List.cons.injEq, List.nil_eq, List.append_eq_nil_iff] at h
      exact absurd h.2.2 hq

theorem balanced_container {b : UInt8} (hb : b = 0x7B ∨ b = 0x5B) {k : Nat} {c : Bytes}
    (hc : Closes k c) : Balanced k (b :: c) := by
  have hopen : (outside k).step b = outside (k + 1) := by
    rcases hb with rfl | rfl <;> simp [step, outside]
  refine ⟨by rw [run_cons, hopen, hc.1], fun p q h => ?_⟩
  cases p with
  | nil => simp [outside]
  | cons a p =>
    simp only [List.cons_append, List.cons.injEq] at h
    obtain ⟨rfl, h⟩ := h
    rw [run_cons, hopen]
    by_cases hq : q = []
    · rw [hq, List.append_nil] at h
      rw [← h, hc.1]
      simp [outside]
    · exact Nat.le_of_succ_le (hc.2 p q h hq)

theorem closesString_quote : ClosesString [0x22] := by
  intro k
  refine ⟨by simp [step, quoted, outside], fun p q h => ?_⟩
  cases p with
  | nil => simp [quoted]
  | cons a p =>
    simp only [List.cons_append, List.cons.injEq, List.nil_eq, List.append_eq_nil_iff] at h
    obtain ⟨rfl, rfl, rfl⟩ := h
    simp [step, quoted]

theorem StaysQuoted.append {x y : Bytes} (hx : StaysQuoted x) (hy : ClosesString y) :
    ClosesString (x ++ y) := by
  intro k
  refine ⟨by rw [run_append, (hx k).1, (hy k).1], fun p q h => ?_⟩
  refine forall_prefix_append (Q := fun _ => True) (hx k).2 (fun p q hp _ => ?_) p q h trivial
  rw [run_append, (hx k).1]
  exact (hy k).2 p q hp

theorem staysQuoted_of_forall {c : Bytes} (h : ∀ b ∈ c, b ≠ 0x5C ∧ b ≠ 0x22) :
    StaysQuoted c := by
  intro k
  have hrun : ∀ p, (∀ b ∈ p, b ≠ 0x5C ∧ b ≠ 0x22) → (quoted k).run p = quoted k := by
    intro p hp
    induction p with
    | nil => rfl
    | cons b p ih =>
      obtain ⟨h1, h2⟩ := hp b (by simp)
      rw [run_cons, step_quoted_of_ne h1 h2 k]
      exact ih fun b hb => hp b (by simp [hb])
  refine ⟨hrun c h, fun p q hc => ?_⟩
  rw [hrun p fun b hb => h b (by simp [hc, hb])]
  rfl

theorem StaysQuoted.append_stays {x y : Bytes} (hx : StaysQuoted x) (hy : StaysQuoted y) :
    StaysQuoted (x ++ y) := by
  intro k
  refine ⟨by rw [run_append, (hx k).1, (hy k).1], fun p q h => ?_⟩
  refine forall_prefix_append (Q := fun _ => True) (hx k).2 (fun p q hp _ => ?_) p q h trivial
  rw [run_append, (hx k).1]
  exact (hy k).2 p q hp

theorem staysQuoted_escape (e : UInt8) : StaysQuoted [0x5C, e] := by
  intro k
  refine ⟨by simp [step, quoted], fun p q h => ?_⟩
  match p, h with
  | [], _ => rfl
  | [_], h =>
    simp only [List.cons_append, List.nil_append, List.cons.injEq] at h
    obtain ⟨rfl, -⟩ := h
    simp [step, quoted]
  | [_, _], h =>
    simp only [List.cons_append, List.nil_append, List.cons.injEq] at h
    obtain ⟨rfl, rfl, -⟩ := h
    simp [step, quoted]
  | _ :: _ :: _ :: _, h => simp at h

theorem balanced_string {k : Nat} (hk : 0 < k) {c : Bytes} (hc : ClosesString c) :
    Balanced k (0x22 :: c) := by
  have hopen : (outside k).step 0x22 = quoted k := by
    simp [step, outside, quoted, hk]
  refine ⟨by rw [run_cons, hopen, (hc k).1], fun p q h => ?_⟩
  cases p with
  | nil => simp [outside]
  | cons a p =>
    simp only [List.cons_append, List.cons.injEq] at h
    obtain ⟨rfl, h⟩ := h
    rw [run_cons, hopen]
    exact Nat.le_of_eq ((hc k).2 p q h).symm

end Nesting

end Mooring.Engine
