import Mooring.Engine.Stream
namespace Mooring.Engine

open Mooring.Collections ProgressLog

namespace StreamEvent

/-- The layer a progress event is about. -/
def layer? : StreamEvent → Option String
  | .progress id .. => some (id.getD "")
  | _ => none

/-- What a progress event with a current and a non-zero total stands at: its layer, its status
text and its percentage. -/
def progressOf? : StreamEvent → Option (String × String × Nat)
  | .progress id text (some current) (some total) _ =>
    if total = 0 then none else some (id.getD "", text.getD "", percentOf current total)
  | _ => none

theorem progressOf?_eq_some {e : StreamEvent} {L st : String} {p : Nat} :
    e.progressOf? = some (L, st, p) ↔ ∃ id text current total bar,
      e = .progress id text (some current) (some total) bar ∧ total ≠ 0 ∧ L = id.getD "" ∧
        st = text.getD "" ∧ p = percentOf current total := by
  constructor
  · intro h
    rcases e with ⟨id, text, _ | current, _ | total, bar⟩ | _ | _ | _ | _ <;>
      simp only [progressOf?, reduceCtorEq] at h
    by_cases ht : total = 0
    · simp [ht] at h
    · simp only [ht, ↓reduceIte, Option.some.injEq, Prod.mk.injEq] at h
      obtain ⟨rfl, rfl, rfl⟩ := h
      exact ⟨id, text, current, total, bar, rfl, ht, rfl, rfl, rfl⟩
  · rintro ⟨id, text, current, total, bar, rfl, ht, rfl, rfl, rfl⟩
    simp [progressOf?, ht]

theorem layer?_of_progressOf? {e : StreamEvent} {L st : String} {p : Nat}
    (h : e.progressOf? = some (L, st, p)) : e.layer? = some L := by
  obtain ⟨id, text, current, total, bar, rfl, -, rfl, -, -⟩ := progressOf?_eq_some.mp h
  rfl

end StreamEvent

namespace ProgressLog

/-- The last percentage reported for a layer; a layer never reported counts as at zero. -/
def last (log : ProgressLog) (layer : String) : Nat := (log.layers.find? layer).getD 0

@[simp] theorem last_new (operation layer : String) : (new operation).last layer = 0 := rfl

theorem last_insert (operation : String) (layers : KeyMap Nat) (L L' : String) (v : Nat) :
    last ⟨operation, layers.insert L v⟩ L' = if L' = L then v else last ⟨operation, layers⟩ L' := by
  simp only [last, KeyMap.find?_insert]
  split <;> rfl

variable (log : ProgressLog) {e : StreamEvent} {L st : String} {p : Nat}

theorem handle_of_progressOf (h : e.progressOf? = some (L, st, p)) :
    log.handle e = if dueAfter (log.last L) p then
        (⟨log.operation, (log.layers.insert L (log.last L)).insert L p⟩,
          [progressLine log.operation L st p])
      else (⟨log.operation, log.layers.insert L (log.last L)⟩, []) := by
  obtain ⟨id, status, current, total, bar, rfl, ht, rfl, rfl, rfl⟩ :=
    StreamEvent.progressOf?_eq_some.mp h
  simp only [handle, ht, ↓reduceIte]
  rfl

theorem handle_fst_of_progressOf_none (h : e.progressOf? = none) : (log.handle e).1 = log := by
  rcases e with ⟨id, text, _ | current, _ | total, bar⟩ | ⟨_ | id, text⟩ | line | _ | _
  · rfl
  · rfl
  · rfl
  · by_cases ht : total = 0
    · simp [handle, ht]
    · simp [StreamEvent.progressOf?, ht] at h
  · rfl
  · rfl
  · simp only [handle]
    split <;> rfl
  · rfl
  · rfl

theorem handle_snd_of_progressOf_none (hl : e.layer? = some L) (h : e.progressOf? = none) :
    (log.handle e).2 = [] := by
  rcases e with ⟨id, text, _ | current, _ | total, bar⟩ | _ | _ | _ | _ <;>
    simp only [StreamEvent.layer?, reduceCtorEq] at hl
  · rfl
  · rfl
  · rfl
  · by_cases ht : total = 0
    · simp [handle, ht]
    · simp [StreamEvent.progressOf?, ht] at h

/-- One event, seen from the layer `L`: the operation stays, and either the event leaves the
layer's last report and emits no line for the layer, or it is a progress event of the layer, due
after its last report, whose one line reports the percentage that becomes the last. -/
theorem handle_at (e : StreamEvent) (L : String) :
    (log.handle e).1.operation = log.operation ∧
      (((e.layer? = some L → (log.handle e).2 = []) ∧ (log.handle e).1.last L = log.last L) ∨
        ∃ st p, e.progressOf? = some (L, st, p) ∧ dueAfter (log.last L) p = true ∧
          (log.handle e).2 = [progressLine log.operation L st p] ∧ (log.handle e).1.last L = p) := by
  cases hp : e.progressOf? with
  | none =>
    rw [handle_fst_of_progressOf_none log hp]
    exact ⟨rfl, .inl ⟨fun hl => handle_snd_of_progressOf_none log hl hp, rfl⟩⟩
  | some q =>
    obtain ⟨L', st, p⟩ := q
    have hlayer := StreamEvent.layer?_of_progressOf? hp
    rw [handle_of_progressOf log hp]
    refine ⟨by split <;> rfl, ?_⟩
    by_cases hL : L = L'
    · subst hL
      by_cases hd : dueAfter (log.last L) p = true
      · rw [if_pos hd]
        exact .inr ⟨st, p, rfl, hd, rfl, by simp [last_insert]⟩
      · rw [if_neg hd]
        exact .inl ⟨fun _ => rfl, by simp [last_insert]⟩
    · -- another layer's event: no line for `L`, and `L`'s last report stays
      have hquiet : e.layer? = some L → False := fun hl => hL (Option.some.inj (hl.symm.trans hlayer))
      refine .inl ⟨fun hl => (hquiet hl).elim, ?_⟩
      split <;> simp [last_insert, hL]

theorem dueAfter_rises {last p : Nat} (hlast : last + 10 < Nat.pow 2 64)
    (h : dueAfter last p = true) : last < p ∧ (p = 100 ∨ last + 10 ≤ p) ∨ p = 100 ∧ last ≠ 100 := by
  simp only [dueAfter, Nat.mod_eq_of_lt hlast, Bool.or_eq_true, decide_eq_true_eq,
    Bool.and_eq_true, ne_eq] at h
  omega

/-- The reports a layer at `last` can still get, having had `n`, while it stays within a hundred:
none after a hundred, and otherwise one for each ten points it has climbed so far at most. -/
def Room (last n : Nat) : Prop := last ≤ 100 ∧ (last = 100 → n ≤ 10) ∧ (last ≠ 100 → 10 * n ≤ last)

theorem Room.le_ten {last n : Nat} (h : Room last n) : n ≤ 10 := by
  obtain ⟨hle, hfull, hpart⟩ := h
  by_cases hl : last = 100
  · exact hfull hl
  · have := hpart hl
    omega

theorem Room.report {last n p : Nat} (h : Room last n) (hp : p ≤ 100) (hd : dueAfter last p = true) :
    last < p ∧ Room p (n + 1) := by
  obtain ⟨hle, hfull, hpart⟩ := h
  have hrise := dueAfter_rises (by rw [show Nat.pow 2 64 = 18446744073709551616 from rfl]; omega) hd
  by_cases hl : last = 100
  · omega
  · have := hpart hl
    refine ⟨by omega, hp, fun _ => by omega, fun hp100 => by omega⟩

/-- The lines the progress events of the layer `L` emit, when the events are handled one after
another from `log`. -/
def layerLines (L : String) : ProgressLog → List StreamEvent → List LogRecord
  | _, [] => []
  | log, e :: es => (if e.layer? = some L then (log.handle e).2 else []) ++
      layerLines L (log.handle e).1 es

/-- While the layer `L` stands at no more than a hundred, the lines for it report rising
percentages, each above the last report before, and no more than there is room for. The
induction is on the events, with the log and the count of reports so far generalized; `handle_at`
says what each event does to the layer. -/
theorem layerLines_within (L : String) :
    ∀ (events : List StreamEvent) (log : ProgressLog) (n : Nat), Room (log.last L) n →
      (∀ e ∈ events, ∀ q ∈ e.progressOf?, q.1 = L → q.2.2 ≤ 100) →
      ∃ reports : List (String × Nat),
        layerLines L log events = reports.map (fun r => progressLine log.operation L r.1 r.2) ∧
        n + reports.length ≤ 10 ∧ (log.last L :: reports.map (·.2)).Pairwise (· < ·) := by
  intro events
  induction events with
  | nil =>
    intro log n hroom _
    exact ⟨[], rfl, by simpa using hroom.le_ten, by simp⟩
  | cons e es ih =>
    intro log n hroom hsmall
    have hrest : ∀ e ∈ es, ∀ q ∈ e.progressOf?, q.1 = L → q.2.2 ≤ 100 :=
      fun e' he' => hsmall e' (List.mem_cons_of_mem e he')
    obtain ⟨hop, hstep⟩ := handle_at log e L
    rcases hstep with ⟨hquiet, hlast⟩ | ⟨st, p, hp, hdue, hline, hlast⟩
    · -- nothing for `L`: the rest of the run reports from the same last report
      obtain ⟨reports, hlines, hcount, hrise⟩ := ih (log.handle e).1 n (hlast ▸ hroom) hrest
      refine ⟨reports, ?_, hcount, hlast ▸ hrise⟩
      have hnone : (if e.layer? = some L then (log.handle e).2 else []) = [] := by
        split
        · exact hquiet ‹_›
        · rfl
      rw [layerLines, hnone, List.nil_append, hlines, hop]
    · -- a report of `L`: it rises above the last one, and the rest rise above it
      have hp100 : p ≤ 100 := hsmall e List.mem_cons_self (L, st, p) hp rfl
      obtain ⟨hlt, hroom'⟩ := hroom.report hp100 hdue
      obtain ⟨reports, hlines, hcount, hrise⟩ := ih (log.handle e).1 (n + 1) (hlast ▸ hroom') hrest
      rw [hlast] at hrise
      refine ⟨(st, p) :: reports, ?_, by simp only [List.length_cons]; omega, ?_⟩
      · rw [layerLines, if_pos (StreamEvent.layer?_of_progressOf? hp), hline, hlines, hop]
        rfl
      · refine List.Pairwise.cons (fun b hb => ?_) hrise
        rcases List.mem_cons.mp hb with rfl | hb
        · exact hlt
        · exact Nat.lt_trans hlt (List.rel_of_pairwise_cons hrise hb)

/-- A layer that stands at no more than a hundred percent in every progress event is reported at
most ten times, at strictly rising percentages: the lines its progress events emit are the lines
reporting `reports`, in order. -/
theorem layer_reports_rise_within_total (operation L : String) (events : List StreamEvent)
    (h : ∀ e ∈ events, ∀ q ∈ e.progressOf?, q.1 = L → q.2.2 ≤ 100) :
    ∃ reports : List (String × Nat),
      layerLines L (new operation) events =
        reports.map (fun r => progressLine operation L r.1 r.2) ∧
      reports.length ≤ 10 ∧ (reports.map (·.2)).Pairwise (· < ·) := by
  obtain ⟨reports, hlines, hcount, hrise⟩ :=
    layerLines_within L events (new operation) 0 ⟨by simp, by simp, by simp⟩ h
  exact ⟨reports, hlines, by omega, (List.pairwise_cons.mp hrise).2⟩

/-- Two layers, one of them finished, none past its total. -/
theorem layer_reports_rise_two_layers :
    (∀ e ∈ [StreamEvent.progress (some "a") (some "Downloading") (some 5) (some 10) none,
        .progress (some "b") (some "Downloading") (some 5) (some 10) none,
        .progress (some "a") (some "Downloading") (some 7) (some 10) none,
        .progress (some "a") (some "Downloading") (some 10) (some 10) none],
        ∀ q ∈ e.progressOf?, q.1 = "a" → q.2.2 ≤ 100) ∧
    ∃ reports : List (String × Nat),
      layerLines "a" (new "pull") [.progress (some "a") (some "Downloading") (some 5) (some 10) none,
        .progress (some "b") (some "Downloading") (some 5) (some 10) none,
        .progress (some "a") (some "Downloading") (some 7) (some 10) none,
        .progress (some "a") (some "Downloading") (some 10) (some 10) none] =
        reports.map (fun r => progressLine "pull" "a" r.1 r.2) ∧
      reports.length ≤ 10 ∧ (reports.map (·.2)).Pairwise (· < ·) := by
  refine ⟨?within, layer_reports_rise_within_total "pull" "a" _ ?within⟩
  intro e he
  simp only [List.mem_cons, List.not_mem_nil, or_false] at he
  rcases he with rfl | rfl | rfl | rfl <;> decide

/-- Past its total, a layer is reported every ten points, without bound: twelve lines, the last a
hundred below the hundred and ten before it. -/
theorem progress_past_total_reported_twelve_times :
    layerLines "L" (new "pull")
      ((List.range 12).map fun k => .progress (some "L") (some "Downloading")
        (some (if k = 11 then 100 else 10 * (k + 1))) (some 100) none) =
      [10, 20, 30, 40, 50, 60, 70, 80, 90, 100, 110, 100].map
        (progressLine "pull" "L" "Downloading") := by
  decide

/-- The values the u64 arithmetic of handling an event computes, before any wrapping: the product
`current · 100` as it saturates, the percentage, and the layer's last report plus ten. -/
def computed (log : ProgressLog) : StreamEvent → List Nat
  | .progress id _ (some current) (some total) _ =>
    if total = 0 then []
    else [min (current * 100) u64Max, percentOf current total, log.last (id.getD "") + 10]
  | _ => []

/-- Whether handling the events one after another from `log` computes only values that fit in a
u64. -/
def FitsAlong : ProgressLog → List StreamEvent → Prop
  | _, [] => True
  | log, e :: es => (∀ v ∈ log.computed e, v ≤ u64Max) ∧ FitsAlong (log.handle e).1 es

theorem computed_fits_iff :
    (∀ v ∈ log.computed e, v ≤ u64Max) ↔
      ∀ L st p, e.progressOf? = some (L, st, p) → log.last L + 10 ≤ u64Max := by
  rcases e with ⟨id, status, _ | current, _ | total, bar⟩ | _ | _ | _ | _
  all_goals try simp [computed, StreamEvent.progressOf?]
  by_cases ht : total = 0
  · simp [ht]
  · have hprod : min (current * 100) u64Max ≤ u64Max := Nat.min_le_right _ _
    have hpercent : percentOf current total ≤ u64Max := Nat.le_trans (Nat.div_le_self _ _) hprod
    simp [ht, hprod, hpercent]

theorem fitsAlong_of_small :
    ∀ (events : List StreamEvent) (log : ProgressLog), (∀ L, log.last L + 10 ≤ u64Max) →
      (∀ e ∈ events, ∀ q ∈ e.progressOf?, q.2.2 + 10 ≤ u64Max) → FitsAlong log events := by
  intro events
  induction events with
  | nil => intro _ _ _; trivial
  | cons e es ih =>
    intro log hlast hsmall
    refine ⟨(computed_fits_iff log).mpr fun L _ _ _ => hlast L, ih _ (fun L => ?_)
      (fun e' he' => hsmall e' (List.mem_cons_of_mem e he'))⟩
    rcases (handle_at log e L).2 with ⟨-, hkeep⟩ | ⟨st, p, hp, -, -, hreport⟩
    · exact hkeep ▸ hlast L
    · exact hreport ▸ hsmall e List.mem_cons_self (L, st, p) hp

/-- Handling a sequence of events in which no progress event stands at 2^64 − 10 percent or more
computes no value past the largest u64. -/
theorem handle_fits_u64_below_wrap (operation : String) (events : List StreamEvent)
    (h : ∀ e ∈ events, ∀ q ∈ e.progressOf?, q.2.2 + 10 ≤ u64Max) :
    FitsAlong (new operation) events :=
  fitsAlong_of_small events (new operation) (fun L => by simp [u64Max]) h

/-- A layer's download in two steps, none near the wrap-around. -/
theorem handle_fits_u64_download :
    (∀ e ∈ [StreamEvent.progress (some "L") (some "Downloading") (some 37) (some 1000) none,
        .progress (some "L") (some "Downloading") (some 999) (some 1000) none],
        ∀ q ∈ e.progressOf?, q.2.2 + 10 ≤ u64Max) ∧
    FitsAlong (new "pull") [.progress (some "L") (some "Downloading") (some 37) (some 1000) none,
        .progress (some "L") (some "Downloading") (some 999) (some 1000) none] := by
  refine ⟨?small, handle_fits_u64_below_wrap "pull" _ ?small⟩
  intro e he
  simp only [List.mem_cons, List.not_mem_nil, or_false] at he
  rcases he with rfl | rfl <;> decide

/-- A layer reported at the largest u64 percent (a current of 2^64 − 1 over a total of one): the
next progress event of the layer adds ten to that report, past the largest u64. -/
theorem progress_sum_overflows :
    ¬ FitsAlong (new "pull")
      [.progress (some "L") (some "Downloading") (some u64Max) (some 1) none,
        .progress (some "L") (some "Downloading") (some 50) (some 100) none] := by
  rintro ⟨-, hsecond, -⟩
  have hsum : u64Max + 10 ∈ ((new "pull").handle
      (.progress (some "L") (some "Downloading") (some u64Max) (some 1) none)).1.computed
      (.progress (some "L") (some "Downloading") (some 50) (some 100) none) := by
    decide
  exact absurd (hsecond _ hsum) (by decide)

end ProgressLog

end Mooring.Engine
