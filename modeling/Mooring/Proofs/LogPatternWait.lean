import Mooring.Proofs.LogFollow
import Mooring.Wait.Probes
namespace Mooring.Text.Regex

/-- The letters of the flags a group may set or clear, and the `-` between the two. -/
def isFlagChar (x : Char) : Bool := ['i', 'm', 's', 'x', 'U', 'u', 'R', '-'].contains x

/-- The pattern opens with a group of flags that sets `s`: `(?`, flag letters with an `s` among
those before any `-`, then `)` or `:`. -/
def OpensWithDotAll (pattern : String) : Prop :=
  ∃ flags close rest, pattern.toList = '(' :: '?' :: (flags ++ close :: rest) ∧
    (close = ')' ∨ close = ':') ∧ (∀ x ∈ flags, isFlagChar x = true) ∧
    's' ∈ flags.takeWhile (· ≠ '-')

/-- The pattern opens with a named group, `(?P<name>…)` or `(?<name>…)`. -/
def OpensNamedGroup (pattern : String) : Prop :=
  (∃ rest, pattern.toList = '(' :: '?' :: 'P' :: '<' :: rest) ∨
    ∃ rest, pattern.toList = '(' :: '?' :: '<' :: rest

theorem ne_of_isFlagChar {x : Char} (h : isFlagChar x = true) : x ≠ ')' ∧ x ≠ ':' := by
  simp only [isFlagChar, List.contains_eq_mem, decide_eq_true_eq, List.mem_cons,
    List.not_mem_nil, or_false] at h
  rcases h with rfl | rfl | rfl | rfl | rfl | rfl | rfl | rfl <;> decide

theorem takeWhile_flags {flags : List Char} {close : Char} (rest : List Char)
    (hflags : ∀ x ∈ flags, isFlagChar x = true) (hclose : close = ')' ∨ close = ':') :
    (flags ++ close :: rest).takeWhile (fun c => c ≠ ')' && c ≠ ':') = flags := by
  rw [List.takeWhile_append_of_pos fun x hx => by simpa using ne_of_isFlagChar (hflags x hx)]
  rcases hclose with rfl | rfl <;> simp

theorem opensDotAll_of_opensWithDotAll {pattern : String} (h : OpensWithDotAll pattern) :
    opensDotAll pattern = true := by
  obtain ⟨flags, close, rest, hp, hclose, hflags, hs⟩ := h
  unfold opensDotAll
  split
  · rename_i more hmore
    rw [hp, List.cons.injEq, List.cons.injEq] at hmore
    rw [← hmore.2.2, takeWhile_flags rest hflags hclose]
    simpa using hs
  · rename_i hnot
    exact absurd (hp ▸ rfl) (hnot (flags ++ close :: rest))

theorem isFlagChar_of_set {flags flags' : Flags} {on : Bool} {x : Char}
    (h : flags.set on x = some flags') : isFlagChar x = true := by
  unfold Flags.set at h
  split at h
  all_goals first
    | rfl
    | cases h

theorem parseFlags_succ_eq_ok {start fuel : Nat} {flags : Flags} {on : Bool} {seen : List Char}
    {c : Cursor} {res : Flags × Bool × Cursor}
    (h : parseFlags start flags (fuel + 1) on seen c = .ok res) :
    (∃ close rest, c.rest = close :: rest ∧ (close = ')' ∨ close = ':')) ∨
      ∃ x rest flags' on' seen', c.rest = x :: rest ∧ isFlagChar x = true ∧
        parseFlags start flags' fuel on' seen' (c.advance 1) = .ok res := by
  unfold parseFlags at h
  split at h
  · exact .inl ⟨_, _, ‹_›, .inl rfl⟩
  · exact .inl ⟨_, _, ‹_›, .inr rfl⟩
  · split at h
    · cases h
    · exact .inr ⟨_, _, _, _, _, ‹_›, rfl, h⟩
  · split at h
    · cases h
    · split at h
      · cases h
      · exact .inr ⟨_, _, _, _, _, ‹_›, isFlagChar_of_set ‹_›, h⟩
  · cases h

/-- Flags that read stop at a `)` or `:`, past flag letters only. The induction is on the fuel,
one letter read at a time. -/
theorem parseFlags_eq_ok {start : Nat} :
    ∀ (fuel : Nat) (flags : Flags) (on : Bool) (seen : List Char) (c : Cursor)
      (res : Flags × Bool × Cursor),
      parseFlags start flags fuel on seen c = .ok res →
      ∃ fl close rest, c.rest = fl ++ close :: rest ∧ (close = ')' ∨ close = ':') ∧
        ∀ x ∈ fl, isFlagChar x = true := by
  intro fuel
  induction fuel with
  | zero => intro _ _ _ _ _ h; cases h
  | succ fuel ih =>
    intro flags on seen c res h
    rcases parseFlags_succ_eq_ok h with
      ⟨close, rest, hrest, hclose⟩ | ⟨x, tail, flags', on', seen', hrest, hx, h'⟩
    · exact ⟨[], close, rest, hrest, hclose, by simp⟩
    · obtain ⟨fl, close, rest, htail, hclose, hfl⟩ := ih flags' on' seen' _ res h'
      have htail' : tail = fl ++ close :: rest := by
        simpa [Cursor.advance, hrest] using htail
      refine ⟨x :: fl, close, rest, by rw [hrest, htail', List.cons_append], hclose, ?_⟩
      intro y hy
      rcases List.mem_cons.mp hy with rfl | hy
      · exact hx
      · exact hfl y hy

theorem exists_of_bind_eq_ok {ε α β : Type} {x : Except ε α} {f : α → Except ε β} {b : β}
    (h : x >>= f = .ok b) : ∃ a, x = .ok a ∧ f a = .ok b := by
  cases x with
  | error e => cases h
  | ok a => exact ⟨a, rfl, h⟩

theorem parseConcat_opening_flags {fuel pos : Nat} {flags : Flags} {more : List Char}
    {acc : List Expr} {a : Expr × Flags × Cursor} (hv : flags.verbose = false)
    (hn1 : ∀ t, more ≠ 'P' :: '<' :: t) (hn2 : ∀ t, more ≠ '<' :: t)
    (h : parseConcat (fuel + 1) flags ⟨'(' :: '?' :: more, pos⟩ acc = .ok a) :
    ∃ res, parseFlags pos flags (more.length + 1) true [] ⟨more, pos + 2⟩ = .ok res := by
  rw [parseConcat] at h
  simp only [skipVerbose, hv, Bool.not_false, ↓reduceIte] at h
  split at h
  -- the last branch reads flags; before it, look-arounds, an empty or unclosed opening are
  -- refused and named groups are excluded
  rotate_right
  · obtain ⟨res, hres, -⟩ := exists_of_bind_eq_ok h
    exact ⟨res, hres⟩
  all_goals first
    | cases h
    | exact absurd rfl (hn1 _)
    | exact absurd rfl (hn2 _)

theorem parse_opening_flags {pattern : String} {r : Expr} (h : parse pattern = .ok r)
    {more : List Char} (hp : pattern.toList = '(' :: '?' :: more)
    (hn1 : ∀ t, more ≠ 'P' :: '<' :: t) (hn2 : ∀ t, more ≠ '<' :: t) :
    ∃ res, parseFlags 0 Flags.initial (more.length + 1) true [] ⟨more, 2⟩ = .ok res := by
  unfold parse at h
  rw [hp] at h
  obtain ⟨_, halt, -⟩ := exists_of_bind_eq_ok h
  rw [show 4 * ('(' :: '?' :: more).length + 8 = (4 * more.length + 13) + 1 + 1 + 1 by
    simp only [List.length_cons]; omega] at halt
  rw [parseAlternation, parseBranches] at halt
  obtain ⟨_, hconcat, -⟩ := exists_of_bind_eq_ok halt
  exact parseConcat_opening_flags rfl hn1 hn2 hconcat

theorem opensDotAll_iff_opensWithDotAll {pattern : String} {r : Expr} (h : parse pattern = .ok r)
    (hnamed : ¬ OpensNamedGroup pattern) :
    opensDotAll pattern = true ↔ OpensWithDotAll pattern := by
  refine ⟨fun hd => ?_, opensDotAll_of_opensWithDotAll⟩
  unfold opensDotAll at hd
  split at hd
  · rename_i more hp
    have hn1 : ∀ t, more ≠ 'P' :: '<' :: t := fun t ht => hnamed (.inl ⟨t, by rw [hp, ht]⟩)
    have hn2 : ∀ t, more ≠ '<' :: t := fun t ht => hnamed (.inr ⟨t, by rw [hp, ht]⟩)
    obtain ⟨res, hres⟩ := parse_opening_flags h hp hn1 hn2
    -- the flags read are the text up to the first `)` or `:`
    obtain ⟨flags, close, rest, hmore, hclose, hflags⟩ := parseFlags_eq_ok _ _ _ _ _ _ hres
    change more = flags ++ close :: rest at hmore
    refine ⟨flags, close, rest, by rw [hp, hmore], hclose, hflags, ?_⟩
    rw [hmore, takeWhile_flags rest hflags hclose] at hd
    simpa using hd
  · cases hd

end Mooring.Text.Regex

namespace Mooring.Wait

open Mooring.Engine Mooring.Text

/-- The output a log check has seen after some lines: each line's text followed by a line feed. -/
def transcript : List LogLine → String
  | [] => ""
  | l :: ls => l.text ++ "\n" ++ transcript ls

theorem transcript_append_single (ls : List LogLine) (l : LogLine) :
    transcript (ls ++ [l]) = transcript ls ++ l.text ++ "\n" := by
  induction ls with
  | nil => simp [transcript]
  | cons l' ls ih => simp [transcript, ih, String.append_assoc]

namespace LogCheck

variable (c : LogCheck)

/-- What the check's matcher holds after some lines: the output so far, when the check matches
the whole of it. -/
def bufferAfter (lines : List LogLine) : Option String :=
  if Regex.opensDotAll c.pattern then some (transcript lines) else none

/-- Whether the check finds its pattern at line `k` of `lines`: in the output up to and with that
line when its pattern lets `.` match line feeds from its start, else in that line alone. -/
def foundAt (lines : List LogLine) (k : Nat) : Bool :=
  if Regex.opensDotAll c.pattern then c.regex.isMatch (transcript (lines.take (k + 1)))
  else match lines[k]? with
    | some l => c.regex.isMatch l.text
    | none => false

@[simp] theorem bufferAfter_nil : c.bufferAfter [] = c.start.buffer := rfl

theorem feed_step (lines : List LogLine) (k : Nat) (hk : k < lines.length) (found : Bool) :
    c.feed ⟨c.bufferAfter (lines.take k), found⟩ lines[k] =
      (⟨c.bufferAfter (lines.take (k + 1)), c.foundAt lines k⟩,
        if c.foundAt lines k then .stop else .continue) := by
  have hsplit := List.take_succ_eq_append_getElem hk
  unfold feed bufferAfter foundAt
  by_cases hd : Regex.opensDotAll c.pattern = true
  · simp only [hd, ↓reduceIte, hsplit, transcript_append_single]
    cases c.regex.isMatch (transcript (lines.take k) ++ lines[k].text ++ "\n") <;> rfl
  · simp only [hd, Bool.false_eq_true, ↓reduceIte, List.getElem?_eq_getElem hk]
    cases c.regex.isMatch lines[k].text <;> rfl

theorem feedLines_take_quiet (lines : List LogLine) :
    ∀ k ≤ lines.length, (∀ i < k, c.foundAt lines i = false) →
      feedLines c.feed c.start (lines.take k) = (⟨c.bufferAfter (lines.take k), false⟩, false) := by
  intro k
  induction k with
  | zero => intro _ _; rfl
  | succ k ih =>
    intro hk hquiet
    have hlt : k < lines.length := hk
    conv => lhs; rw [List.take_succ_eq_append_getElem hlt, feedLines_append]
    rw [ih (Nat.le_of_lt hlt) fun i hi => hquiet i (Nat.lt_succ_of_lt hi)]
    dsimp only
    rw [feedLines, feed_step c lines k hlt, hquiet k (Nat.lt_succ_self k)]
    rfl

theorem feedLines_take_succ (lines : List LogLine) (k : Nat) (hk : k < lines.length)
    (hbefore : ∀ i < k, c.foundAt lines i = false) :
    feedLines c.feed c.start (lines.take (k + 1)) =
      (⟨c.bufferAfter (lines.take (k + 1)), c.foundAt lines k⟩, c.foundAt lines k) := by
  conv => lhs; rw [List.take_succ_eq_append_getElem hk, feedLines_append]
  rw [feedLines_take_quiet c lines k (Nat.le_of_lt hk) hbefore]
  dsimp only
  rw [feedLines, feed_step c lines k hk]
  cases c.foundAt lines k <;> rfl

end LogCheck

theorem LogCheck.parse_of_new {size : String → Nat} {id pattern : String} {c : LogCheck}
    (hc : LogCheck.new size id pattern = .ok c) : Regex.parse c.pattern = .ok c.regex := by
  unfold LogCheck.new Regex.compile at hc
  split at hc
  · rename_i r hr
    cases hc
    split at hr
    · cases hr
    · rename_i r' hparse
      split at hr
      · cases hr
      · cases hr
        exact hparse
  · cases hc

/-- The log check of a pattern stops at the first line where it finds the pattern, answering
continue before, and sets its flag there and not before. It finds the pattern in the whole output
up to that line when the pattern's text lets `.` match line feeds from the start, else in the
line alone; for a pattern that does not open with a named group, that is exactly when it opens
with a group of flags that sets `s`. -/
theorem log_wait_stops_at_first_found {size : String → Nat} {id pattern : String} {c : LogCheck}
    (hc : LogCheck.new size id pattern = .ok c) :
    (∀ (lines : List LogLine) (k : Nat), k < lines.length → (∀ i < k, c.foundAt lines i = false) →
      feedLines c.feed c.start (lines.take (k + 1)) =
        (⟨c.bufferAfter (lines.take (k + 1)), c.foundAt lines k⟩, c.foundAt lines k)) ∧
    (¬ Regex.OpensNamedGroup c.pattern →
      (Regex.opensDotAll c.pattern = true ↔ Regex.OpensWithDotAll c.pattern)) := by
  exact ⟨c.feedLines_take_succ, fun hnamed =>
    Regex.opensDotAll_iff_opensWithDotAll (LogCheck.parse_of_new hc) hnamed⟩

/-- The pattern of a wait across lines, as the check reads it. -/
theorem log_wait_stops_at_first_found_across_lines :
    ∃ c, LogCheck.new String.length "db" "(?s)first.*second" = .ok c ∧
      (∀ (lines : List LogLine) (k : Nat), k < lines.length → (∀ i < k, c.foundAt lines i = false) →
        feedLines c.feed c.start (lines.take (k + 1)) =
          (⟨c.bufferAfter (lines.take (k + 1)), c.foundAt lines k⟩, c.foundAt lines k)) ∧
      (¬ Regex.OpensNamedGroup c.pattern →
        (Regex.opensDotAll c.pattern = true ↔ Regex.OpensWithDotAll c.pattern)) := by
  have hok : (LogCheck.new String.length "db" "(?s)first.*second").isOk = true := by decide +kernel
  cases h : LogCheck.new String.length "db" "(?s)first.*second" with
  | error e =>
    rw [h] at hok
    cases hok
  | ok c => exact ⟨c, rfl, log_wait_stops_at_first_found h⟩

/-- A pattern opening with a named group whose name is `s` is no group of flags, yet its check
matches the whole output: the line `b` alone matches `(?<s>b)$`, but the output `b` and a line
feed does not, so the check does not stop at that line. -/
theorem named_group_matches_whole_output :
    ¬ Regex.OpensWithDotAll "(?<s>b)$" ∧
    ∃ c, LogCheck.new String.length "db" "(?<s>b)$" = .ok c ∧ c.regex.isMatch "b" = true ∧
      (feedLines c.feed c.start [⟨.raw, none, "b"⟩]).2 = false := by
  constructor
  · rintro ⟨flags, close, rest, hp, hclose, hflags, -⟩
    have htext : "(?<s>b)$".toList = ['(', '?', '<', 's', '>', 'b', ')', '$'] := by decide +kernel
    rw [htext, List.cons.injEq, List.cons.injEq] at hp
    cases flags with
    | nil =>
      obtain ⟨hc, -⟩ : '<' = close ∧ _ := by simpa using hp
      rcases hclose with rfl | rfl <;> cases hc
    | cons x flags =>
      obtain ⟨hx, -⟩ : '<' = x ∧ _ := by simpa using hp
      have := hflags x List.mem_cons_self
      rw [← hx] at this
      cases this
  · have hrun : (match LogCheck.new String.length "db" "(?<s>b)$" with
        | .ok c => c.regex.isMatch "b" && !(feedLines c.feed c.start [⟨.raw, none, "b"⟩]).2
        | .error _ => false) = true := by decide +kernel
    cases h : LogCheck.new String.length "db" "(?<s>b)$" with
    | error e =>
      rw [h] at hrun
      cases hrun
    | ok c =>
      rw [h] at hrun
      simp only [Bool.and_eq_true, Bool.not_eq_eq_eq_not, Bool.not_true] at hrun
      exact ⟨c, rfl, hrun.1, hrun.2⟩

end Mooring.Wait
