import Mooring.Engine.Logs
namespace Mooring.Engine

open Mooring.Text

theorem takeWhile_append_stop {p : Char → Bool} {body rest : List Char}
    (inside : ∀ c ∈ body, p c = true) (stop : ∀ c ∈ rest.head?, p c = false) :
    (body ++ rest).takeWhile p = body := by
  rw [List.takeWhile_append_of_pos inside]
  cases rest with
  | nil => simp
  | cons c rest => simp [stop c rfl]

theorem dropWhile_of_head {p : Char → Bool} {l : List Char} (stop : ∀ c ∈ l.head?, p c = false) :
    l.dropWhile p = l := by
  cases l with
  | nil => rfl
  | cons c l => simp [stop c rfl]

theorem dropTrailing_append {p : Char → Bool} {line ends : List Char}
    (hends : ∀ c ∈ ends, p c = true) (hlast : ∀ c ∈ line.getLast?, p c = false) :
    ((line ++ ends).reverse.dropWhile p).reverse = line := by
  rw [List.reverse_append, List.dropWhile_append_of_pos (by simpa using hends),
    dropWhile_of_head (by simpa [List.head?_reverse] using hlast), List.reverse_reverse]

/-- A line opens with the token `tok`, and `rest` follows: an optional `[`, taken when the line
starts with one, the token, whose characters are neither blanks nor `]`, and an optional `]`,
taken when one follows the token. Without a `]`, what follows the token is a blank or nothing. -/
structure Opens (line tok rest : List Char) : Prop where
  token : ∀ c ∈ tok, isBlank c = false ∧ c ≠ ']'
  shape : (line = (if line.head? = some '[' then ['['] else []) ++ tok ++ rest ∧
      ∀ c ∈ rest.head?, isBlank c = true) ∨
    line = (if line.head? = some '[' then ['['] else []) ++ tok ++ ']' :: rest

theorem Opens.body {line tok rest : List Char} (h : Opens line tok rest) :
    ∃ after, (line = '[' :: (tok ++ after) ∨ (line = tok ++ after ∧ line.head? ≠ some '[')) ∧
      (after = ']' :: rest ∨ (after = rest ∧ ∀ c ∈ rest.head?, isBlank c = true)) := by
  have bracket : ∀ after, line = (if line.head? = some '[' then ['['] else []) ++ tok ++ after →
      line = '[' :: (tok ++ after) ∨ (line = tok ++ after ∧ line.head? ≠ some '[') := by
    intro after he
    by_cases hb : line.head? = some '['
    · rw [if_pos hb] at he
      exact .inl (by simpa using he)
    · rw [if_neg hb] at he
      exact .inr ⟨by simpa using he, hb⟩
  rcases h.shape with ⟨he, hrest⟩ | he
  · exact ⟨rest, bracket rest he, .inr ⟨rfl, hrest⟩⟩
  · exact ⟨']' :: rest, bracket _ he, .inl rfl⟩

/-- Once a line opens with a token, it splits as its rest does: at the blanks at the front of the
rest, with the entry what follows them, less trailing blanks. -/
theorem splitTimestamp_of_opens {line tok rest : List Char} (h : Opens line tok rest) :
    splitTimestamp line =
      let blanks := rest.takeWhile isBlank
      let entry := ((rest.drop blanks.length).reverse.dropWhile isBlank).reverse
      if blanks.isEmpty || entry.contains '\n' then none
      else some (String.ofList tok, String.ofList entry) := by
  have inside : ∀ c ∈ tok, (!isBlank c && c ≠ ']') = true := fun c hc => by
    simp [(h.token c hc).1, (h.token c hc).2]
  obtain ⟨after, hline, hafter⟩ := h.body
  -- the token runs up to `after`, which starts with `]`, a blank, or nothing
  have stop : ∀ c ∈ after.head?, (!isBlank c && c ≠ ']') = false := by
    rcases hafter with rfl | ⟨rfl, hrest⟩
    · simp
    · intro c hc
      simp [hrest c hc]
  have hstamp : (tok ++ after).takeWhile (fun c => !isBlank c && c ≠ ']') = tok :=
    takeWhile_append_stop inside stop
  unfold splitTimestamp
  -- the line less its optional bracket is the token and what follows it
  split
  case' h_1 s =>
    obtain rfl : s = tok ++ after := by
      rcases hline with he | ⟨he, hb⟩
      · simpa using he
      · simp at hb
  case' h_2 hne =>
    obtain rfl : line = tok ++ after := (hline.resolve_left fun he => hne _ he).1
  all_goals
    simp only [hstamp, List.drop_left]
    rcases hafter with rfl | ⟨rfl, hrest⟩
    · rfl
    · split
      · simp [isBlank] at hrest
      · rfl

theorem splitTimestamp_eq_some {line tok rest : List Char} (h : Opens line tok rest)
    {stamp entry : String} (hs : splitTimestamp line = some (stamp, entry)) :
    stamp = String.ofList tok ∧ ∃ c ∈ rest.head?, isBlank c = true := by
  rw [splitTimestamp_of_opens h] at hs
  dsimp only at hs
  split at hs
  · cases hs
  · next hcond =>
    cases hs
    refine ⟨rfl, ?_⟩
    cases rest with
    | nil => simp at hcond
    | cons c rest =>
      refine ⟨c, rfl, ?_⟩
      cases hc : isBlank c
      · simp [hc] at hcond
      · rfl

/-- The first character of a text that reads as a timestamp is a digit. -/
theorem head_isDigit_of_parseRfc3339 {ts : String} {t : Timestamp} (h : parseRfc3339 ts = some t) :
    ∃ c ∈ ts.toList.head?, c.isDigit = true := by
  have hyear : (digitsN 4 ts.toList).isSome := by
    cases hd : digitsN 4 ts.toList with
    | none =>
      have hnone : parseRfc3339 ts = none := by
        unfold parseRfc3339
        dsimp only
        rw [hd]
        rfl
      rw [hnone] at h
      cases h
    | some _ => rfl
  cases hs : ts.toList with
  | nil => simp [hs, digitsN] at hyear
  | cons c cs =>
    refine ⟨c, rfl, ?_⟩
    cases hc : c.isDigit
    · simp [hs, digitsN, hc] at hyear
    · rfl

theorem opens_stamped {tok x : List Char} (htok : ∀ c ∈ tok, isBlank c = false ∧ c ≠ ']')
    (hhead : ∀ c ∈ tok.head?, c.isDigit = true) :
    Opens (tok ++ ' ' :: x) tok (' ' :: x) := by
  refine ⟨htok, .inl ⟨?_, fun c hc => by simp at hc; simp [← hc, isBlank]⟩⟩
  have hb : (tok ++ ' ' :: x).head? ≠ some '[' := by
    cases tok with
    | nil => simp
    | cons c tok =>
      intro he
      have := hhead c rfl
      simp at he
      simp [he] at this
  rw [if_neg hb, List.nil_append]

theorem splitTimestamp_stamped {tok x : List Char} (htok : ∀ c ∈ tok, isBlank c = false ∧ c ≠ ']')
    (hhead : ∀ c ∈ tok.head?, c.isDigit = true) (hx : '\n' ∉ x)
    (hfirst : ∀ c ∈ x.head?, isBlank c = false) (hlast : ∀ c ∈ x.getLast?, isBlank c = false) :
    splitTimestamp (tok ++ ' ' :: x) = some (String.ofList tok, String.ofList x) := by
  rw [splitTimestamp_of_opens (opens_stamped htok hhead)]
  have hblanks : (' ' :: x).takeWhile isBlank = [' '] := by
    rw [show ' ' :: x = [' '] ++ x from rfl, takeWhile_append_stop (by simp [isBlank]) hfirst]
  have hentry : ((x.reverse.dropWhile isBlank).reverse) = x := by
    simpa using @dropTrailing_append isBlank x [] (by simp) hlast
  simp only [hblanks, List.length_singleton, List.drop_succ_cons, List.drop_zero, hentry]
  simp [hx]

namespace LogLine

/-- A line written as a timestamp, a space and a text, with or without a line end, reads back as
that timestamp and text, when the timestamp has no blank and no `]` and the text has no line feed
and no blank at either end. -/
theorem parse_stamped (stream : LogStream) {ts x : String} {t : Timestamp} {ends : List Char}
    (ht : parseRfc3339 ts = some t) (hts : ∀ c ∈ ts.toList, isBlank c = false ∧ c ≠ ']')
    (hx : '\n' ∉ x.toList) (hfirst : ∀ c ∈ x.toList.head?, isBlank c = false)
    (hlast : ∀ c ∈ x.toList.getLast?, isBlank c = false) (hends : ∀ c ∈ ends, c = '\r' ∨ c = '\n') :
    parse stream (ts ++ " " ++ x ++ String.ofList ends) = ⟨stream, some t, x⟩ := by
  obtain ⟨c, hc, hdigit⟩ := head_isDigit_of_parseRfc3339 ht
  have hhead : ∀ c ∈ ts.toList.head?, c.isDigit = true := fun c' hc' => by
    rw [Option.mem_unique hc' hc]; exact hdigit
  -- the line end goes first: the line itself ends in the text's last character, or the space
  have hline : ((ts ++ " " ++ x ++ String.ofList ends).toList.reverse.dropWhile
      fun c => c = '\r' || c = '\n').reverse = ts.toList ++ ' ' :: x.toList := by
    have heq : (ts ++ " " ++ x ++ String.ofList ends).toList = (ts.toList ++ ' ' :: x.toList) ++ ends := by
      simp
    rw [heq]
    refine dropTrailing_append (by simpa using hends) fun c' hc' => ?_
    have hne : c' ≠ '\r' ∧ c' ≠ '\n' := by
      cases hxl : x.toList.getLast? with
      | none =>
        rw [List.getLast?_eq_none_iff.mp hxl] at hc'
        obtain rfl : ' ' = c' := by simpa using hc'
        decide
      | some l =>
        obtain rfl : l = c' := by
          rw [List.getLast?_append, List.getLast?_cons, hxl] at hc'
          simpa using hc'
        have hl := hlast l hxl
        constructor <;> intro he <;> simp [he, isBlank] at hl
    simp [hne.1, hne.2]
  unfold parse
  simp only [hline, splitTimestamp_stamped hts hhead hx hfirst hlast, String.ofList_toList, ht]

theorem parse_unstamped (stream : LogStream) {raw : String} {line ends tok rest : List Char}
    (hraw : raw.toList = line ++ ends) (hends : ∀ c ∈ ends, c = '\r' ∨ c = '\n')
    (hlast : ∀ c ∈ line.getLast?, c ≠ '\r' ∧ c ≠ '\n') (hopen : Opens line tok rest)
    (h : (∀ c ∈ rest.head?, isBlank c = false) ∨ parseRfc3339 (String.ofList tok) = none) :
    parse stream raw = ⟨stream, none, String.ofList line⟩ := by
  have hline : (raw.toList.reverse.dropWhile fun c => c = '\r' || c = '\n').reverse = line := by
    rw [hraw]
    exact dropTrailing_append (by simpa using hends) fun c hc => by simp [(hlast c hc).1, (hlast c hc).2]
  unfold parse
  simp only [hline]
  cases hsplit : splitTimestamp line with
  | none => rfl
  | some p =>
    obtain ⟨stamp, entry⟩ := p
    obtain ⟨rfl, c, hc, hblank⟩ := splitTimestamp_eq_some hopen hsplit
    rcases h with hnot | hbad
    · -- a blank follows the token after all
      exact absurd hblank (by simp [hnot c hc])
    · simp [hbad]

/-- Timestamped lines split back into timestamp and text: a timestamp without blanks or `]`, a
space and a text without line feeds or blanks at its ends, with or without a line end, read back
as that timestamp and text; and a line whose leading token is not followed by a blank, once an
optional `]` is passed, or does not read as a timestamp, keeps its text less its line end and has
no timestamp. -/
theorem parse_splits_timestamp (stream : LogStream) :
    (∀ (ts x : String) (t : Timestamp) (ends : List Char), parseRfc3339 ts = some t →
      (∀ c ∈ ts.toList, isBlank c = false ∧ c ≠ ']') → '\n' ∉ x.toList →
      (∀ c ∈ x.toList.head?, isBlank c = false) → (∀ c ∈ x.toList.getLast?, isBlank c = false) →
      (∀ c ∈ ends, c = '\r' ∨ c = '\n') →
      parse stream (ts ++ " " ++ x ++ String.ofList ends) = ⟨stream, some t, x⟩) ∧
    (∀ (raw : String) (line ends tok rest : List Char), raw.toList = line ++ ends →
      (∀ c ∈ ends, c = '\r' ∨ c = '\n') → (∀ c ∈ line.getLast?, c ≠ '\r' ∧ c ≠ '\n') →
      Opens line tok rest →
      ((∀ c ∈ rest.head?, isBlank c = false) ∨ parseRfc3339 (String.ofList tok) = none) →
      parse stream raw = ⟨stream, none, String.ofList line⟩) :=
  ⟨fun _ _ _ _ ht hts hx hfirst hlast hends => parse_stamped stream ht hts hx hfirst hlast hends,
    fun _ _ _ _ _ hraw hends hlast hopen h => parse_unstamped stream hraw hends hlast hopen h⟩

/-- An engine line with a timestamp to the nanosecond reads back as its timestamp and text, and a
line of plain output keeps its text. -/
theorem parse_splits_timestamp_server_started :
    parseRfc3339 "2024-05-01T10:00:00.123456789Z" = some ⟨1714557600, 123456789, 0⟩ ∧
      parse .stdout ("2024-05-01T10:00:00.123456789Z" ++ " " ++ "Server started on port 8080" ++
        String.ofList ['\n']) = ⟨.stdout, some ⟨1714557600, 123456789, 0⟩, "Server started on port 8080"⟩ ∧
      parse .raw "plain output here" = ⟨.raw, none, "plain output here"⟩ := by
  have ht : parseRfc3339 "2024-05-01T10:00:00.123456789Z" = some ⟨1714557600, 123456789, 0⟩ := by
    decide +kernel
  -- each character of the timestamp is checked by evaluating one test over the whole text
  have hts : ∀ c ∈ "2024-05-01T10:00:00.123456789Z".toList, isBlank c = false ∧ c ≠ ']' :=
    fun c hc => of_decide_eq_true
      ((@List.all_eq_true _ (fun c => decide (isBlank c = false ∧ c ≠ ']')) _).mp (by decide +kernel) c hc)
  refine ⟨ht, (parse_splits_timestamp .stdout).1 _ _ _ _ ht hts (by simp)
    (by simp [isBlank]) (by simp [isBlank]) (by simp),
    (parse_splits_timestamp .raw).2 "plain output here" _ [] "plain".toList " output here".toList
      (by simp) (by simp) (by simp)
      ⟨by simp [isBlank], .inl ⟨by simp, by simp [isBlank]⟩⟩ (.inr (by decide +kernel))⟩

/-- A timestamp in brackets is read: its token is followed by `]`, not by a blank, yet the line
gets the timestamp, the `]` being passed over before the blank. -/
theorem parse_reads_bracketed_timestamp :
    "[2024-05-01T10:00:00Z] started".toList = '[' :: "2024-05-01T10:00:00Z".toList ++ ']' :: " started".toList ∧
      (parse .stdout "[2024-05-01T10:00:00Z] started").timestamp = some ⟨1714557600, 0, 0⟩ ∧
      (parse .stdout "[2024-05-01T10:00:00Z] started").text = "started" := by
  decide +kernel

end LogLine

end Mooring.Engine
