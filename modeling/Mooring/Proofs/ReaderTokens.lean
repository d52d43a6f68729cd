import Mooring.Proofs.Nesting
namespace Mooring.Json.Reader

open Mooring.Engine Mooring.Engine.Nesting

/-- `r'` can stand for `r` after a text a reader stopped before: it is empty, or starts with the
same byte. -/
def Follows (r r' : Bytes) : Prop := r' = [] ∨ r'.head? = r.head?

theorem Follows.append {r r' : Bytes} (h : Follows r r') (c : Bytes) :
    Follows (c ++ r) (c ++ r') := by
  cases c with
  | nil => exact h
  | cons b c => exact .inr rfl

theorem follows_of_eq_append {r p q : Bytes} (h : r = p ++ q) : Follows r p := by
  cases p with
  | nil => exact .inl rfl
  | cons b p => exact .inr (by simp [h])

theorem Follows.cases {b : UInt8} {rest r' : Bytes} (h : Follows (b :: rest) r') :
    r' = [] ∨ ∃ rest', r' = b :: rest' := by
  rcases h with rfl | h
  · exact .inl rfl
  · cases r' with
    | nil => exact .inl rfl
    | cons a rest' =>
      simp only [List.head?_cons, Option.some.injEq] at h
      exact .inr ⟨rest', by rw [h]⟩

/-- On the input `s`, a reader that succeeds has read a front part `c` of shape `Shape`; its
result holds whatever follows `c` as long as it starts alike; and cut before a line feed inside
`c`, the input ends too early to be read. -/
def ReadsAt {α : Type} (Shape : Bytes → Prop) (F : Bytes → Read α) (s : Bytes) : Prop :=
  ∀ x r, F s = .ok (x, r) → ∃ c, s = c ++ r ∧ Shape c ∧
    (∀ r', Follows r r' → F (c ++ r') = .ok (x, r')) ∧
    ∀ p q, c = p ++ 0x0A :: q → ∃ e, F p = .error e ∧ e.isEof = true

/-- A reader that reads as `ReadsAt` says on every input. -/
def Reads {α : Type} (Shape : Bytes → Prop) (F : Bytes → Read α) : Prop :=
  ∀ s, ReadsAt Shape F s

/-- A byte of a number or a literal: none that the nesting notices, and no line feed. -/
def isTokenByte (b : UInt8) : Bool := isPlain b && b != 0x0A

/-- At input `s`, a reader of numbers or literals succeeds only by reading a front part made of
token bytes, and it reads the same whatever follows that part as long as it starts alike. -/
def TokenAt {α : Type} (F : Bytes → Read α) (s : Bytes) : Prop :=
  ∀ x r, F s = .ok (x, r) → ∃ c, s = c ++ r ∧ (∀ b ∈ c, isTokenByte b = true) ∧
    ∀ r', Follows r r' → F (c ++ r') = .ok (x, r')

theorem reads_of_tokenAt {α : Type} {F : Bytes → Read α} (h : ∀ s, TokenAt F s) :
    Reads (fun c => ∀ b ∈ c, isTokenByte b = true) F := by
  intro s x r hs
  obtain ⟨c, hc, htok, hst⟩ := h s x r hs
  refine ⟨c, hc, htok, hst, fun p q hpq => ?_⟩
  have hlf := htok 0x0A (by simp [hpq])
  simp [isTokenByte] at hlf

theorem map_pair_eq_ok {α : Type} {e : Except ReadError α} {r r' : Bytes} {x : α} :
    e.map (·, r) = .ok (x, r') ↔ e = .ok x ∧ r = r' := by
  cases e <;> simp [Except.map, eq_comm]

theorem map_eq_ok {α β : Type} {e : Read α} {g : α → β} {y : β} {r : Bytes} :
    (e.map fun (x, r) => (g x, r)) = .ok (y, r) ↔ ∃ x, e = .ok (x, r) ∧ g x = y := by
  rcases e with e | ⟨x, r₀⟩
  · simp [Except.map]
  · simp only [Except.map, Except.ok.injEq, Prod.mk.injEq]
    constructor
    · rintro ⟨rfl, rfl⟩
      exact ⟨x, ⟨rfl, rfl⟩, rfl⟩
    · rintro ⟨x', ⟨rfl, rfl⟩, rfl⟩
      simp

theorem TokenAt.map {α β : Type} {F : Bytes → Read α} {s : Bytes} (h : TokenAt F s)
    (g : α → β) : TokenAt (fun s => (F s).map fun (x, r) => (g x, r)) s := by
  intro y r hs
  obtain ⟨x, hx, rfl⟩ := map_eq_ok.mp hs
  obtain ⟨c, hc, htok, hst⟩ := h x r hx
  exact ⟨c, hc, htok, fun r' hr' => map_eq_ok.mpr ⟨x, hst r' hr', rfl⟩⟩

theorem tokenAt_of_error {α : Type} {F : Bytes → Read α} {s : Bytes} {e : ReadError}
    (h : F s = .error e) : TokenAt F s := by
  intro x r hs
  rw [h] at hs
  cases hs

theorem tokenAt_stop {α : Type} (g : Except ReadError α) (s : Bytes) :
    TokenAt (fun s => g.map (·, s)) s := by
  intro x r hs
  obtain ⟨hg, rfl⟩ := map_pair_eq_ok.mp hs
  exact ⟨[], rfl, by simp, fun r' _ => map_pair_eq_ok.mpr ⟨hg, rfl⟩⟩

theorem Follows.head {P : UInt8 → Prop} {r r' : Bytes} (h : Follows r r')
    (hr : ∀ b ∈ r.head?, P b) : ∀ b ∈ r'.head?, P b := by
  rcases h with rfl | h
  · simp
  · rw [h]
    exact hr

theorem TokenAt.lead {α : Type} {F G : Bytes → Read α} (pre : Bytes) {rest : Bytes}
    {P : UInt8 → Prop} (hpre : ∀ b ∈ pre, isTokenByte b = true)
    (hFG : ∀ t, (∀ b ∈ t.head?, P b) → F (pre ++ t) = G t) (hrest : ∀ b ∈ rest.head?, P b)
    (h : TokenAt G rest) : TokenAt F (pre ++ rest) := by
  intro x r hs
  rw [hFG rest hrest] at hs
  obtain ⟨c, rfl, htok, hst⟩ := h x r hs
  refine ⟨pre ++ c, by rw [List.append_assoc], ?_, fun r' hr' => ?_⟩
  · intro b hb
    rcases List.mem_append.mp hb with hb | hb
    · exact hpre b hb
    · exact htok b hb
  · rw [List.append_assoc, hFG _ ((hr'.append c).head hrest), hst r' hr']

theorem TokenAt.cons {α : Type} {F G : Bytes → Read α} {b : UInt8} {rest : Bytes}
    (hb : isTokenByte b = true) (hFG : ∀ t, F (b :: t) = G t) (h : TokenAt G rest) :
    TokenAt F (b :: rest) :=
  TokenAt.lead [b] (P := fun _ => True) (by simpa using hb) (fun t _ => hFG t)
    (by simp) h

theorem TokenAt.congr {α : Type} {F G : Bytes → Read α} {s : Bytes} {P : UInt8 → Prop}
    (hFG : ∀ t, (∀ b ∈ t.head?, P b) → F t = G t) (hs : ∀ b ∈ s.head?, P b) (h : TokenAt G s) :
    TokenAt F s :=
  TokenAt.lead [] (by simp) hFG hs h

theorem isTokenByte_of_isDigit {b : UInt8} (h : isDigit b = true) : isTokenByte b = true := by
  simp only [isDigit, Bool.and_eq_true, decide_eq_true_eq] at h
  simp only [isTokenByte, isPlain, Bool.and_eq_true, Bool.not_eq_true', Bool.or_eq_false_iff,
    beq_eq_false_iff_ne, bne_iff_ne, ne_eq]
  refine ⟨⟨⟨⟨⟨⟨?_, ?_⟩, ?_⟩, ?_⟩, ?_⟩, ?_⟩, ?_⟩ <;> intro hb <;> subst hb <;> simp at h

theorem skipDigits_append {c r : Bytes} (hc : ∀ b ∈ c, isDigit b = true)
    (hr : ∀ b ∈ r.head?, isDigit b = false) : skipDigits (c ++ r) = r := by
  induction c with
  | nil =>
    cases r with
    | nil => rfl
    | cons b r => simp [skipDigits, hr b rfl]
  | cons b c ih =>
    simp only [List.cons_append, skipDigits, hc b (by simp), ↓reduceIte]
    exact ih fun b hb => hc b (by simp [hb])

theorem skipDigits_spec (s : Bytes) :
    ∃ c, s = c ++ skipDigits s ∧ (∀ b ∈ c, isDigit b = true) ∧
      ∀ b ∈ (skipDigits s).head?, isDigit b = false := by
  induction s with
  | nil => exact ⟨[], rfl, by simp, by simp [skipDigits]⟩
  | cons b s ih =>
    by_cases hb : isDigit b = true
    · obtain ⟨c, hc, hd, hr⟩ := ih
      refine ⟨b :: c, ?_, ?_, ?_⟩
      · simp only [skipDigits, hb, ↓reduceIte, List.cons_append]
        rw [← hc]
      · simpa [hb] using hd
      · simpa [skipDigits, hb] using hr
    · refine ⟨[], ?_, by simp, ?_⟩
      · simp [skipDigits, hb]
      · simp [skipDigits, hb]

theorem isTokenByte_of_isExponentMark {b : UInt8} (h : isExponentMark b = true) :
    isTokenByte b = true := by
  simp only [isExponentMark, Bool.or_eq_true, beq_iff_eq] at h
  rcases h with rfl | rfl <;> decide

theorem exponentOverflow_tokenAt (positive zero positiveExp : Bool) (s : Bytes) :
    TokenAt (exponentOverflow positive zero positiveExp) s := by
  by_cases hover : (!zero && positiveExp) = true
  · exact tokenAt_of_error (e := .numberOutOfRange) (by simp [exponentOverflow, hover])
  · obtain ⟨c, hc, hd, hr⟩ := skipDigits_spec s
    intro x r hs
    simp only [exponentOverflow, hover, Bool.false_eq_true, ↓reduceIte, Except.ok.injEq,
      Prod.mk.injEq] at hs
    obtain ⟨rfl, rfl⟩ := hs
    refine ⟨c, hc, fun b hb => isTokenByte_of_isDigit (hd b hb), fun r' hr' => ?_⟩
    simp only [exponentOverflow, hover, Bool.false_eq_true, ↓reduceIte]
    rw [skipDigits_append hd (hr'.head hr)]

theorem exponentDigits_of_head {positive : Bool} {significand : Nat} {start : Int}
    {positiveExp : Bool} {exp : Nat} {t : Bytes} (ht : ∀ b ∈ t.head?, isDigit b = false) :
    exponentDigits positive significand start positiveExp exp t =
      (fromParts positive significand
        (if positiveExp then clampI32 (start + exp) else clampI32 (start - exp))).map (·, t) := by
  cases t with
  | nil => rfl
  | cons b t => simp [exponentDigits, ht b rfl]

theorem exponentDigits_tokenAt (positive : Bool) (significand : Nat) (start : Int)
    (positiveExp : Bool) (s : Bytes) :
    ∀ exp, TokenAt (exponentDigits positive significand start positiveExp exp) s := by
  induction s with
  | nil =>
    intro exp
    exact TokenAt.congr (fun t ht => exponentDigits_of_head ht) (by simp) (tokenAt_stop _ _)
  | cons b rest ih =>
    intro exp
    by_cases hb : isDigit b = true
    · have htok := isTokenByte_of_isDigit hb
      by_cases hp : passes i32Max exp (digitValue b) = true
      · exact TokenAt.cons htok (fun t => by simp [exponentDigits, hb, hp])
          (exponentOverflow_tokenAt positive (significand == 0) positiveExp rest)
      · exact TokenAt.cons htok (fun t => by simp [exponentDigits, hb, hp])
          (ih (exp * 10 + digitValue b))
    · exact TokenAt.congr (fun t ht => exponentDigits_of_head ht) (by simpa using hb)
        (tokenAt_stop _ _)

theorem exponentPart_tokenAt (positive : Bool) (significand : Nat) (start : Int) (s : Bytes) :
    TokenAt (exponentPart positive significand start) s := by
  -- an optional sign, then a first digit; everything else is refused
  rcases s with _ | ⟨a, rest⟩
  · exact tokenAt_of_error (e := .eofWhileParsingValue) rfl
  by_cases hplus : a = 0x2B
  · subst hplus
    rcases rest with _ | ⟨b, rest⟩
    · exact tokenAt_of_error (e := .eofWhileParsingValue) rfl
    by_cases hb : isDigit b = true
    · exact TokenAt.lead [0x2B, b] (P := fun _ => True)
        (by simp [isTokenByte_of_isDigit hb]; decide) (fun t _ => by simp [exponentPart, hb])
        (by simp) (exponentDigits_tokenAt positive significand start true rest (digitValue b))
    · exact tokenAt_of_error (e := .invalidNumber) (by simp [exponentPart, hb])
  by_cases hminus : a = 0x2D
  · subst hminus
    rcases rest with _ | ⟨b, rest⟩
    · exact tokenAt_of_error (e := .eofWhileParsingValue) rfl
    by_cases hb : isDigit b = true
    · exact TokenAt.lead [0x2D, b] (P := fun _ => True)
        (by simp [isTokenByte_of_isDigit hb]; decide) (fun t _ => by simp [exponentPart, hb])
        (by simp) (exponentDigits_tokenAt positive significand start false rest (digitValue b))
    · exact tokenAt_of_error (e := .invalidNumber) (by simp [exponentPart, hb])
  by_cases ha : isDigit a = true
  · exact TokenAt.cons (isTokenByte_of_isDigit ha)
      (fun t => by simp [exponentPart, hplus, hminus, ha])
      (exponentDigits_tokenAt positive significand start true rest (digitValue a))
  · exact tokenAt_of_error (e := .invalidNumber) (by simp [exponentPart, hplus, hminus, ha])

theorem finishFloat_of_head {positive : Bool} {significand : Nat} {exponent : Int} {t : Bytes}
    (ht : ∀ b ∈ t.head?, isExponentMark b = false) :
    finishFloat positive significand exponent t =
      (fromParts positive significand exponent).map (·, t) := by
  cases t with
  | nil => rfl
  | cons b t => simp [finishFloat, ht b rfl]

theorem finishFloat_tokenAt (positive : Bool) (significand : Nat) (exponent : Int) (s : Bytes) :
    TokenAt (finishFloat positive significand exponent) s := by
  cases s with
  | nil => exact TokenAt.congr (fun t ht => finishFloat_of_head ht) (by simp) (tokenAt_stop _ _)
  | cons b rest =>
    by_cases hb : isExponentMark b = true
    · exact TokenAt.cons (isTokenByte_of_isExponentMark hb) (fun t => by simp [finishFloat, hb])
        (exponentPart_tokenAt positive significand exponent rest)
    · exact TokenAt.congr (fun t ht => finishFloat_of_head ht) (by simpa using hb)
        (tokenAt_stop _ _)

theorem fractionOverflow_tokenAt (positive : Bool) (significand : Nat) (exponent : Int)
    (s : Bytes) : TokenAt (fractionOverflow positive significand exponent) s := by
  obtain ⟨c, hc, hd, hr⟩ := skipDigits_spec s
  rw [hc]
  exact TokenAt.lead c (fun b hb => isTokenByte_of_isDigit (hd b hb))
    (fun t ht => by rw [fractionOverflow, skipDigits_append hd ht]) hr
    (finishFloat_tokenAt positive significand exponent (skipDigits s))

theorem fractionOverflow_cons {positive : Bool} {significand : Nat} {exponent : Int} {b : UInt8}
    (hb : isDigit b = true) (t : Bytes) :
    fractionOverflow positive significand exponent (b :: t) =
      fractionOverflow positive significand exponent t := by
  simp [fractionOverflow, skipDigits, hb]

theorem fractionDigits_tokenAt (positive : Bool) (before : Int) (s : Bytes) :
    ∀ significand after, TokenAt (fractionDigits positive significand before after) s := by
  -- past its digits, a fraction with at least one digit ends as `finishFloat` does
  have last : ∀ significand after (t : Bytes), after ≠ 0 → (∀ b ∈ t.head?, isDigit b = false) →
      fractionDigits positive significand before after t =
        finishFloat positive significand (before + after) t := by
    intro significand after t hafter ht
    cases t with
    | nil => simp [fractionDigits, hafter]
    | cons b t => simp [fractionDigits, ht b rfl, hafter]
  induction s with
  | nil =>
    intro significand after
    by_cases hafter : after = 0
    · exact tokenAt_of_error (e := .eofWhileParsingValue) (by simp [fractionDigits, hafter])
    · exact TokenAt.congr (last significand after · hafter) (by simp)
        (finishFloat_tokenAt positive significand (before + after) [])
  | cons b rest ih =>
    intro significand after
    by_cases hb : isDigit b = true
    · have htok := isTokenByte_of_isDigit hb
      by_cases hp : passes u64Max significand (digitValue b) = true
      · exact TokenAt.cons htok
          (fun t => by simp [fractionDigits, hb, hp, fractionOverflow_cons hb])
          (fractionOverflow_tokenAt positive significand (before + after) rest)
      · exact TokenAt.cons htok (fun t => by simp [fractionDigits, hb, hp])
          (ih (significand * 10 + digitValue b) (after - 1))
    · by_cases hafter : after = 0
      · exact tokenAt_of_error (e := .invalidNumber) (by simp [fractionDigits, hb, hafter])
      · exact TokenAt.congr (last significand after · hafter) (by simpa using hb)
          (finishFloat_tokenAt positive significand (before + after) (b :: rest))

theorem longInteger_of_head {positive : Bool} {significand : Nat} {exponent : Int} {t : Bytes}
    (ht : ∀ b ∈ t.head?, isDigit b = false ∧ b ≠ 0x2E ∧ isExponentMark b = false) :
    longInteger positive significand exponent t =
      (fromParts positive significand exponent).map (·, t) := by
  cases t with
  | nil => rfl
  | cons b t =>
    obtain ⟨h1, h2, h3⟩ := ht b rfl
    simp [longInteger, h1, h2, h3]

theorem longInteger_tokenAt (positive : Bool) (significand : Nat) (s : Bytes) :
    ∀ exponent, TokenAt (longInteger positive significand exponent) s := by
  induction s with
  | nil =>
    intro exponent
    exact TokenAt.congr (fun t ht => longInteger_of_head ht) (by simp) (tokenAt_stop _ _)
  | cons b rest ih =>
    intro exponent
    by_cases hb : isDigit b = true
    · exact TokenAt.cons (isTokenByte_of_isDigit hb) (fun t => by simp [longInteger, hb])
        (ih (exponent + 1))
    by_cases hdot : b = 0x2E
    · subst hdot
      exact TokenAt.cons (by decide) (fun t => by simp [longInteger, hb])
        (fractionDigits_tokenAt positive exponent rest significand 0)
    by_cases he : isExponentMark b = true
    · exact TokenAt.cons (isTokenByte_of_isExponentMark he)
        (fun t => by simp [longInteger, hb, hdot, he])
        (exponentPart_tokenAt positive significand exponent rest)
    · exact TokenAt.congr (fun t ht => longInteger_of_head ht) (by simp_all) (tokenAt_stop _ _)

theorem afterInteger_tokenAt (positive : Bool) (significand : Nat) (s : Bytes) :
    TokenAt (afterInteger positive significand) s := by
  -- a fraction or an exponent goes on as a double; anything else ends the integer
  have stop : ∀ t : Bytes, (∀ b ∈ t.head?, b ≠ 0x2E ∧ isExponentMark b = false) →
      afterInteger positive significand t =
        (Except.ok (integerValue positive significand) : Except ReadError Number).map (·, t) := by
    intro t ht
    cases t with
    | nil => rfl
    | cons b t =>
      obtain ⟨h1, h2⟩ := ht b rfl
      simp [afterInteger, h1, h2, Except.map]
  cases s with
  | nil => exact TokenAt.congr stop (by simp) (tokenAt_stop _ _)
  | cons b rest =>
    by_cases hdot : b = 0x2E
    · subst hdot
      exact TokenAt.cons (by decide) (fun t => by simp [afterInteger])
        ((fractionDigits_tokenAt positive 0 rest significand 0).map Number.float)
    by_cases he : isExponentMark b = true
    · exact TokenAt.cons (isTokenByte_of_isExponentMark he)
        (fun t => by simp [afterInteger, hdot, he])
        ((exponentPart_tokenAt positive significand 0 rest).map Number.float)
    · exact TokenAt.congr stop (by simp_all) (tokenAt_stop _ _)

theorem integerDigits_tokenAt (positive : Bool) (s : Bytes) :
    ∀ significand, TokenAt (integerDigits positive significand) s := by
  have last : ∀ significand (t : Bytes), (∀ b ∈ t.head?, isDigit b = false) →
      integerDigits positive significand t = afterInteger positive significand t := by
    intro significand t ht
    cases t with
    | nil => rfl
    | cons b t => simp [integerDigits, ht b rfl]
  induction s with
  | nil =>
    intro significand
    exact TokenAt.congr (last significand) (by simp) (afterInteger_tokenAt positive significand [])
  | cons b rest ih =>
    intro significand
    by_cases hb : isDigit b = true
    · have htok := isTokenByte_of_isDigit hb
      by_cases hp : passes u64Max significand (digitValue b) = true
      · -- too long for 64 bits: the digit is the first of `longInteger`'s
        exact TokenAt.cons htok (fun t => by simp [integerDigits, longInteger, hb, hp])
          ((longInteger_tokenAt positive significand rest 1).map Number.float)
      · exact TokenAt.cons htok (fun t => by simp [integerDigits, hb, hp])
          (ih (significand * 10 + digitValue b))
    · exact TokenAt.congr (last significand) (by simpa using hb)
        (afterInteger_tokenAt positive significand (b :: rest))

theorem number_tokenAt (positive : Bool) (s : Bytes) : TokenAt (number positive) s := by
  rcases s with _ | ⟨b, rest⟩
  · exact tokenAt_of_error (e := .eofWhileParsingValue) rfl
  by_cases hzero : b = 0x30
  · subst hzero
    -- a leading zero stands alone: a digit after it is refused
    by_cases hd : ∀ c ∈ rest.head?, isDigit c = false
    · have hz : ∀ t : Bytes, (∀ c ∈ t.head?, isDigit c = false) →
          number positive ([0x30] ++ t) = afterInteger positive 0 t := by
        intro t ht
        cases t with
        | nil => rfl
        | cons c t => simp [number, ht c rfl]
      exact TokenAt.lead [0x30] (List.all_eq_true.mp (by decide)) hz hd
        (afterInteger_tokenAt positive 0 rest)
    · rcases rest with _ | ⟨c, t⟩
      · simp at hd
      · have hc : isDigit c = true := by simpa using hd
        exact tokenAt_of_error (e := .invalidNumber) (by simp [number, hc])
  by_cases hb : isDigit b = true
  · exact TokenAt.cons (isTokenByte_of_isDigit hb) (fun t => by simp [number, hzero, hb])
      (integerDigits_tokenAt positive rest (digitValue b))
  · exact tokenAt_of_error (e := .invalidNumber) (by simp [number, hzero, hb])

theorem literal_eq_ok {cs s r : Bytes} : literal cs s = .ok r ↔ s = cs ++ r := by
  induction cs generalizing s with
  | nil => simp [literal, eq_comm]
  | cons c cs ih =>
    cases s with
    | nil => simp [literal]
    | cons b s =>
      by_cases h : b = c
      · subst h
        simp [literal, ih]
      · simp [literal, h]

theorem literal_tokenAt {cs : Bytes} (hcs : cs.all isTokenByte = true) (v : Value)
    (s : Bytes) : TokenAt (fun s => (literal cs s).map (v, ·)) s := by
  intro x r h
  cases hl : literal cs s with
  | error e => simp [hl, Except.map] at h
  | ok r₀ =>
    simp only [hl, Except.map, Except.ok.injEq, Prod.mk.injEq] at h
    obtain ⟨rfl, rfl⟩ := h
    exact ⟨cs, literal_eq_ok.mp hl, List.all_eq_true.mp hcs,
      fun r' _ => by simp [literal_eq_ok.mpr rfl, Except.map]⟩

theorem skipSpace_append {ws s : Bytes} (h : ∀ b ∈ ws, isSpace b = true) :
    skipSpace (ws ++ s) = skipSpace s := by
  induction ws with
  | nil => rfl
  | cons b ws ih =>
    simp only [List.cons_append, skipSpace, h b (by simp), ↓reduceIte]
    exact ih fun b hb => h b (by simp [hb])

theorem skipSpace_of_blank {p : Bytes} (h : ∀ b ∈ p, isSpace b = true) : skipSpace p = [] := by
  have h' := skipSpace_append (s := []) h
  rw [List.append_nil] at h'
  rw [h']
  rfl

theorem skipSpace_of_head {s : Bytes} (h : ∀ b ∈ s.head?, isSpace b = false) :
    skipSpace s = s := by
  cases s with
  | nil => rfl
  | cons b s => simp [skipSpace, h b rfl]

theorem skipSpace_spec (s : Bytes) :
    ∃ ws, s = ws ++ skipSpace s ∧ (∀ b ∈ ws, isSpace b = true) ∧
      ∀ b ∈ (skipSpace s).head?, isSpace b = false := by
  induction s with
  | nil => exact ⟨[], rfl, by simp, by simp [skipSpace]⟩
  | cons b s ih =>
    by_cases hb : isSpace b = true
    · obtain ⟨ws, hws, hsp, hr⟩ := ih
      refine ⟨b :: ws, ?_, ?_, ?_⟩
      · simp only [skipSpace, hb, ↓reduceIte, List.cons_append]
        rw [← hws]
      · simpa [hb] using hsp
      · simpa [skipSpace, hb] using hr
    · exact ⟨[], by simp [skipSpace, hb], by simp, by simp [skipSpace, hb]⟩

theorem isPlain_of_isSpace {b : UInt8} (h : isSpace b = true) : isPlain b = true := by
  simp only [isSpace, Bool.or_eq_true, beq_iff_eq] at h
  rcases h with ((rfl | rfl) | rfl) | rfl <;> decide

theorem hex4_spec {s : Bytes} {n : Nat} (h : hex4 s = .ok n) :
    ∃ a b c d t, s = [a, b, c, d] ++ t ∧ (∀ x ∈ [a, b, c, d], hexValue x ≠ none) ∧
      ∀ t', hex4 ([a, b, c, d] ++ t') = .ok n := by
  match s, h with
  | a :: b :: c :: d :: t, h =>
    refine ⟨a, b, c, d, t, rfl, ?_, fun t' => h⟩
    simp only [hex4] at h
    split at h
    · simp_all
    · cases h

theorem ne_of_hexValue {b : UInt8} (h : hexValue b ≠ none) : b ≠ 0x5C ∧ b ≠ 0x22 ∧ b ≠ 0x0A := by
  refine ⟨?_, ?_, ?_⟩ <;> rintro rfl <;> simp [hexValue, isDigit] at h

theorem unicodeEscape_spec {s bytes : Bytes} {k : Nat} (h : unicodeEscape s = .ok (bytes, k)) :
    k ≤ s.length ∧ StaysQuoted (s.take k) ∧ 0x0A ∉ s.take k ∧
      ∀ t, unicodeEscape (s.take k ++ t) = .ok (bytes, k) := by
  cases hn : hex4 s with
  | error e => simp [unicodeEscape, hn, bind, Except.bind] at h
  | ok n =>
    obtain ⟨a, b, c, d, t, rfl, hhex, hst⟩ := hex4_spec hn
    have hq : StaysQuoted [a, b, c, d] :=
      staysQuoted_of_forall fun x hx => ⟨(ne_of_hexValue (hhex x hx)).1, (ne_of_hexValue (hhex x hx)).2.1⟩
    have hlf : 0x0A ∉ [a, b, c, d] := fun hx => (ne_of_hexValue (hhex _ hx)).2.2 rfl
    simp only [unicodeEscape, hn, bind, Except.bind] at h
    split at h
    · cases h
    rename_i hlow
    split at h
    · -- a code point of its own: four hex digits
      rename_i hone
      simp only [Except.ok.injEq, Prod.mk.injEq] at h
      obtain ⟨rfl, rfl⟩ := h
      have htake : ([a, b, c, d] ++ t).take 4 = [a, b, c, d] := by simp
      rw [htake]
      refine ⟨by simp, hq, hlf, fun t' => ?_⟩
      simp only [unicodeEscape, hst t', bind, Except.bind, hlow, hone, ↓reduceIte]
    · -- a high surrogate: a backslash, a `u` and the four hex digits of a low one follow
      rename_i hpair
      have hdrop : ([a, b, c, d] ++ t).drop 4 = t := by simp
      rw [hdrop] at h
      rcases t with _ | ⟨x, _ | ⟨y, r2⟩⟩
      · cases h
      · simp only [bne_iff_ne, ne_eq] at h
        split at h <;> cases h
      have hx : x = 0x5C := Classical.byContradiction fun hx => by simp [hx] at h
      have hy : y = 0x75 := Classical.byContradiction fun hy => by simp [hx, hy] at h
      subst hx hy
      cases hl : hex4 r2 with
      | error e => simp [hl] at h
      | ok low =>
        obtain ⟨e, f, g, i, t2, rfl, hhex2, hst2⟩ := hex4_spec hl
        simp only [hl, bne_self_eq_false, Bool.false_eq_true, ↓reduceIte] at h
        split at h
        · cases h
        rename_i hlow2
        simp only [Except.ok.injEq, Prod.mk.injEq] at h
        obtain ⟨rfl, rfl⟩ := h
        have hq2 : StaysQuoted [e, f, g, i] :=
          staysQuoted_of_forall fun x hx =>
            ⟨(ne_of_hexValue (hhex2 x hx)).1, (ne_of_hexValue (hhex2 x hx)).2.1⟩
        have hlf2 : 0x0A ∉ [e, f, g, i] := fun hx => (ne_of_hexValue (hhex2 _ hx)).2.2 rfl
        have htake : ([a, b, c, d] ++ 0x5C :: 0x75 :: ([e, f, g, i] ++ t2)).take 10 =
            [a, b, c, d] ++ [0x5C, 0x75] ++ [e, f, g, i] := by simp
        rw [htake]
        refine ⟨by simp, (hq.append_stays (staysQuoted_escape 0x75)).append_stays hq2, ?_, fun t' => ?_⟩
        · simp only [List.mem_append, not_or]
          exact ⟨⟨hlf, by decide⟩, hlf2⟩
        · have hsplit : [a, b, c, d] ++ [0x5C, 0x75] ++ [e, f, g, i] ++ t' =
              [a, b, c, d] ++ (0x5C :: 0x75 :: ([e, f, g, i] ++ t')) := by simp
          have hdrop' : ([a, b, c, d] ++ 0x5C :: 0x75 :: ([e, f, g, i] ++ t')).drop 4 =
              0x5C :: 0x75 :: ([e, f, g, i] ++ t') := by simp
          rw [hsplit]
          simp only [unicodeEscape, hst, bind, Except.bind, hlow, hpair, ↓reduceIte, hdrop', hst2,
            bne_self_eq_false, Bool.false_eq_true, hlow2]

theorem escape_of_ne {c : UInt8} (hc : c ≠ 0x75) (r r' : Bytes) :
    escape (c :: r) = escape (c :: r') := by
  simp [escape, hc]

theorem escape_spec {s bytes : Bytes} {k : Nat} (h : escape s = .ok (bytes, k)) :
    k ≤ s.length ∧ StaysQuoted (0x5C :: s.take k) ∧ 0x0A ∉ s.take k ∧
      ∀ t, escape (s.take k ++ t) = .ok (bytes, k) := by
  rcases s with _ | ⟨c, r⟩
  · cases h
  by_cases hu : c = 0x75
  · -- `\u`: the escape is the `u` and what `unicodeEscape` reads
    subst hu
    obtain ⟨⟨bytes', k'⟩, hk, heq⟩ : ∃ p, unicodeEscape r = .ok p ∧ (p.1, p.2 + 1) = (bytes, k) := by
      simp only [escape] at h
      cases hr : unicodeEscape r with
      | error e => simp [hr, Except.map] at h
      | ok p => exact ⟨p, rfl, by simpa [hr, Except.map] using h⟩
    simp only [Prod.mk.injEq] at heq
    obtain ⟨rfl, rfl⟩ := heq
    obtain ⟨hlen, hq, hlf, hst⟩ := unicodeEscape_spec hk
    refine ⟨by simpa using hlen, ?_, by simpa using hlf, fun t => ?_⟩
    · simpa using (staysQuoted_escape 0x75).append_stays hq
    · simp [escape, hst t, Except.map]
  · -- every other escape is one byte, read without looking further
    have hk : k = 1 ∧ c ≠ 0x0A := by
      simp only [escape, beq_iff_eq, hu] at h
      repeat' split at h
      all_goals simp_all
    obtain ⟨rfl, hlf⟩ := hk
    refine ⟨by simp, by simpa using staysQuoted_escape c, by simpa [eq_comm] using hlf, fun t => ?_⟩
    rw [List.take_one, List.head?_cons, Option.toList_some, List.singleton_append,
      escape_of_ne hu t r, h]

theorem stringBytes_spec (acc s : Bytes) : ∀ bytes r, stringBytes acc s = .ok (bytes, r) →
    ∃ c, s = c ++ r ∧ ClosesString c ∧ 0x0A ∉ c ∧
      ∀ r', stringBytes acc (c ++ r') = .ok (bytes, r') := by
  fun_induction stringBytes acc s with
  | case1 acc => intro bytes r h; cases h
  | case2 acc b rest hb =>
    intro bytes r h
    simp only [Except.ok.injEq, Prod.mk.injEq] at h
    obtain ⟨rfl, rfl⟩ := h
    have hb' : b = 0x22 := by simpa using hb
    subst hb'
    refine ⟨[0x22], rfl, closesString_quote, by decide, fun r' => ?_⟩
    rw [List.singleton_append, stringBytes]
    simp
  | case3 acc b rest hq hbs bytes' k hesc _ ih =>
    intro bytes r h
    have hb' : b = 0x5C := by simpa using hbs
    subst hb'
    obtain ⟨hlen, hstay, hlf, hst⟩ := escape_spec hesc
    obtain ⟨c, hc, hclose, hlf', hst'⟩ := ih bytes r h
    refine ⟨0x5C :: rest.take k ++ c, ?_, ?_, ?_, fun r' => ?_⟩
    · calc 0x5C :: rest = 0x5C :: (rest.take k ++ rest.drop k) := by rw [List.take_append_drop]
        _ = 0x5C :: rest.take k ++ c ++ r := by rw [hc]; simp
    · exact hstay.append hclose
    · simp only [List.cons_append, List.mem_cons, List.mem_append, not_or]
      exact ⟨by decide, hlf, hlf'⟩
    · have hdrop : (rest.take k ++ (c ++ r')).drop k = c ++ r' := by
        rw [List.drop_append_of_le_length (by simp; omega)]
        simp
      simp only [List.cons_append, List.append_assoc]
      rw [stringBytes]
      simp [hst, hdrop, hst']
  | case4 acc b rest _ _ e _ => intro bytes r h; cases h
  | case5 acc b rest _ _ _ => intro bytes r h; cases h
  | case6 acc b rest hq hbs hctl ih =>
    intro bytes r h
    obtain ⟨c, hc, hclose, hlf, hst⟩ := ih bytes r h
    have hb1 : b ≠ 0x5C := by simpa using hbs
    have hb2 : b ≠ 0x22 := by simpa using hq
    refine ⟨b :: c, by rw [hc, List.cons_append], ?_, ?_, fun r' => ?_⟩
    · exact (staysQuoted_of_forall (c := [b]) (by simp [hb1, hb2])).append hclose
    · simp only [List.mem_cons, not_or]
      refine ⟨fun h => hctl (by rw [← h]; decide), hlf⟩
    · rw [List.cons_append, stringBytes]
      simp [hb1, hb2, hctl, hst]

theorem string_spec {s : Bytes} {text : String} {r : Bytes} (h : string s = .ok (text, r)) :
    ∃ c, s = c ++ r ∧ ClosesString c ∧ 0x0A ∉ c ∧ ∀ r', string (c ++ r') = .ok (text, r') := by
  unfold string at h
  cases hb : stringBytes [] s with
  | error e => simp [hb] at h
  | ok p =>
    obtain ⟨bytes, rest⟩ := p
    cases hd : Text.Utf8.decode? bytes with
    | none => simp [hb, hd] at h
    | some t =>
      simp only [hb, hd, Except.ok.injEq, Prod.mk.injEq] at h
      obtain ⟨rfl, rfl⟩ := h
      obtain ⟨c, hc, hclose, hlf, hst⟩ := stringBytes_spec [] s bytes rest hb
      exact ⟨c, hc, hclose, hlf, fun r' => by simp [string, hst r', hd]⟩

theorem string_reads : Reads (fun c => ClosesString c ∧ 0x0A ∉ c) string := by
  intro s x r h
  obtain ⟨c, hc, hclose, hlf, hst⟩ := string_spec h
  exact ⟨c, hc, ⟨hclose, hlf⟩, fun r' _ => hst r', fun p q hpq => absurd (by simp [hpq]) hlf⟩

theorem colon_of_blank {p : Bytes} (h : ∀ b ∈ p, isSpace b = true) :
    colon p = .error .eofWhileParsingObject := by
  simp [colon, skipSpace_of_blank h]

theorem colon_spec {s r : Bytes} (h : colon s = .ok r) :
    ∃ ws, s = ws ++ 0x3A :: r ∧ (∀ b ∈ ws, isSpace b = true) ∧
      ∀ r', colon (ws ++ 0x3A :: r') = .ok r' := by
  obtain ⟨ws, hs, hws, -⟩ := skipSpace_spec s
  unfold colon at h
  rcases hsk : skipSpace s with _ | ⟨b, rest⟩
  · simp [hsk] at h
  · have hb : b = 0x3A := Classical.byContradiction fun hb => by simp [hsk, hb] at h
    subst hb
    simp only [hsk, beq_self_eq_true, ↓reduceIte, Except.ok.injEq] at h
    subst h
    refine ⟨ws, by rw [hs, hsk], hws, fun r' => ?_⟩
    simp [colon, skipSpace_append hws, skipSpace, isSpace]

end Mooring.Json.Reader
