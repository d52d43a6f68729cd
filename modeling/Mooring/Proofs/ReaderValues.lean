import Mooring.Proofs.ReaderTokens
namespace Mooring.Json.Reader

open Mooring.Engine Mooring.Engine.Nesting

/-- Reads with `F`, then with `H` from where `F` stopped. -/
def andThen {α β : Type} (F : Bytes → Read α) (H : α → Bytes → Read β) (s : Bytes) : Read β :=
  match F s with
  | .error e => .error e
  | .ok (x, r) => H x r

/-- Reads a member's colon, then goes on with `K`. -/
def afterColon {β : Type} (K : Bytes → Read β) (s : Bytes) : Read β :=
  match colon s with
  | .error e => .error e
  | .ok r => K r

/-- Blank bytes, as JSON has them. -/
def Blank (ws : Bytes) : Prop := ∀ b ∈ ws, isSpace b = true

section Combinators

variable {α β : Type}

theorem cut_append {x y p q : Bytes} {a : UInt8} (h : x ++ y = p ++ a :: q) :
    (∃ q', x = p ++ a :: q') ∨ ∃ p', p = x ++ p' ∧ y = p' ++ a :: q := by
  rcases List.append_eq_append_iff.mp h with ⟨p', rfl, hy⟩ | ⟨c', rfl, hq⟩
  · exact .inr ⟨p', rfl, hy⟩
  · cases c' with
    | nil => exact .inr ⟨[], by simp, by simpa using hq.symm⟩
    | cons b c' =>
      simp only [List.cons_append, List.cons.injEq] at hq
      obtain ⟨rfl, -⟩ := hq
      exact .inl ⟨c', rfl⟩

theorem ReadsAt.mono {S S' : Bytes → Prop} {F : Bytes → Read α} {s : Bytes} (h : ReadsAt S F s)
    (hS : ∀ c, S c → S' c) : ReadsAt S' F s := by
  intro x r hs
  obtain ⟨c, hc, hshape, hst, heof⟩ := h x r hs
  exact ⟨c, hc, hS c hshape, hst, heof⟩

theorem readsAt_of_ne_ok {S : Bytes → Prop} {F : Bytes → Read α} {s : Bytes}
    (h : ∀ x r, F s ≠ .ok (x, r)) : ReadsAt S F s :=
  fun x r hs => absurd hs (h x r)

theorem ReadsAt.map {S : Bytes → Prop} {F : Bytes → Read α} {s : Bytes} (h : ReadsAt S F s)
    (g : α → β) : ReadsAt S (fun s => (F s).map fun (x, r) => (g x, r)) s := by
  intro y r hs
  obtain ⟨x, hx, rfl⟩ := map_eq_ok.mp hs
  obtain ⟨c, hc, hshape, hst, heof⟩ := h x r hx
  refine ⟨c, hc, hshape, fun r' hr' => map_eq_ok.mpr ⟨x, hst r' hr', rfl⟩, fun p q hpq => ?_⟩
  obtain ⟨e, he, heof⟩ := heof p q hpq
  exact ⟨e, by simp [he, Except.map], heof⟩

theorem readsAt_nothing (x : α) (s : Bytes) :
    ReadsAt (fun c => c = []) (fun t => .ok (x, t)) s := by
  intro y r hs
  simp only [Except.ok.injEq, Prod.mk.injEq] at hs
  obtain ⟨rfl, rfl⟩ := hs
  exact ⟨[], rfl, rfl, fun r' _ => rfl, fun p q h => by simp at h⟩

/-- Reading in sequence: the text read is `F`'s followed by `H`'s. -/
theorem ReadsAt.andThen {S₁ S₂ : Bytes → Prop} {F : Bytes → Read α} {H : α → Bytes → Read β}
    {s : Bytes} (hF : ReadsAt S₁ F s) (hH : ∀ x r, ReadsAt S₂ (H x) r) :
    ReadsAt (fun c => ∃ c₁ c₂, c = c₁ ++ c₂ ∧ S₁ c₁ ∧ S₂ c₂) (andThen F H) s := by
  intro y r hs
  cases hFs : F s with
  | error e => simp [Reader.andThen, hFs] at hs
  | ok p =>
    obtain ⟨x, r₁⟩ := p
    simp only [Reader.andThen, hFs] at hs
    obtain ⟨c₁, hc₁, hS₁, hst₁, heof₁⟩ := hF x r₁ hFs
    obtain ⟨c₂, hc₂, hS₂, hst₂, heof₂⟩ := hH x r₁ y r hs
    refine ⟨c₁ ++ c₂, by rw [hc₁, hc₂, List.append_assoc], ⟨c₁, c₂, rfl, hS₁, hS₂⟩,
      fun r' hr' => ?_, fun p q hpq => ?_⟩
    · have hF' := hst₁ (c₂ ++ r') (by rw [hc₂]; exact hr'.append c₂)
      simp only [Reader.andThen, List.append_assoc, hF', hst₂ r' hr']
    · rcases cut_append hpq with ⟨q', hq'⟩ | ⟨p', rfl, hp'⟩
      · -- the cut falls inside what `F` read
        obtain ⟨e, he, heof⟩ := heof₁ p q' hq'
        exact ⟨e, by simp [Reader.andThen, he], heof⟩
      · -- past it: `F` reads the same, and the cut falls inside what `H` read
        have hF' := hst₁ p' (follows_of_eq_append (by rw [hc₂, hp', List.append_assoc]))
        obtain ⟨e, he, heof⟩ := heof₂ p' q hp'
        exact ⟨e, by simp [Reader.andThen, hF', he], heof⟩

/-- Reading a colon and going on: the text read is blanks, the colon, and `K`'s. -/
theorem ReadsAt.afterColon {S : Bytes → Prop} {K : Bytes → Read β} {s : Bytes}
    (hK : ∀ r, ReadsAt S K r) :
    ReadsAt (fun c => ∃ ws c₂, c = ws ++ 0x3A :: c₂ ∧ Blank ws ∧ S c₂) (afterColon K) s := by
  intro y r hs
  cases hc : colon s with
  | error e => simp [Reader.afterColon, hc] at hs
  | ok r₁ =>
    simp only [Reader.afterColon, hc] at hs
    obtain ⟨ws, rfl, hws, hst₁⟩ := colon_spec hc
    obtain ⟨c₂, rfl, hS, hst₂, heof₂⟩ := hK r₁ y r hs
    refine ⟨ws ++ 0x3A :: c₂, by simp, ⟨ws, c₂, rfl, hws, hS⟩, fun r' hr' => ?_,
      fun p q hpq => ?_⟩
    · simp only [Reader.afterColon, List.append_assoc, List.cons_append, hst₁, hst₂ r' hr']
    · rw [← List.singleton_append, ← List.append_assoc] at hpq
      rcases cut_append hpq with ⟨q', hq'⟩ | ⟨p', rfl, hp'⟩
      · rcases cut_append hq' with ⟨q'', hq''⟩ | ⟨p'', rfl, hp''⟩
        · -- inside the blanks before the colon
          have hp : Blank p := fun b hb => hws b (by simp [hq'', hb])
          exact ⟨.eofWhileParsingObject, by simp [Reader.afterColon, colon_of_blank hp], rfl⟩
        · cases p'' with
          | nil => simp at hp''
          | cons a p'' => simp at hp''
      · obtain ⟨e, he, heof⟩ := heof₂ p' q hp'
        refine ⟨e, ?_, heof⟩
        simp only [Reader.afterColon, List.append_assoc, List.singleton_append, hst₁, he]

theorem ReadsAt.lead {S : Bytes → Prop} {F H : Bytes → Read α} (pre : Bytes) {u : Bytes}
    (hFH : ∀ t, F (pre ++ t) = H t)
    (hcut : ∀ p q, pre = p ++ 0x0A :: q → ∃ e, F p = .error e ∧ e.isEof = true)
    (hH : ReadsAt S H u) : ReadsAt (fun c => ∃ c', c = pre ++ c' ∧ S c') F (pre ++ u) := by
  intro x r hs
  rw [hFH] at hs
  obtain ⟨c, rfl, hS, hst, heof⟩ := hH x r hs
  refine ⟨pre ++ c, by simp, ⟨c, rfl, hS⟩, fun r' hr' => ?_, fun p q hpq => ?_⟩
  · rw [List.append_assoc, hFH, hst r' hr']
  · rcases cut_append hpq with ⟨q', hq'⟩ | ⟨p', rfl, hp'⟩
    · exact hcut p q' hq'
    · rw [hFH]
      exact heof p' q hp'

/-- A reader that reads `pre` and goes on as `H`, on inputs after `pre` that are not empty and
start with a byte satisfying `P`, which is never a line feed. -/
theorem ReadsAt.lead_of_head {S : Bytes → Prop} {F H : Bytes → Read α} {P : UInt8 → Prop}
    (pre : Bytes) {u : Bytes} (hP : ∀ b, P b → b ≠ 0x0A)
    (hFH : ∀ t, t ≠ [] → (∀ b ∈ t.head?, P b) → F (pre ++ t) = H t)
    (hcut : ∀ p q, pre = p ++ 0x0A :: q → ∃ e, F p = .error e ∧ e.isEof = true)
    (hH₀ : ∀ x r, H [] ≠ .ok (x, r)) (hu : u ≠ []) (hhead : ∀ b ∈ u.head?, P b)
    (hH : ReadsAt S H u) : ReadsAt (fun c => ∃ c', c = pre ++ c' ∧ S c') F (pre ++ u) := by
  intro x r hs
  rw [hFH u hu hhead] at hs
  obtain ⟨c, rfl, hS, hst, heof⟩ := hH x r hs
  -- `H` reads at least one byte, so what follows it keeps the first byte of `u`
  have hc : c ≠ [] := by
    rintro rfl
    exact hH₀ x [] (hst [] (.inl rfl))
  obtain ⟨b, c, rfl⟩ := List.exists_cons_of_ne_nil hc
  have hb : P b := hhead b (by simp)
  refine ⟨pre ++ b :: c, by simp, ⟨b :: c, rfl, hS⟩, fun r' hr' => ?_, fun p q hpq => ?_⟩
  · rw [List.append_assoc, hFH _ (by simp) (by simpa using hb), hst r' hr']
  · rcases cut_append hpq with ⟨q', hq'⟩ | ⟨p', rfl, hp'⟩
    · exact hcut p q' hq'
    · cases p' with
      | nil =>
        simp only [List.nil_append, List.cons.injEq] at hp'
        exact absurd hp'.1 (hP b hb)
      | cons a p' =>
        simp only [List.cons_append, List.cons.injEq] at hp'
        obtain ⟨hab, hc'⟩ := hp'
        rw [hFH _ (by simp) (by simpa [← hab] using hb)]
        exact heof (a :: p') q (by rw [hab, hc', List.cons_append])

theorem cut_of_blank {F : Bytes → Read α} {ws : Bytes} (hws : Blank ws)
    (hF : ∀ p, Blank p → ∃ e, F p = .error e ∧ e.isEof = true) :
    ∀ p q, ws = p ++ 0x0A :: q → ∃ e, F p = .error e ∧ e.isEof = true :=
  fun p q h => hF p fun b hb => hws b (by simp [h, hb])

theorem cut_blank {F : Bytes → Read α} {ws rest : Bytes} (hws : Blank ws)
    (hF : ∀ p, Blank p → ∃ e, F p = .error e ∧ e.isEof = true)
    (hrest : ∀ p q, rest = p ++ 0x0A :: q → ∃ e, F (ws ++ p) = .error e ∧ e.isEof = true) :
    ∀ p q, ws ++ rest = p ++ 0x0A :: q → ∃ e, F p = .error e ∧ e.isEof = true := by
  intro p q h
  rcases cut_append h with ⟨q', hq'⟩ | ⟨p', rfl, hp'⟩
  · exact hF p fun b hb => hws b (by simp [hq', hb])
  · exact hrest p' q hp'

end Combinators

/-- What follows a member's opening quote: its key, a colon, its value, then the members after
it. -/
def memberRest (f d : Nat) (acc : List (String × Value)) : Bytes → Read (List (String × Value)) :=
  andThen string fun key =>
    afterColon (andThen (value f d) fun v => members f d false (Value.insertMember key v acc))

/-- The text of a value: inside any bracket, it leaves the nesting as it found it. -/
def ValueText (c : Bytes) : Prop := ∀ k, 0 < k → Balanced k c

/-- The items or members of a container after its opening bracket: they close it with their last
byte, at any depth. -/
def BodyText (c : Bytes) : Prop := ∀ k, Closes k c

section Equations

variable {f d : Nat}

theorem value_zero (d : Nat) (s : Bytes) : value 0 d s = .error .recursionLimitExceeded := rfl

theorem items_zero (d : Nat) (first : Bool) (acc : List Value) (s : Bytes) :
    items 0 d first acc s = .error .recursionLimitExceeded := rfl

theorem members_zero (d : Nat) (first : Bool) (acc : List (String × Value)) (s : Bytes) :
    members 0 d first acc s = .error .recursionLimitExceeded := rfl

theorem value_succ (f d : Nat) (s : Bytes) :
    value (f + 1) d s =
      match skipSpace s with
      | [] => .error .eofWhileParsingValue
      | b :: rest =>
        if b == 0x6E then (literal [0x75, 0x6C, 0x6C] rest).map (.null, ·)
        else if b == 0x74 then (literal [0x72, 0x75, 0x65] rest).map (.bool true, ·)
        else if b == 0x66 then (literal [0x61, 0x6C, 0x73, 0x65] rest).map (.bool false, ·)
        else if b == 0x2D then (number false rest).map fun (n, r) => (.number n, r)
        else if isDigit b then (number true (b :: rest)).map fun (n, r) => (.number n, r)
        else if b == 0x22 then (string rest).map fun (t, r) => (.string t, r)
        else if b == 0x5B then
          if d ≤ 1 then .error .recursionLimitExceeded
          else (items f (d - 1) true [] rest).map fun (xs, r) => (.array xs, r)
        else if b == 0x7B then
          if d ≤ 1 then .error .recursionLimitExceeded
          else (members f (d - 1) true [] rest).map fun (ms, r) => (.object ms, r)
        else .error .expectedSomeValue := rfl

theorem items_succ (f d : Nat) (first : Bool) (acc : List Value) (s : Bytes) :
    items (f + 1) d first acc s =
      match skipSpace s with
      | [] => .error .eofWhileParsingList
      | b :: rest =>
        if b == 0x5D then .ok (acc.reverse, rest)
        else
          let next : Except ReadError Bytes :=
            if b == 0x2C && !first then
              match skipSpace rest with
              | [] => .error .eofWhileParsingValue
              | c :: r => if c == 0x5D then .error .trailingComma else .ok (c :: r)
            else if first then .ok (b :: rest)
            else .error .expectedListCommaOrEnd
          match next with
          | .error e => .error e
          | .ok t =>
            match value f d t with
            | .error e => .error e
            | .ok (v, r) => items f d false (v :: acc) r := rfl

theorem members_succ (f d : Nat) (first : Bool) (acc : List (String × Value)) (s : Bytes) :
    members (f + 1) d first acc s =
      match skipSpace s with
      | [] => .error .eofWhileParsingObject
      | b :: rest =>
        if b == 0x7D then .ok (acc, rest)
        else
          let next : Except ReadError Bytes :=
            if b == 0x2C && !first then .ok (skipSpace rest)
            else if first then .ok (b :: rest)
            else .error .expectedObjectCommaOrEnd
          match next with
          | .error e => .error e
          | .ok [] => .error .eofWhileParsingValue
          | .ok (c :: r) =>
            if c == 0x22 then
              match string r with
              | .error e => .error e
              | .ok (key, r) =>
                match colon r with
                | .error e => .error e
                | .ok r =>
                  match value f d r with
                  | .error e => .error e
                  | .ok (v, r) => members f d false (Value.insertMember key v acc) r
            else if c == 0x7D then .error .trailingComma
            else .error .keyMustBeAString := rfl

theorem value_blank {ws : Bytes} (hws : Blank ws) (s : Bytes) :
    value (f + 1) d (ws ++ s) = value (f + 1) d s := by
  simp only [value_succ, skipSpace_append hws]
theorem value_nil_ne_ok {f d : Nat} (x : Value) (r : Bytes) : value f d [] ≠ .ok (x, r) := by
  cases f <;> simp [value_zero, value_succ, skipSpace]

theorem value_of_blank {p : Bytes} (hp : Blank p) :
    value (f + 1) d p = .error .eofWhileParsingValue := by
  simp [value_succ, skipSpace_of_blank hp]
theorem value_null (t : Bytes) :
    value (f + 1) d (0x6E :: t) = (literal [0x75, 0x6C, 0x6C] t).map (.null, ·) := by
  simp [value_succ, skipSpace, isSpace]
theorem value_true (t : Bytes) :
    value (f + 1) d (0x74 :: t) = (literal [0x72, 0x75, 0x65] t).map (.bool true, ·) := by
  simp [value_succ, skipSpace, isSpace]
theorem value_false (t : Bytes) :
    value (f + 1) d (0x66 :: t) = (literal [0x61, 0x6C, 0x73, 0x65] t).map (.bool false, ·) := by
  simp [value_succ, skipSpace, isSpace]
theorem value_minus (t : Bytes) :
    value (f + 1) d (0x2D :: t) = (number false t).map fun (n, r) => (.number n, r) := by
  simp [value_succ, skipSpace, isSpace]
theorem value_digit {b : UInt8} (hb : isDigit b = true) (t : Bytes) :
    value (f + 1) d (b :: t) = (number true (b :: t)).map fun (n, r) => (.number n, r) := by
  have h : b ≠ 0x6E ∧ b ≠ 0x74 ∧ b ≠ 0x66 ∧ b ≠ 0x2D ∧ isSpace b = false := by
    refine ⟨?_, ?_, ?_, ?_, ?_⟩
    all_goals first
      | (rintro rfl; simp [isDigit] at hb)
      | (simp only [isSpace, Bool.or_eq_false_iff, beq_eq_false_iff_ne]
         refine ⟨⟨⟨?_, ?_⟩, ?_⟩, ?_⟩ <;> rintro rfl <;> simp [isDigit] at hb)
  obtain ⟨h1, h2, h3, h4, h5⟩ := h
  simp [value_succ, skipSpace, h5, h1, h2, h3, h4, hb]
theorem value_quote (t : Bytes) :
    value (f + 1) d (0x22 :: t) = (string t).map fun (s, r) => (.string s, r) := by
  simp [value_succ, skipSpace, isSpace, isDigit]
theorem value_array (hd : 1 < d) (t : Bytes) :
    value (f + 1) d (0x5B :: t) = (items f (d - 1) true [] t).map fun (xs, r) => (.array xs, r) := by
  simp [value_succ, skipSpace, isSpace, isDigit, Nat.not_le.mpr hd]
theorem value_object (hd : 1 < d) (t : Bytes) :
    value (f + 1) d (0x7B :: t) =
      (members f (d - 1) true [] t).map fun (ms, r) => (.object ms, r) := by
  simp [value_succ, skipSpace, isSpace, isDigit, Nat.not_le.mpr hd]

variable {first : Bool} {acc : List Value}
theorem items_blank {ws : Bytes} (hws : Blank ws) (s : Bytes) :
    items (f + 1) d first acc (ws ++ s) = items (f + 1) d first acc s := by
  simp only [items_succ, skipSpace_append hws]
theorem items_of_blank {p : Bytes} (hp : Blank p) :
    items (f + 1) d first acc p = .error .eofWhileParsingList := by
  simp [items_succ, skipSpace_of_blank hp]
theorem items_close (t : Bytes) : items (f + 1) d first acc (0x5D :: t) = .ok (acc.reverse, t) := by
  simp [items_succ, skipSpace, isSpace]
theorem items_first {b : UInt8} (hb : isSpace b = false) (hc : b ≠ 0x5D) (t : Bytes) :
    items (f + 1) d true acc (b :: t) =
      andThen (value f d) (fun v => items f d false (v :: acc)) (b :: t) := by
  simp [items_succ, skipSpace, hb, hc, andThen]
  cases value f d (b :: t) <;> rfl
theorem items_comma {ws : Bytes} (hws : Blank ws) {b : UInt8} (hb : isSpace b = false)
    (hc : b ≠ 0x5D) (t : Bytes) :
    items (f + 1) d false acc (0x2C :: ws ++ b :: t) =
      andThen (value f d) (fun v => items f d false (v :: acc)) (b :: t) := by
  have hsk : skipSpace (ws ++ b :: t) = b :: t := by
    rw [skipSpace_append hws, skipSpace_of_head (by simpa using hb)]
  simp [items_succ, skipSpace, isSpace, hsk, hc, andThen]
  cases value f d (b :: t) <;> rfl
theorem items_comma_of_blank {ws : Bytes} (hws : Blank ws) :
    items (f + 1) d false acc (0x2C :: ws) = .error .eofWhileParsingValue := by
  simp [items_succ, skipSpace, isSpace, skipSpace_of_blank hws]

variable {macc : List (String × Value)}

theorem members_blank {ws : Bytes} (hws : Blank ws) (s : Bytes) :
    members (f + 1) d first macc (ws ++ s) = members (f + 1) d first macc s := by
  simp only [members_succ, skipSpace_append hws]
theorem members_of_blank {p : Bytes} (hp : Blank p) :
    members (f + 1) d first macc p = .error .eofWhileParsingObject := by
  simp [members_succ, skipSpace_of_blank hp]
theorem members_close (t : Bytes) :
    members (f + 1) d first macc (0x7D :: t) = .ok (macc, t) := by
  simp [members_succ, skipSpace, isSpace]
theorem members_first (t : Bytes) :
    members (f + 1) d true macc (0x22 :: t) = memberRest f d macc t := by
  simp [members_succ, skipSpace, isSpace, memberRest, andThen, afterColon]
  -- the two sides read alike, by matches of their own: take them down to the constructors
  rcases string t with _ | ⟨key, r⟩
  · rfl
  dsimp only
  rcases colon r with _ | r
  · rfl
  dsimp only
  rcases value f d r with _ | ⟨v, r⟩ <;> rfl

theorem members_comma {ws : Bytes} (hws : Blank ws) (t : Bytes) :
    members (f + 1) d false macc (0x2C :: ws ++ 0x22 :: t) = memberRest f d macc t := by
  have hsk : skipSpace (ws ++ 0x22 :: t) = 0x22 :: t := by
    rw [skipSpace_append hws, skipSpace_of_head (by simp; decide)]
  rw [← members_first]
  simp [members_succ, skipSpace, isSpace, hsk]

theorem members_comma_of_blank {ws : Bytes} (hws : Blank ws) :
    members (f + 1) d false macc (0x2C :: ws) = .error .eofWhileParsingValue := by
  simp [members_succ, skipSpace, isSpace, skipSpace_of_blank hws]
end Equations

theorem valueText_of_isPlain {c : Bytes} (h : ∀ b ∈ c, isPlain b = true) : ValueText c :=
  fun k _ => balanced_of_isPlain h k

theorem blank_isPlain {ws : Bytes} (h : Blank ws) : ∀ b ∈ ws, isPlain b = true :=
  fun b hb => isPlain_of_isSpace (h b hb)

theorem isPlain_of_isTokenByte {b : UInt8} (h : isTokenByte b = true) : isPlain b = true := by
  simp only [isTokenByte, Bool.and_eq_true] at h
  exact h.1

theorem cut_single {F : Bytes → Read α} {b : UInt8} (hb : isSpace b = false) :
    ∀ p q, [b] = p ++ 0x0A :: q → ∃ e, F p = .error e ∧ e.isEof = true := by
  intro p q h
  cases p with
  | nil =>
    simp only [List.nil_append, List.cons.injEq] at h
    rw [h.1] at hb
    exact absurd hb (by decide)
  | cons a p => simp at h

theorem comma_isPlain {ws ws₂ : Bytes} (hws : Blank ws) (hws₂ : Blank ws₂) :
    ∀ c ∈ ws ++ 0x2C :: ws₂, isPlain c = true := by
  intro a ha
  simp only [List.mem_append, List.mem_cons] at ha
  rcases ha with ha | rfl | ha
  · exact blank_isPlain hws a ha
  · decide
  · exact blank_isPlain hws₂ a ha

theorem cut_comma {F : Bytes → Read α} {ws ws₂ : Bytes} (hws : Blank ws) (hws₂ : Blank ws₂)
    (hF : ∀ p, Blank p → ∃ e, F p = .error e ∧ e.isEof = true)
    (hcomma : ∀ p, Blank p → ∃ e, F (ws ++ 0x2C :: p) = .error e ∧ e.isEof = true) :
    ∀ p q, ws ++ 0x2C :: ws₂ = p ++ 0x0A :: q → ∃ e, F p = .error e ∧ e.isEof = true := by
  refine cut_blank hws hF fun p q h => ?_
  cases p with
  | nil => simp at h
  | cons a p =>
    simp only [List.cons_append, List.cons.injEq] at h
    obtain ⟨rfl, h⟩ := h
    exact hcomma p fun b hb => hws₂ b (by simp [h, hb])

theorem readsAt_close {F : Bytes → Read α} {ws : Bytes} {b : UInt8} {x : α} (hws : Blank ws)
    (hb : b = 0x7D ∨ b = 0x5D) (hF : ∀ t, F (ws ++ b :: t) = .ok (x, t))
    (hblank : ∀ p, Blank p → ∃ e, F p = .error e ∧ e.isEof = true) (rest : Bytes) :
    ReadsAt BodyText F (ws ++ b :: rest) := by
  have hsp : isSpace b = false := by
    rcases hb with rfl | rfl <;> decide
  rw [show ws ++ b :: rest = ws ++ [b] ++ rest by simp]
  refine (ReadsAt.lead (ws ++ [b]) (fun t => ?_)
    (cut_blank hws hblank fun p q h => cut_single (F := fun p => F (ws ++ p)) hsp p q h)
    (readsAt_nothing x rest)).mono ?_
  · rw [List.append_assoc, List.singleton_append, hF]
  · rintro c ⟨c', rfl, rfl⟩ k
    rw [List.append_nil]
    exact Closes.append_left (balanced_of_isPlain (blank_isPlain hws) (k + 1)) (closes_closing hb k)

/-- What the items reader does with fuel left, alike at every fuel: past its blanks it closes the
array, or stops at an error, or reads the next item after `pre`, the blanks and comma before it.
No byte of `pre` is a bracket or a quote, and cut before a line feed in it the text ends too
early. -/
theorem items_cases (d : Nat) (first : Bool) (acc : List Value) (s : Bytes) :
    (∃ ws rest, s = ws ++ 0x5D :: rest ∧ Blank ws) ∨
      (∃ e, ∀ f, items (f + 1) d first acc s = .error e) ∨
      ∃ pre t, s = pre ++ t ∧ t ≠ [] ∧ (∀ c ∈ t.head?, isSpace c = false ∧ c ≠ 0x5D) ∧
        (∀ c ∈ pre, isPlain c = true) ∧
        (∀ f p q, pre = p ++ 0x0A :: q →
          ∃ e, items (f + 1) d first acc p = .error e ∧ e.isEof = true) ∧
        ∀ f t', t' ≠ [] → (∀ c ∈ t'.head?, isSpace c = false ∧ c ≠ 0x5D) →
          items (f + 1) d first acc (pre ++ t') =
            andThen (value f d) (fun v => items f d false (v :: acc)) t' := by
  obtain ⟨ws, hs, hws, hhead⟩ := skipSpace_spec s
  rcases hu : skipSpace s with _ | ⟨b, rest⟩
  · refine .inr (.inl ⟨.eofWhileParsingList, fun f => ?_⟩)
    rw [hs, hu, List.append_nil, items_of_blank hws]
  have hb : isSpace b = false := hhead b (by simp [hu])
  rw [hu] at hs
  subst hs
  by_cases hclose : b = 0x5D
  · subst hclose
    exact .inl ⟨ws, rest, rfl, hws⟩
  cases first
  · -- after an item: a comma and the next one, or the end
    by_cases hcomma : b = 0x2C
    · subst hcomma
      obtain ⟨ws₂, hrest, hws₂, hhead₂⟩ := skipSpace_spec rest
      rcases hu₂ : skipSpace rest with _ | ⟨c, t⟩
      · refine .inr (.inl ⟨.eofWhileParsingValue, fun f => ?_⟩)
        rw [hrest, hu₂, List.append_nil, items_blank hws, items_comma_of_blank hws₂]
      have hc : isSpace c = false := hhead₂ c (by simp [hu₂])
      rw [hu₂] at hrest
      subst hrest
      by_cases hc₂ : c = 0x5D
      · -- a trailing comma
        subst hc₂
        refine .inr (.inl ⟨.trailingComma, fun f => ?_⟩)
        rw [items_blank hws]
        simp [items_succ, skipSpace, isSpace, skipSpace_append hws₂]
      refine .inr (.inr ⟨ws ++ 0x2C :: ws₂, c :: t, by simp, by simp, by simp [hc, hc₂],
        comma_isPlain hws hws₂, fun f => cut_comma hws hws₂ (fun p hp => ⟨_, items_of_blank hp, rfl⟩)
          fun p hp => ⟨_, by rw [items_blank hws, items_comma_of_blank hp], rfl⟩,
        fun f t' ht' hh => ?_⟩)
      · obtain ⟨a, t', rfl⟩ := List.exists_cons_of_ne_nil ht'
        obtain ⟨ha, ha₂⟩ := hh a (by simp)
        rw [List.append_assoc, items_blank hws, items_comma hws₂ ha ha₂]
    · refine .inr (.inl ⟨.expectedListCommaOrEnd, fun f => ?_⟩)
      rw [items_blank hws]
      simp [items_succ, skipSpace, hb, hclose, hcomma]
  · -- the first item
    refine .inr (.inr ⟨ws, b :: rest, rfl, by simp, by simp [hb, hclose], blank_isPlain hws,
      fun f => cut_of_blank hws fun p hp => ⟨_, items_of_blank hp, rfl⟩, fun f t ht hh => ?_⟩)
    obtain ⟨a, t, rfl⟩ := List.exists_cons_of_ne_nil ht
    obtain ⟨ha, ha₂⟩ := hh a (by simp)
    rw [items_blank hws, items_first ha ha₂]

/-- What the members reader does with fuel left, alike at every fuel: past its blanks it closes
the object, or stops at an error, or reads a member after `pre`, the blanks and comma before its
opening quote. No byte of `pre` is a bracket or a quote, and cut before a line feed in it the text
ends too early. -/
theorem members_cases (d : Nat) (first : Bool) (macc : List (String × Value)) (s : Bytes) :
    (∃ ws rest, s = ws ++ 0x7D :: rest ∧ Blank ws) ∨
      (∃ e, ∀ f, members (f + 1) d first macc s = .error e) ∨
      ∃ pre t, s = pre ++ 0x22 :: t ∧ (∀ c ∈ pre, isPlain c = true) ∧
        (∀ f p q, pre = p ++ 0x0A :: q →
          ∃ e, members (f + 1) d first macc p = .error e ∧ e.isEof = true) ∧
        ∀ f t', members (f + 1) d first macc (pre ++ 0x22 :: t') = memberRest f d macc t' := by
  obtain ⟨ws, hs, hws, hhead⟩ := skipSpace_spec s
  rcases hu : skipSpace s with _ | ⟨b, rest⟩
  · refine .inr (.inl ⟨.eofWhileParsingObject, fun f => ?_⟩)
    rw [hs, hu, List.append_nil, members_of_blank hws]
  have hb : isSpace b = false := hhead b (by simp [hu])
  rw [hu] at hs
  subst hs
  by_cases hclose : b = 0x7D
  · subst hclose
    exact .inl ⟨ws, rest, rfl, hws⟩
  cases first
  · -- after a member: a comma and the next key, or the end
    by_cases hcomma : b = 0x2C
    · subst hcomma
      obtain ⟨ws₂, hrest, hws₂, hhead₂⟩ := skipSpace_spec rest
      rcases hu₂ : skipSpace rest with _ | ⟨c, t⟩
      · refine .inr (.inl ⟨.eofWhileParsingValue, fun f => ?_⟩)
        rw [hrest, hu₂, List.append_nil, members_blank hws, members_comma_of_blank hws₂]
      have hc : isSpace c = false := hhead₂ c (by simp [hu₂])
      rw [hu₂] at hrest
      subst hrest
      by_cases hq : c = 0x22
      · subst hq
        refine .inr (.inr ⟨ws ++ 0x2C :: ws₂, t, by simp, comma_isPlain hws hws₂,
          fun f => cut_comma hws hws₂ (fun p hp => ⟨_, members_of_blank hp, rfl⟩)
            fun p hp => ⟨_, by rw [members_blank hws, members_comma_of_blank hp], rfl⟩,
          fun f t' => ?_⟩)
        rw [List.append_assoc, members_blank hws, members_comma hws₂]
      have hsk : skipSpace (ws₂ ++ c :: t) = c :: t := by
        rw [skipSpace_append hws₂, skipSpace_of_head (by simpa using hc)]
      by_cases hc₂ : c = 0x7D
      · subst hc₂
        refine .inr (.inl ⟨.trailingComma, fun f => ?_⟩)
        rw [members_blank hws]
        simp [members_succ, skipSpace, isSpace, hsk]
      · refine .inr (.inl ⟨.keyMustBeAString, fun f => ?_⟩)
        rw [members_blank hws]
        simp [members_succ, skipSpace, isSpace, hsk, hq, hc₂]
    · refine .inr (.inl ⟨.expectedObjectCommaOrEnd, fun f => ?_⟩)
      rw [members_blank hws]
      simp [members_succ, skipSpace, hb, hclose, hcomma]
  · -- the first member
    by_cases hq : b = 0x22
    · subst hq
      exact .inr (.inr ⟨ws, rest, rfl, blank_isPlain hws,
        fun f => cut_of_blank hws fun p hp => ⟨_, members_of_blank hp, rfl⟩,
        fun f t => by rw [members_blank hws, members_first]⟩)
    · refine .inr (.inl ⟨.keyMustBeAString, fun f => ?_⟩)
      rw [members_blank hws]
      simp [members_succ, skipSpace, hb, hclose, hq]

section Steps

variable {f : Nat}

/-- A value at one more fuel reads as `Reads` says, if arrays and objects do at the fuel below. -/
theorem value_reads_succ (hi : ∀ d first acc, Reads BodyText (items f d first acc))
    (hm : ∀ d first macc, Reads BodyText (members f d first macc)) (d : Nat) :
    Reads ValueText (value (f + 1) d) := by
  intro s
  obtain ⟨ws, hs, hws, hhead⟩ := skipSpace_spec s
  rw [hs]
  rcases hu : skipSpace s with _ | ⟨b, rest⟩
  · exact readsAt_of_ne_ok fun x r => by rw [List.append_nil, value_of_blank hws]; simp
  have hb : isSpace b = false := hhead b (by simp [hu])
  have hcut : ∀ p q, ws ++ [b] = p ++ 0x0A :: q →
      ∃ e, value (f + 1) d p = .error e ∧ e.isEof = true :=
    cut_blank hws (fun p hp => ⟨_, value_of_blank hp, rfl⟩)
      (fun p q h => by simpa [value_blank hws] using cut_single hb p q h)
  -- a literal or a number after a sign: token bytes after the first
  have token : ∀ G : Bytes → Read Value, (∀ t, value (f + 1) d (b :: t) = G t) →
      (∀ t, TokenAt G t) → isTokenByte b = true →
      ReadsAt ValueText (value (f + 1) d) (ws ++ b :: rest) := by
    intro G hG htok hbt
    rw [show ws ++ b :: rest = ws ++ [b] ++ rest by simp]
    refine (ReadsAt.lead (ws ++ [b]) (fun t => ?_) hcut (reads_of_tokenAt htok rest)).mono ?_
    · rw [List.append_assoc, List.singleton_append, value_blank hws, hG]
    · rintro c ⟨c', rfl, hc'⟩
      refine valueText_of_isPlain fun a ha => ?_
      simp only [List.mem_append, List.mem_singleton] at ha
      rcases ha with (ha | rfl) | ha
      · exact blank_isPlain hws a ha
      · exact isPlain_of_isTokenByte hbt
      · exact isPlain_of_isTokenByte (hc' a ha)
  by_cases hn : b = 0x6E
  · subst hn
    exact token _ value_null (literal_tokenAt (by decide) .null) (by decide)
  by_cases ht : b = 0x74
  · subst ht
    exact token _ value_true (literal_tokenAt (by decide) (.bool true)) (by decide)
  by_cases hf : b = 0x66
  · subst hf
    exact token _ value_false (literal_tokenAt (by decide) (.bool false)) (by decide)
  by_cases hminus : b = 0x2D
  · subst hminus
    exact token _ value_minus (fun t => (number_tokenAt false t).map Value.number) (by decide)
  by_cases hd : isDigit b = true
  · -- a number without a sign: its first digit is part of what `number` reads
    refine (ReadsAt.lead_of_head (P := fun b => isDigit b = true) ws ?_ (fun t ht hh => ?_)
      (cut_of_blank hws fun p hp => ⟨_, value_of_blank hp, rfl⟩)
      ?_ (by simp) (by simpa using hd)
      (reads_of_tokenAt (fun t => (number_tokenAt true t).map Value.number) (b :: rest))).mono ?_
    · rintro b hb rfl
      exact absurd hb (by decide)
    · obtain ⟨a, t, rfl⟩ := List.exists_cons_of_ne_nil ht
      rw [value_blank hws, value_digit (by simpa using hh)]
    · intro x r h
      simp [number, Except.map] at h
    · rintro c ⟨c', rfl, hc'⟩
      refine valueText_of_isPlain fun a ha => ?_
      rcases List.mem_append.mp ha with ha | ha
      · exact blank_isPlain hws a ha
      · exact isPlain_of_isTokenByte (hc' a ha)
  by_cases hq : b = 0x22
  · subst hq
    rw [show ws ++ 0x22 :: rest = ws ++ [0x22] ++ rest by simp]
    refine (ReadsAt.lead (ws ++ [0x22]) (fun t => ?_) hcut
      ((string_reads rest).map Value.string)).mono ?_
    · rw [List.append_assoc, List.singleton_append, value_blank hws, value_quote]
    · rintro c ⟨c', rfl, hc', -⟩ k hk
      rw [List.append_assoc, List.singleton_append]
      exact (balanced_of_isPlain (blank_isPlain hws) k).append (balanced_string hk hc')
  by_cases hopen : b = 0x5B ∨ b = 0x7B
  · by_cases hdeep : d ≤ 1
    · refine readsAt_of_ne_ok fun x r => ?_
      rw [value_blank hws]
      rcases hopen with rfl | rfl <;> simp [value_succ, skipSpace, isSpace, isDigit, hdeep]
    have hd1 : 1 < d := by omega
    have body : ∀ G : Bytes → Read Value, (∀ t, value (f + 1) d (b :: t) = G t) →
        ReadsAt BodyText G rest → ReadsAt ValueText (value (f + 1) d) (ws ++ b :: rest) := by
      intro G hG hGr
      rw [show ws ++ b :: rest = ws ++ [b] ++ rest by simp]
      refine (ReadsAt.lead (ws ++ [b]) (fun t => ?_) hcut hGr).mono ?_
      · rw [List.append_assoc, List.singleton_append, value_blank hws, hG]
      · rintro c ⟨c', rfl, hc'⟩ k hk
        rw [List.append_assoc, List.singleton_append]
        have hb' : b = 0x7B ∨ b = 0x5B := hopen.symm
        exact (balanced_of_isPlain (blank_isPlain hws) k).append (balanced_container hb' (hc' k))
    rcases hopen with rfl | rfl
    · exact body _ (value_array hd1) ((hi (d - 1) true [] rest).map Value.array)
    · exact body _ (value_object hd1) ((hm (d - 1) true [] rest).map Value.object)
  · refine readsAt_of_ne_ok fun x r => ?_
    simp only [not_or] at hopen
    rw [value_blank hws]
    simp [value_succ, skipSpace, hb, hn, ht, hf, hminus, hd, hq, hopen.1, hopen.2]

/-- The items of an array at one more fuel read as `Reads` says, if values and items do at the
fuel below. -/
theorem items_reads_succ (hv : ∀ d, Reads ValueText (value f d))
    (hi : ∀ d first acc, Reads BodyText (items f d first acc)) (d : Nat) (first : Bool)
    (acc : List Value) : Reads BodyText (items (f + 1) d first acc) := by
  intro s
  rcases items_cases d first acc s with ⟨ws, rest, rfl, hws⟩ | ⟨e, he⟩ |
    ⟨pre, t, rfl, ht, hhead, hpre, hcut, hFH⟩
  · exact readsAt_close hws (.inr rfl) (fun t => by rw [items_blank hws, items_close])
      (fun p hp => ⟨_, items_of_blank hp, rfl⟩) rest
  · exact readsAt_of_ne_ok fun x r => by rw [he]; simp
  · -- after its separator, an item is a value and the items after it
    refine (ReadsAt.lead_of_head pre ?_ (hFH f) (hcut f) ?_ ht hhead
      (ReadsAt.andThen (hv d t) fun v r => hi d false (v :: acc) r)).mono ?_
    · rintro c ⟨hc, -⟩ rfl
      exact absurd hc (by decide)
    · intro x r h
      cases hv₀ : value f d [] with
      | error e => simp [andThen, hv₀] at h
      | ok p => exact value_nil_ne_ok p.1 p.2 hv₀
    · rintro c ⟨c', rfl, c₁, c₂, rfl, hc₁, hc₂⟩ k
      rw [← List.append_assoc]
      exact Closes.append_left ((balanced_of_isPlain hpre (k + 1)).append (hc₁ (k + 1) (by omega)))
        (hc₂ k)

/-- The members of an object at one more fuel read as `Reads` says, if values and members do at
the fuel below. -/
theorem members_reads_succ (hv : ∀ d, Reads ValueText (value f d))
    (hm : ∀ d first macc, Reads BodyText (members f d first macc)) (d : Nat) (first : Bool)
    (macc : List (String × Value)) : Reads BodyText (members (f + 1) d first macc) := by
  intro s
  rcases members_cases d first macc s with ⟨ws, rest, rfl, hws⟩ | ⟨e, he⟩ |
    ⟨pre, u, rfl, hpre, hcut, hFH⟩
  · exact readsAt_close hws (.inl rfl) (fun t => by rw [members_blank hws, members_close])
      (fun p hp => ⟨_, members_of_blank hp, rfl⟩) rest
  · exact readsAt_of_ne_ok fun x r => by rw [he]; simp
  · -- after its opening quote, a member is a key, a colon, a value and the members after it
    rw [show pre ++ 0x22 :: u = pre ++ [0x22] ++ u by simp]
    refine (ReadsAt.lead (pre ++ [0x22]) (fun t => ?_) (fun p q h => ?_)
      (ReadsAt.andThen (string_reads u) fun key r =>
        ReadsAt.afterColon fun r => ReadsAt.andThen (hv d r) fun v r =>
          hm d false (Value.insertMember key v macc) r)).mono ?_
    · rw [List.append_assoc, List.singleton_append, hFH]
      rfl
    · rcases cut_append h with ⟨q', hq'⟩ | ⟨p', rfl, hp'⟩
      · exact hcut f p q' hq'
      · cases p' <;> simp at hp'
    · rintro c ⟨c', rfl, c₁, c₂, rfl, ⟨hc₁, -⟩, ws', c₃, rfl, hws', c₄, c₅, rfl, hc₄, hc₅⟩ k
      have hcolon : ∀ a ∈ ws' ++ [0x3A], isPlain a = true := by
        intro a ha
        rcases List.mem_append.mp ha with ha | ha
        · exact blank_isPlain hws' a ha
        · rw [List.mem_singleton.mp ha]
          decide
      -- the key's string, the colon and the value each leave the depth inside the braces
      rw [show pre ++ [0x22] ++ (c₁ ++ (ws' ++ 0x3A :: (c₄ ++ c₅))) =
        pre ++ 0x22 :: c₁ ++ (ws' ++ [0x3A]) ++ c₄ ++ c₅ by simp]
      exact Closes.append_left (((balanced_of_isPlain hpre (k + 1)).append
        (balanced_string (Nat.succ_pos k) hc₁)).append (balanced_of_isPlain hcolon (k + 1)) |>.append
        (hc₄ (k + 1) (Nat.succ_pos k))) (hc₅ k)

end Steps

theorem reads_all (f : Nat) :
    (∀ d, Reads ValueText (value f d)) ∧ (∀ d first acc, Reads BodyText (items f d first acc)) ∧
      ∀ d first macc, Reads BodyText (members f d first macc) := by
  induction f with
  | zero =>
    refine ⟨fun d s => readsAt_of_ne_ok ?_, fun d first acc s => readsAt_of_ne_ok ?_,
      fun d first macc s => readsAt_of_ne_ok ?_⟩ <;> simp [value_zero, items_zero, members_zero]
  | succ f ih =>
    obtain ⟨hv, hi, hm⟩ := ih
    exact ⟨value_reads_succ hi hm, items_reads_succ hv hi, members_reads_succ hv hm⟩

theorem value_reads (f d : Nat) : Reads ValueText (value f d) := (reads_all f).1 d

theorem items_reads (f d : Nat) (first : Bool) (acc : List Value) :
    Reads BodyText (items f d first acc) :=
  (reads_all f).2.1 d first acc

theorem members_reads (f d : Nat) (first : Bool) (macc : List (String × Value)) :
    Reads BodyText (members f d first macc) :=
  (reads_all f).2.2 d first macc

theorem value_length_lt {f d : Nat} {s r : Bytes} {x : Value} (h : value f d s = .ok (x, r)) :
    r.length < s.length := by
  obtain ⟨c, rfl, -, hst, -⟩ := value_reads f d s x r h
  have hc : c ≠ [] := by
    rintro rfl
    exact value_nil_ne_ok x [] (hst [] (.inl rfl))
  simpa using List.length_pos_iff.mpr hc

end Mooring.Json.Reader
