import Mooring.Proofs.ReaderValues
namespace Mooring.Json

/-- An array or an object. -/
def Value.isContainer : Value → Bool
  | .array _ | .object _ => true
  | _ => false

namespace Reader
open Mooring.Engine Mooring.Engine.Nesting

section Cases

variable {d : Nat}

theorem exists_of_map_eq_ok {α β : Type} {e : Except ReadError α} {g : α → β} {y : β}
    (h : e.map g = .ok y) : ∃ a, g a = y := by
  cases e with
  | error => cases h
  | ok a => exact ⟨a, by simpa [Except.map] using h⟩

theorem isContainer_of_map_eq_ok {α : Type} {e : Except ReadError α} {g : α → Value × Bytes}
    {x : Value} {r : Bytes} (h : e.map g = .ok (x, r)) (hg : ∀ a, (g a).1.isContainer = false) :
    x.isContainer = false := by
  obtain ⟨a, ha⟩ := exists_of_map_eq_ok h
  rw [← show (g a).1 = x by rw [ha]]
  exact hg a

/-- Only an opening bracket starts a container. -/
theorem isContainer_of_value {f : Nat} {b : UInt8} {t r : Bytes} {x : Value}
    (hb : isSpace b = false) (h1 : b ≠ 0x5B) (h2 : b ≠ 0x7B)
    (h : value (f + 1) d (b :: t) = .ok (x, r)) : x.isContainer = false := by
  by_cases hn : b = 0x6E
  · subst hn
    rw [value_null] at h
    exact isContainer_of_map_eq_ok h fun _ => rfl
  by_cases ht : b = 0x74
  · subst ht
    rw [value_true] at h
    exact isContainer_of_map_eq_ok h fun _ => rfl
  by_cases hf : b = 0x66
  · subst hf
    rw [value_false] at h
    exact isContainer_of_map_eq_ok h fun _ => rfl
  by_cases hminus : b = 0x2D
  · subst hminus
    rw [value_minus] at h
    exact isContainer_of_map_eq_ok h fun _ => rfl
  by_cases hd : isDigit b = true
  · rw [value_digit hd] at h
    exact isContainer_of_map_eq_ok h fun _ => rfl
  by_cases hq : b = 0x22
  · subst hq
    rw [value_quote] at h
    exact isContainer_of_map_eq_ok h fun _ => rfl
  simp [value_succ, skipSpace, hb, hn, ht, hf, hminus, hd, hq, h1, h2] at h

theorem value_succ_of_head {b : UInt8} (hb : isSpace b = false) (h1 : b ≠ 0x5B) (h2 : b ≠ 0x7B)
    (t : Bytes) (f : Nat) : value (f + 1) d (b :: t) = value 1 d (b :: t) := by
  simp [value_succ, skipSpace, hb, h1, h2]

theorem value_succ_of_shallow {b : UInt8} (hb : isSpace b = false) (hd : d ≤ 1)
    (t : Bytes) (f : Nat) : value (f + 1) d (b :: t) = value 1 d (b :: t) := by
  simp [value_succ, skipSpace, hb, hd]

/-- What the value reader does with fuel left, at every fuel: past its blanks, a bracket hands the
rest to the items or members one fuel lower, and anything else reads as with one fuel. -/
theorem value_succ_cases (d : Nat) (s : Bytes) :
    (∃ ws rest, Blank ws ∧ 1 < d ∧
      ((s = ws ++ 0x5B :: rest ∧ ∀ f, value (f + 1) d s =
          (items f (d - 1) true [] rest).map fun (xs, r) => (.array xs, r)) ∨
        (s = ws ++ 0x7B :: rest ∧ ∀ f, value (f + 1) d s =
          (members f (d - 1) true [] rest).map fun (ms, r) => (.object ms, r)))) ∨
      ∀ f, value (f + 1) d s = value 1 d s := by
  obtain ⟨ws, hs, hws, hhead⟩ := skipSpace_spec s
  rcases hu : skipSpace s with _ | ⟨b, rest⟩
  · refine .inr fun f => ?_
    rw [hs, hu, List.append_nil, value_of_blank hws, value_of_blank hws]
  have hb : isSpace b = false := hhead b (by simp [hu])
  rw [hu] at hs
  subst hs
  by_cases hd : 1 < d
  · by_cases h1 : b = 0x5B
    · subst h1
      exact .inl ⟨ws, rest, hws, hd, .inl ⟨rfl, fun f => by rw [value_blank hws, value_array hd]⟩⟩
    by_cases h2 : b = 0x7B
    · subst h2
      exact .inl ⟨ws, rest, hws, hd, .inr ⟨rfl, fun f => by rw [value_blank hws, value_object hd]⟩⟩
    refine .inr fun f => ?_
    rw [value_blank hws, value_blank hws, value_succ_of_head hb h1 h2]
  · refine .inr fun f => ?_
    rw [value_blank hws, value_blank hws, value_succ_of_shallow hb (by omega)]

end Cases

section Fuel

theorem andThen_congr {α β : Type} {F F' : Bytes → Read α} {H H' : α → Bytes → Read β}
    {s : Bytes} (hF : F s = F' s) (hH : ∀ x r, F s = .ok (x, r) → H x r = H' x r) :
    andThen F H s = andThen F' H' s := by
  simp only [andThen, ← hF]
  rcases hs : F s with e | ⟨x, r⟩
  · rfl
  · exact hH x r hs

theorem afterColon_congr {β : Type} {K K' : Bytes → Read β} {s : Bytes}
    (hK : ∀ r, colon s = .ok r → K r = K' r) : afterColon K s = afterColon K' s := by
  simp only [afterColon]
  rcases hs : colon s with e | r
  · rfl
  · exact hK r hs

theorem string_length_lt {s r : Bytes} {x : String} (h : string s = .ok (x, r)) :
    r.length < s.length := by
  obtain ⟨c, rfl, hc, -, -⟩ := string_spec h
  have hne : c ≠ [] := by
    rintro rfl
    have h0 := (hc 0).1
    simp [quoted, outside] at h0
  simpa using List.length_pos_iff.mpr hne

/-- More fuel than twice the length of the input changes nothing, for values; for items and
members, which take one fuel more than the value they start with, more than one past that. -/
theorem fuel_congr (f : Nat) : ∀ g, f ≤ g →
    (∀ d s, 2 * s.length < f → value f d s = value g d s) ∧
      (∀ d first acc s, 2 * s.length + 1 < f → items f d first acc s = items g d first acc s) ∧
      ∀ d first macc s, 2 * s.length + 1 < f →
        members f d first macc s = members g d first macc s := by
  induction f with
  | zero =>
    intro g _
    refine ⟨fun d s hs => ?_, fun d first acc s hs => ?_, fun d first macc s hs => ?_⟩ <;> omega
  | succ f ih =>
    intro g hg
    obtain ⟨g, rfl⟩ : ∃ g', g = g' + 1 := ⟨g - 1, by omega⟩
    obtain ⟨hv, hi, hm⟩ := ih g (by omega)
    refine ⟨fun d s hs => ?_, fun d first acc s hs => ?_, fun d first macc s hs => ?_⟩
    · rcases value_succ_cases d s with ⟨ws, rest, -, -, ⟨rfl, heq⟩ | ⟨rfl, heq⟩⟩ | heq
      · rw [heq f, heq g, hi _ _ _ _ (by simp only [List.length_append, List.length_cons] at hs; omega)]
      · rw [heq f, heq g, hm _ _ _ _ (by simp only [List.length_append, List.length_cons] at hs; omega)]
      · rw [heq f, heq g]
    · rcases items_cases d first acc s with ⟨ws, rest, rfl, hws⟩ | ⟨e, he⟩ |
        ⟨pre, t, rfl, ht, hh, -, -, hFH⟩
      · rw [items_blank hws, items_blank hws, items_close, items_close]
      · rw [he f, he g]
      · -- the value takes at least one byte, so the items after it have less to read
        rw [hFH f t ht hh, hFH g t ht hh]
        simp only [List.length_append] at hs
        refine andThen_congr (hv d t (by omega)) fun v r hr => hi _ _ _ r ?_
        have := value_length_lt hr
        omega
    · rcases members_cases d first macc s with ⟨ws, rest, rfl, hws⟩ | ⟨e, he⟩ |
        ⟨pre, t, rfl, -, -, hFH⟩
      · rw [members_blank hws, members_blank hws, members_close, members_close]
      · rw [he f, he g]
      · -- the key, the colon and the value each take at least one byte
        rw [hFH f t, hFH g t]
        simp only [List.length_append, List.length_cons] at hs
        refine andThen_congr rfl fun key r₁ hr₁ => afterColon_congr fun r₂ hr₂ => ?_
        have h₁ := string_length_lt hr₁
        obtain ⟨ws, rfl, -⟩ := colon_spec hr₂
        simp only [List.length_append, List.length_cons] at h₁
        refine andThen_congr (hv d r₂ (by omega)) fun v r₃ hr₃ => hm _ _ _ r₃ ?_
        have := value_length_lt hr₃
        omega

theorem value_fuel_eq {f g d : Nat} {s : Bytes} (hf : 2 * s.length < f) (hg : 2 * s.length < g) :
    value f d s = value g d s := by
  rcases Nat.le_total f g with h | h
  · exact (fuel_congr f g h).1 d s hf
  · exact ((fuel_congr g f h).1 d s hg).symm

theorem items_fuel_eq {f g d : Nat} {first : Bool} {acc : List Value} {s : Bytes}
    (hf : 2 * s.length + 1 < f) (hg : 2 * s.length + 1 < g) :
    items f d first acc s = items g d first acc s := by
  rcases Nat.le_total f g with h | h
  · exact (fuel_congr f g h).2.1 d first acc s hf
  · exact ((fuel_congr g f h).2.1 d first acc s hg).symm

theorem members_fuel_eq {f g d : Nat} {first : Bool} {macc : List (String × Value)} {s : Bytes}
    (hf : 2 * s.length + 1 < f) (hg : 2 * s.length + 1 < g) :
    members f d first macc s = members g d first macc s := by
  rcases Nat.le_total f g with h | h
  · exact (fuel_congr f g h).2.2 d first macc s hf
  · exact ((fuel_congr g f h).2.2 d first macc s hg).symm

end Fuel

section Whole

theorem blank_of_skipSpace_eq_nil {s : Bytes} (h : skipSpace s = []) : Blank s := by
  obtain ⟨ws, hs, hws, -⟩ := skipSpace_spec s
  rw [h, List.append_nil] at hs
  rw [hs]
  exact hws

theorem read_eq_ok {t : Bytes} {v : Value} :
    Value.read t = .ok v ↔ ∃ rest, value (2 * t.length + 1) 128 t = .ok (v, rest) ∧ Blank rest := by
  rcases hv : value (2 * t.length + 1) 128 t with e | ⟨x, rest⟩
  · simp [Value.read, hv]
  · rcases hs : skipSpace rest with _ | ⟨b, r⟩
    · simp only [Value.read, hv, hs, Except.ok.injEq, Prod.mk.injEq]
      exact ⟨fun h => ⟨rest, ⟨h, rfl⟩, blank_of_skipSpace_eq_nil hs⟩, fun ⟨_, ⟨h, _⟩, _⟩ => h⟩
    · have hne : ¬Blank rest := fun hb => by simp [skipSpace_of_blank hb] at hs
      simp [Value.read, hv, hs, hne]

theorem read_of_error {t : Bytes} {e : ReadError}
    (h : value (2 * t.length + 1) 128 t = .error e) : Value.read t = .error e := by
  simp [Value.read, h]

/-- With one fuel no container is read: none is left for its items or members. -/
theorem value_one_isContainer {d : Nat} {s r : Bytes} {x : Value}
    (h : value 1 d s = .ok (x, r)) : x.isContainer = false := by
  obtain ⟨ws, hs, hws, hhead⟩ := skipSpace_spec s
  rw [hs] at h
  rcases hu : skipSpace s with _ | ⟨b, rest⟩
  · rw [hu, List.append_nil, value_of_blank hws] at h
    cases h
  rw [hu, value_blank hws] at h
  have hb : isSpace b = false := hhead b (by simp [hu])
  by_cases h1 : b = 0x5B
  · subst h1
    by_cases hd : 1 < d
    · rw [value_array hd] at h
      simp [items_zero, Except.map] at h
    · simp [value_succ, skipSpace, isSpace, isDigit, Nat.not_lt.mp hd] at h
  by_cases h2 : b = 0x7B
  · subst h2
    by_cases hd : 1 < d
    · rw [value_object hd] at h
      simp [members_zero, Except.map] at h
    · simp [value_succ, skipSpace, isSpace, isDigit, Nat.not_lt.mp hd] at h
  exact isContainer_of_value hb h1 h2 h

/-- What reading a container whole needs of the reader of its items or members: it reads as
`Reads` says, the same at any fuel above twice its input's length and one, and it is what the
value reader hands the rest to after the bracket `b`. -/
structure BodyReader (b : UInt8) {α : Type} (B : Nat → Bytes → Read α) (g : α → Value) : Prop where
  bracket : b = 0x7B ∨ b = 0x5B
  reads : ∀ f, Reads BodyText (B f)
  fuel_eq : ∀ f f' s, 2 * s.length + 1 < f → 2 * s.length + 1 < f' → B f s = B f' s
  value_eq : ∀ f s, value (f + 1) 128 (b :: s) = (B f s).map fun (x, r) => (g x, r)

theorem arrayBody : BodyReader 0x5B (fun f => items f 127 true []) Value.array where
  bracket := .inr rfl
  reads f := items_reads f 127 true []
  fuel_eq _ _ _ hf hf' := items_fuel_eq hf hf'
  value_eq _ s := value_array (by decide) s

theorem objectBody : BodyReader 0x7B (fun f => members f 127 true []) Value.object where
  bracket := .inl rfl
  reads f := members_reads f 127 true []
  fuel_eq _ _ _ hf hf' := members_fuel_eq hf hf'
  value_eq _ s := value_object (by decide) s

/-- A container read from its bracket on: the body is a front part of the rest, closes the bracket,
reads alone as the same container, and cut before a line feed ends too early. -/
theorem BodyReader.read {α : Type} {b : UInt8} {B : Nat → Bytes → Read α} {g : α → Value}
    (hB : BodyReader b B g) {f : Nat} {rest₀ rest : Bytes} {v : Value}
    (hf : 2 * rest₀.length + 1 < f) (h : (B f rest₀).map (fun (x, r) => (g x, r)) = .ok (v, rest)) :
    ∃ body, rest₀ = body ++ rest ∧ Closes 0 body ∧ Value.read (b :: body) = .ok v ∧
      ∀ p q, b :: body = p ++ 0x0A :: q → ∃ e, Value.read p = .error e ∧ e.isEof = true := by
  obtain ⟨x, hx, rfl⟩ := map_eq_ok.mp h
  obtain ⟨body, rfl, hbody, hst, hcut⟩ := hB.reads f rest₀ x rest hx
  simp only [List.length_append] at hf
  refine ⟨body, rfl, hbody 0, read_eq_ok.mpr ⟨[], ?_, by simp [Blank]⟩, fun p q hpq => ?_⟩
  · -- the body alone, at the fuel of its own text, reads as it did with the rest after it
    have hread : B f body = .ok (x, []) := by simpa using hst [] (.inl rfl)
    rw [hB.value_eq, hB.fuel_eq _ f body (by simp; omega) (by omega), hread]
    rfl
  · cases p with
    | nil =>
      simp only [List.nil_append, List.cons.injEq] at hpq
      rcases hB.bracket with rfl | rfl <;> exact absurd hpq.1 (by decide)
    | cons a p =>
      simp only [List.cons_append, List.cons.injEq] at hpq
      obtain ⟨rfl, hpq⟩ := hpq
      obtain ⟨e, he, heof⟩ := hcut p q hpq
      have hp : p.length < body.length := by simp [hpq]
      refine ⟨e, read_of_error ?_, heof⟩
      rw [hB.value_eq, hB.fuel_eq _ f p (by simp; omega) (by omega), he]
      rfl

theorem read_container {t : Bytes} {v : Value} (h : Value.read t = .ok v)
    (hv : v.isContainer = true) :
    ∃ ws b body ws', t = ws ++ b :: body ++ ws' ∧ Blank ws ∧ Blank ws' ∧
      (b = 0x7B ∨ b = 0x5B) ∧ Closes 0 body ∧ Value.read (b :: body) = .ok v ∧
      ∀ p q, b :: body = p ++ 0x0A :: q → ∃ e, Value.read p = .error e ∧ e.isEof = true := by
  obtain ⟨rest, hval, hrest⟩ := read_eq_ok.mp h
  rcases value_succ_cases 128 t with ⟨ws, rest₀, hws, -, ⟨rfl, heq⟩ | ⟨rfl, heq⟩⟩ | heq
  · rw [heq] at hval
    obtain ⟨body, rfl, hclose, hread, hcut⟩ :=
      arrayBody.read (by simp only [List.length_append, List.length_cons]; omega) hval
    exact ⟨ws, _, body, rest, by simp, hws, hrest, arrayBody.bracket, hclose, hread, hcut⟩
  · rw [heq] at hval
    obtain ⟨body, rfl, hclose, hread, hcut⟩ :=
      objectBody.read (by simp only [List.length_append, List.length_cons]; omega) hval
    exact ⟨ws, _, body, rest, by simp, hws, hrest, objectBody.bracket, hclose, hread, hcut⟩
  · rw [heq] at hval
    rw [value_one_isContainer hval] at hv
    cases hv

end Whole

end Reader
end Mooring.Json
