import Mooring.Proofs.PortBindings
namespace Mooring.Ports

namespace PortTable

/-- What a reference to `name` is replaced by: the name's value, or else the reference itself. -/
def referenceText (t : PortTable) (name : List Char) : List Char :=
  match t.valueOf? (String.ofList name) with
  | some v => v.toList
  | none => '$' :: '{' :: name ++ ['}']

theorem brace_cases (r : List Char) :
    '}' ∉ r ∨ (∃ after, r = '}' :: after) ∨
      ∃ name after, name ≠ [] ∧ '}' ∉ name ∧ r = name ++ '}' :: after := by
  induction r with
  | nil => exact .inl List.not_mem_nil
  | cons c r ih =>
    by_cases hc : c = '}'
    · exact .inr (.inl ⟨r, hc ▸ rfl⟩)
    · rcases ih with hr | ⟨after, rfl⟩ | ⟨name, after, -, hname, rfl⟩
      · exact .inl (by simp [Ne.symm hc, hr])
      · exact .inr (.inr ⟨[c], after, List.cons_ne_nil _ _, by simpa using Ne.symm hc, rfl⟩)
      · exact .inr (.inr ⟨c :: name, after, List.cons_ne_nil _ _, by simp [Ne.symm hc, hname], rfl⟩)

variable (t : PortTable)

theorem substituteChars_cons {c : Char} (hc : c ≠ '$') (s : List Char) :
    t.substituteChars (c :: s) = c :: t.substituteChars s := by
  rw [substituteChars]
  intro _ h _
  exact hc h

theorem substituteChars_dollar {s : List Char} (hs : s.head? ≠ some '{') :
    t.substituteChars ('$' :: s) = '$' :: t.substituteChars s := by
  rw [substituteChars]
  rintro rest - rfl
  exact hs rfl

theorem substituteChars_append_of_dollar_not_mem {p : List Char} (hp : '$' ∉ p) (s : List Char) :
    t.substituteChars (p ++ s) = p ++ t.substituteChars s := by
  induction p with
  | nil => rfl
  | cons c p ih =>
    rw [List.mem_cons, not_or] at hp
    rw [List.cons_append, substituteChars_cons t (Ne.symm hp.1), ih hp.2, List.cons_append]

theorem takeWhile_name {name : List Char} (hname : '}' ∉ name) (s : List Char) :
    (name ++ '}' :: s).takeWhile (· ≠ '}') = name := by
  have hinside : ∀ c ∈ name, decide (c ≠ '}') = true := by
    intro c hc
    simp only [ne_eq, decide_eq_true_eq]
    exact fun h => hname (h ▸ hc)
  rw [List.takeWhile_append_of_pos hinside]
  simp

theorem substituteChars_unclosed {s : List Char} (hs : '}' ∉ s) :
    t.substituteChars ('$' :: '{' :: s) = '$' :: '{' :: t.substituteChars s := by
  rw [substituteChars]
  split
  · rename_i after h
    exact absurd (List.mem_of_mem_drop (h ▸ List.mem_cons_self)) hs
  · rw [substituteChars_cons t (by decide)]

theorem substituteChars_empty_name (s : List Char) :
    t.substituteChars ('$' :: '{' :: '}' :: s) = '$' :: '{' :: '}' :: t.substituteChars s := by
  have htake : ('}' :: s).takeWhile (· ≠ '}') = [] := by simp
  rw [substituteChars]
  split
  · rename_i after h
    rw [htake]
    show '$' :: t.substituteChars ('{' :: '}' :: s) = _
    rw [substituteChars_cons t (by decide), substituteChars_cons t (by decide)]
  · rename_i h
    rw [htake] at h
    exact absurd rfl (h s)

theorem substituteChars_reference_append {name : List Char} (hne : name ≠ [])
    (hname : '}' ∉ name) (s : List Char) :
    t.substituteChars ('$' :: '{' :: (name ++ '}' :: s)) =
      t.referenceText name ++ t.substituteChars s := by
  have hdrop : (name ++ '}' :: s).drop name.length = '}' :: s := by simp
  rw [substituteChars]
  split
  · rename_i after h
    rw [takeWhile_name hname, hdrop] at h
    obtain rfl := (List.cons.inj h).2
    rw [takeWhile_name hname, if_neg (by simpa using hne)]
    rfl
  · rename_i h
    rw [takeWhile_name hname, hdrop] at h
    exact absurd rfl (h s)

theorem substituteChars_of_brace_not_mem {s : List Char} (hs : '}' ∉ s) :
    t.substituteChars s = s := by
  induction s with
  | nil => exact substituteChars_nil t
  | cons c r ih =>
    rw [List.mem_cons, not_or] at hs
    by_cases hc : c = '$'
    · subst hc
      cases r with
      | nil => rw [substituteChars_dollar t (by simp), substituteChars_nil]
      | cons d r' =>
        by_cases hd : d = '{'
        · subst hd
          rw [substituteChars_unclosed t (fun hm => hs.2 (List.mem_cons_of_mem _ hm))]
          rw [substituteChars_cons t (by decide)] at ih
          rw [(List.cons.inj (ih hs.2)).2]
        · rw [substituteChars_dollar t (by simpa using hd), ih hs.2]
    · rw [substituteChars_cons t hc, ih hs.2]

theorem head?_substituteChars_open (hval : ∀ name v, t.valueOf? name = some v →
      v ≠ "" ∧ '{' ∉ v.toList) (r : List Char) :
    (t.substituteChars ('$' :: '{' :: r)).head? ≠ some '{' := by
  rcases brace_cases r with hr | ⟨after, rfl⟩ | ⟨name, after, hne, hname, rfl⟩
  · rw [substituteChars_unclosed t hr]
    simp
  · rw [substituteChars_empty_name]
    simp
  · rw [substituteChars_reference_append t hne hname, referenceText]
    split
    · rename_i v hv
      obtain ⟨hv_ne, hv_brace⟩ := hval _ v hv
      obtain ⟨c, cs, hcs⟩ := List.exists_cons_of_ne_nil (by simpa using hv_ne : v.toList ≠ [])
      rw [hcs] at hv_brace ⊢
      simp only [List.mem_cons, not_or] at hv_brace
      simpa using Ne.symm hv_brace.1
    · simp

theorem head?_substituteChars (hval : ∀ name v, t.valueOf? name = some v →
      v ≠ "" ∧ '{' ∉ v.toList) {s : List Char} (hs : s.head? ≠ some '{') :
    (t.substituteChars s).head? ≠ some '{' := by
  match s, hs with
  | [], _ => simp [substituteChars_nil]
  | c :: r, hs =>
    by_cases hc : c = '$'
    · subst hc
      by_cases hopen : r.head? = some '{'
      · obtain ⟨r', rfl⟩ := List.head?_eq_some_iff.mp hopen
        exact head?_substituteChars_open t hval r'
      · rw [substituteChars_dollar t hopen]
        simp
    · rw [substituteChars_cons t hc]
      exact hs

section Staged

variable {t₁ t₂ : PortTable}
  (hext : ∀ name v, t₁.valueOf? name = some v → t₂.valueOf? name = some v)
  (hval : ∀ name v, t₁.valueOf? name = some v → v ≠ "" ∧ '$' ∉ v.toList ∧ '{' ∉ v.toList)
include hext hval

theorem substituteChars_referenceText_append {name : List Char} (hne : name ≠ [])
    (hname : '}' ∉ name) (s : List Char) :
    t₂.substituteChars (t₁.referenceText name ++ s) =
      t₂.referenceText name ++ t₂.substituteChars s := by
  cases hv : t₁.valueOf? (String.ofList name) with
  | some v =>
    have hv₂ : t₂.referenceText name = v.toList := by rw [referenceText, hext _ v hv]
    rw [referenceText, hv, hv₂]
    exact substituteChars_append_of_dollar_not_mem t₂ (hval _ v hv).2.1 s
  | none =>
    rw [referenceText, hv, List.cons_append, List.cons_append, List.append_assoc,
      List.singleton_append]
    exact substituteChars_reference_append t₂ hne hname s

theorem substituteChars_substituteChars (s : List Char) :
    t₂.substituteChars (t₁.substituteChars s) = t₂.substituteChars s := by
  -- Strong induction on the length: a reference is replaced and the rest read on, so each case
  -- goes on with a strictly shorter tail.
  induction hn : s.length using Nat.strongRecOn generalizing s with
  | ind n ih =>
    have ih' : ∀ r : List Char, r.length < n →
        t₂.substituteChars (t₁.substituteChars r) = t₂.substituteChars r :=
      fun r hr => ih r.length hr r rfl
    match s, hn with
    | [], _ => rw [substituteChars_nil, substituteChars_nil]
    | c :: r, hn =>
      have hr : r.length < n := by simp at hn; omega
      by_cases hc : c = '$'
      · subst hc
        by_cases hopen : r.head? = some '{'
        · obtain ⟨r', rfl⟩ := List.head?_eq_some_iff.mp hopen
          rcases brace_cases r' with hr' | ⟨after, rfl⟩ | ⟨name, after, hne, hname, rfl⟩
          · rw [substituteChars_of_brace_not_mem t₁ (by simp [hr'])]
          · have hafter : after.length < n := by simp at hr; omega
            rw [substituteChars_empty_name, substituteChars_empty_name, substituteChars_empty_name,
              ih' after hafter]
          · have hafter : after.length < n := by simp at hr; omega
            rw [substituteChars_reference_append t₁ hne hname,
              substituteChars_referenceText_append hext hval hne hname,
              substituteChars_reference_append t₂ hne hname, ih' after hafter]
        · have hhead := head?_substituteChars t₁ (fun name v hv => ⟨(hval name v hv).1,
            (hval name v hv).2.2⟩) hopen
          rw [substituteChars_dollar t₁ hopen, substituteChars_dollar t₂ hhead,
            substituteChars_dollar t₂ hopen, ih' r hr]
      · rw [substituteChars_cons t₁ hc, substituteChars_cons t₂ hc, substituteChars_cons t₂ hc,
          ih' r hr]

end Staged

end PortTable

open PortTable

/-- Substituting under a table and then under one that keeps its values, none of them empty or
holding `$` or `{`, is substituting under the later table alone; a reference to a name the first
table does not bind comes through it verbatim and is replaced by the later table's value. -/
theorem substitute_staged {t₁ t₂ : PortTable}
    (hext : ∀ name v, t₁.valueOf? name = some v → t₂.valueOf? name = some v)
    (hval : ∀ name v, t₁.valueOf? name = some v → v ≠ "" ∧ '$' ∉ v.toList ∧ '{' ∉ v.toList) :
    (∀ text, t₂.substitute (t₁.substitute text) = t₂.substitute text) ∧
      ∀ name, name ≠ "" → '}' ∉ name.toList → t₁.valueOf? name = none →
        t₁.substitute (reference name) = reference name ∧
          t₂.substitute (t₁.substitute (reference name)) =
            (t₂.valueOf? name).getD (reference name) := by
  have hstaged : ∀ text, t₂.substitute (t₁.substitute text) = t₂.substitute text := by
    intro text
    rw [substitute, substitute, String.toList_ofList, substituteChars_substituteChars hext hval,
      substitute]
  refine ⟨hstaged, fun name hne hname hnone => ?_⟩
  have hkept : t₁.substitute (reference name) = reference name := by
    rw [substitute_reference t₁ name hne hname, hnone, Option.getD_none]
  exact ⟨hkept, by rw [hstaged, substitute_reference t₂ name hne hname]⟩

/-- A port bound between the stages: `web.port` is replaced by the first table, `db.port` by the
second. -/
theorem substitute_staged_db_port :
    let t₁ : PortTable := ⟨[("web.port", 8080)], []⟩
    let t₂ : PortTable := ⟨[("db.port", 5432), ("web.port", 8080)], []⟩
    ((∀ name v, t₁.valueOf? name = some v → t₂.valueOf? name = some v) ∧
      (∀ name v, t₁.valueOf? name = some v → v ≠ "" ∧ '$' ∉ v.toList ∧ '{' ∉ v.toList)) ∧
      (∀ text, t₂.substitute (t₁.substitute text) = t₂.substitute text) ∧
      ∀ name, name ≠ "" → '}' ∉ name.toList → t₁.valueOf? name = none →
        t₁.substitute (reference name) = reference name ∧
          t₂.substitute (t₁.substitute (reference name)) =
            (t₂.valueOf? name).getD (reference name) := by
  intro t₁ t₂
  have hvalue : ∀ name v, t₁.valueOf? name = some v → name = "web.port" ∧ v = "8080" := by
    intro name v hv
    by_cases hname : name = "web.port"
    · subst hname
      exact ⟨rfl, (Option.some.inj hv).symm⟩
    · simp [t₁, valueOf?, get?, getHost?, hname] at hv
  have hext : ∀ name v, t₁.valueOf? name = some v → t₂.valueOf? name = some v := by
    intro name v hv
    obtain ⟨rfl, rfl⟩ := hvalue name v hv
    rfl
  have hval : ∀ name v, t₁.valueOf? name = some v →
      v ≠ "" ∧ '$' ∉ v.toList ∧ '{' ∉ v.toList := by
    intro name v hv
    obtain ⟨-, rfl⟩ := hvalue name v hv
    decide
  exact ⟨⟨hext, hval⟩, substitute_staged hext hval⟩

/-- An empty value joins the text around it into a reference: with `a` bound to the empty text,
`$${a}{b}` becomes `${b}`, which a later table binding `b` replaces, while that table alone keeps
the text as it was. -/
theorem substitute_staged_empty_value :
    let t₁ : PortTable := ⟨[], [("a", "")]⟩
    let t₂ : PortTable := ⟨[("b", 80)], [("a", "")]⟩
    t₁.substitute "$${a}{b}" = "${b}" ∧ t₂.substitute (t₁.substitute "$${a}{b}") = "80" ∧
      t₂.substitute "$${a}{b}" = "${b}" := by
  decide +kernel

end Mooring.Ports
