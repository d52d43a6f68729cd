import Mooring.Text.Pieces
import Mooring.Text.Blank
namespace Mooring.Text

@[simp] theorem stripPrefix?_append (p s : List Char) : stripPrefix? p (p ++ s) = some s := by
  induction p with
  | nil => rfl
  | cons c p ih => simp [stripPrefix?, ih]

theorem stripPrefix?_eq_some {p s r : List Char} : stripPrefix? p s = some r ↔ s = p ++ r := by
  refine ⟨fun h => ?_, fun h => h ▸ stripPrefix?_append p r⟩
  induction p generalizing s with
  | nil => simpa [stripPrefix?, eq_comm] using h
  | cons c p ih =>
    cases s with
    | nil => simp [stripPrefix?] at h
    | cons d s =>
      simp only [stripPrefix?] at h
      split at h
      · subst c
        simp [ih h]
      · simp at h

theorem stripPrefix?_eq_none {p s : List Char} : stripPrefix? p s = none ↔ ¬ p <+: s := by
  constructor
  · rintro h ⟨r, rfl⟩
    simp at h
  · intro h
    cases hs : stripPrefix? p s with
    | none => rfl
    | some r => exact absurd ⟨r, (stripPrefix?_eq_some.mp hs).symm⟩ h

theorem splitOnce_eq_some {pat s a b : List Char} (h : splitOnce pat s = some (a, b)) :
    s = a ++ pat ++ b := by
  induction s generalizing a with
  | nil =>
    simp only [splitOnce] at h
    split at h <;> simp_all
  | cons c rest ih =>
    simp only [splitOnce] at h
    split at h
    · rename_i after hafter
      simp only [Option.some.injEq, Prod.mk.injEq] at h
      obtain ⟨rfl, rfl⟩ := h
      simpa using stripPrefix?_eq_some.mp hafter
    · obtain ⟨⟨a', b'⟩, hsplit, he⟩ := Option.map_eq_some_iff.mp h
      simp only [Prod.mk.injEq] at he
      obtain ⟨rfl, rfl⟩ := he
      simp [ih hsplit]

theorem splitOnce_isSome_of_infix {pat s : List Char} (h : pat <:+: s) :
    (splitOnce pat s).isSome := by
  obtain ⟨a, b, rfl⟩ := h
  induction a with
  | nil =>
    have hstrip := stripPrefix?_append pat b
    rw [List.nil_append]
    cases hs : pat ++ b with
    | nil => simp_all [splitOnce]
    | cons c rest =>
      rw [hs] at hstrip
      simp [splitOnce, hstrip]
  | cons c a ih =>
    simp only [List.cons_append, splitOnce]
    split
    · rfl
    · simpa using ih

theorem infix_iff_contains {pat s : List Char} : pat <:+: s ↔ contains pat s = true := by
  constructor
  · exact splitOnce_isSome_of_infix
  · intro h
    obtain ⟨⟨a, b⟩, hs⟩ := Option.isSome_iff_exists.mp h
    exact ⟨a, b, (splitOnce_eq_some hs).symm⟩

section Replace

variable {pat r r' : List Char}

theorem length_replaceAll_le (h : r.length ≤ r'.length) :
    ∀ s, (replaceAll pat r s).length ≤ (replaceAll pat r' s).length := by
  intro s
  induction s using replaceAll.induct pat with
  | case1 => simp [replaceAll]
  | case2 c rest hpat ih =>
    subst hpat
    simpa [replaceAll] using ih
  | case3 c rest p ps hpat hpre ih =>
    subst hpat
    rw [replaceAll, replaceAll]
    simp only [hpre, ↓reduceIte, List.length_append]
    omega
  | case4 c rest p ps hpat hpre ih =>
    subst hpat
    rw [replaceAll, replaceAll]
    simpa [hpre] using ih

theorem eq_of_append_eq_append {X X' : List Char} (hr : r.length ≤ r'.length)
    (hX : X.length ≤ X'.length) (h : r ++ X = r' ++ X') : r = r' := by
  have hlen := congrArg List.length h
  simp only [List.length_append] at hlen
  exact (List.append_inj h (by omega)).1

/-- Replacing an occurring pattern by two different texts gives two different texts. -/
theorem replaceAll_ne_of_ne (hne : r ≠ r') (hpat : pat ≠ []) :
    ∀ s, pat <:+: s → replaceAll pat r s ≠ replaceAll pat r' s := by
  intro s
  induction s using replaceAll.induct pat with
  | case1 => exact fun hin => absurd (List.eq_nil_of_infix_nil hin) hpat
  | case2 c rest hp => exact absurd hp hpat
  | case3 c rest p ps hp hpre ih =>
    subst hp
    intro _ heq
    rw [replaceAll, replaceAll] at heq
    simp only [hpre, ↓reduceIte] at heq
    -- the two texts start with the replacements; the shorter one is a prefix of the longer
    rcases Nat.le_total r.length r'.length with hl | hl
    · exact hne (eq_of_append_eq_append hl (length_replaceAll_le hl _) heq)
    · exact hne (eq_of_append_eq_append hl (length_replaceAll_le hl _) heq.symm).symm
  | case4 c rest p ps hp hpre ih =>
    subst hp
    intro hin heq
    rw [replaceAll, replaceAll] at heq
    simp only [hpre, Bool.false_eq_true, ↓reduceIte, List.cons.injEq, true_and] at heq
    -- the occurrence does not start here, so it lies in the rest
    have hrest : p :: ps <:+: rest :=
      (List.infix_cons_iff.mp hin).resolve_left (mt List.isPrefixOf_iff_prefix.mpr hpre)
    exact ih hrest heq

end Replace

section Split

variable {sep : Char}

@[simp] theorem joinWith_cons_cons (s : List Char) (p q : List Char) (qs : List (List Char)) :
    joinWith s (p :: q :: qs) = p ++ s ++ joinWith s (q :: qs) := rfl

theorem splitOnChar_of_not_mem {s : List Char} (h : sep ∉ s) : splitOnChar sep s = [s] := by
  induction s with
  | nil => rfl
  | cons c cs ih =>
    simp only [List.mem_cons, not_or] at h
    simp [splitOnChar, Ne.symm h.1, ih h.2]

theorem splitOnChar_append_cons {p : List Char} (t : List Char) (h : sep ∉ p) :
    splitOnChar sep (p ++ sep :: t) = p :: splitOnChar sep t := by
  induction p with
  | nil => simp [splitOnChar]
  | cons c cs ih =>
    simp only [List.mem_cons, not_or] at h
    simp [splitOnChar, Ne.symm h.1, ih h.2]

theorem splitOnChar_joinWith {ps : List (List Char)} (hne : ps ≠ []) (h : ∀ p ∈ ps, sep ∉ p) :
    splitOnChar sep (joinWith [sep] ps) = ps := by
  induction ps with
  | nil => exact absurd rfl hne
  | cons p ps ih =>
    cases ps with
    | nil => exact splitOnChar_of_not_mem (h p (by simp))
    | cons q qs =>
      rw [joinWith_cons_cons, List.append_assoc, List.singleton_append,
        splitOnChar_append_cons _ (h p (by simp)), ih (by simp) (fun r hr => h r (by simp [hr]))]

theorem mem_joinWith {ps : List (List Char)} {c : Char} (h : c ∈ joinWith [sep] ps) :
    c = sep ∨ ∃ p ∈ ps, c ∈ p := by
  induction ps with
  | nil => simp [joinWith] at h
  | cons p ps ih =>
    cases ps with
    | nil => exact .inr ⟨p, by simp, by simpa [joinWith] using h⟩
    | cons q qs =>
      simp only [joinWith_cons_cons, List.mem_append, List.mem_singleton] at h
      rcases h with (h | h) | h
      · exact .inr ⟨p, by simp, h⟩
      · exact .inl h
      · rcases ih h with h | ⟨r, hr, hc⟩
        · exact .inl h
        · exact .inr ⟨r, List.mem_cons_of_mem p hr, hc⟩

theorem splitOnChar_ne_nil (s : List Char) : splitOnChar sep s ≠ [] := by
  cases s with
  | nil => simp [splitOnChar]
  | cons c cs =>
    unfold splitOnChar
    split
    · simp
    · split <;> simp

theorem not_mem_of_mem_splitOnChar {s p : List Char} (hp : p ∈ splitOnChar sep s) : sep ∉ p := by
  induction s generalizing p with
  | nil => simp_all [splitOnChar]
  | cons c cs ih =>
    unfold splitOnChar at hp
    split at hp
    · rcases List.mem_cons.mp hp with rfl | hp
      · simp
      · exact ih hp
    · rename_i hc
      split at hp
      · rename_i first more hsplit
        rcases List.mem_cons.mp hp with rfl | hp
        · have hfirst : sep ∉ first := ih (by simp [hsplit])
          simp [Ne.symm hc, hfirst]
        · exact ih (by simp [hsplit, hp])
      · rw [List.mem_singleton] at hp
        subst hp
        simpa [eq_comm] using hc

theorem joinWith_splitOnChar (s : List Char) : joinWith [sep] (splitOnChar sep s) = s := by
  induction s with
  | nil => rfl
  | cons c cs ih =>
    have hne : splitOnChar sep cs ≠ [] := splitOnChar_ne_nil cs
    by_cases hc : c = sep
    · subst hc
      obtain ⟨p, ps, hps⟩ := List.exists_cons_of_ne_nil hne
      simp only [splitOnChar, ↓reduceIte]
      rw [hps, joinWith_cons_cons, ← hps, ih]
      simp
    · simp only [splitOnChar, hc, ↓reduceIte]
      obtain ⟨p, ps, hps⟩ := List.exists_cons_of_ne_nil hne
      rw [hps] at ih ⊢
      cases ps with
      | nil => simpa [joinWith] using ih
      | cons q qs =>
        simp only [joinWith_cons_cons] at ih ⊢
        simp [ih]

theorem mem_splitOnChar_of_mem {s : List Char} {c : Char} (h : c ∈ s) :
    c = sep ∨ ∃ p ∈ splitOnChar sep s, c ∈ p :=
  mem_joinWith ((joinWith_splitOnChar s).symm ▸ h)

theorem splitOnceChar_eq_some {s a b : List Char} (h : splitOnceChar sep s = some (a, b)) :
    s = a ++ sep :: b := by
  induction s generalizing a with
  | nil => simp [splitOnceChar] at h
  | cons c cs ih =>
    simp only [splitOnceChar] at h
    split at h
    · rename_i hc
      simp only [Option.some.injEq, Prod.mk.injEq] at h
      obtain ⟨rfl, rfl⟩ := h
      simp [hc]
    · obtain ⟨⟨a', b'⟩, hsplit, he⟩ := Option.map_eq_some_iff.mp h
      simp only [Prod.mk.injEq] at he
      obtain ⟨rfl, rfl⟩ := he
      simp [ih hsplit]

theorem splitOnceChar_append_cons {a : List Char} (b : List Char) (h : sep ∉ a) :
    splitOnceChar sep (a ++ sep :: b) = some (a, b) := by
  induction a with
  | nil => simp [splitOnceChar]
  | cons c cs ih =>
    simp only [List.mem_cons, not_or] at h
    simp [splitOnceChar, Ne.symm h.1, ih h.2]

end Split

theorem dropWhile_eq_self {p : Char → Bool} {l : List Char} (h : ∀ c ∈ l, p c = false) :
    l.dropWhile p = l := by
  cases l with
  | nil => rfl
  | cons c cs => simp [h c (by simp)]

theorem trim_sublist (s : String) : (trim s).toList.Sublist s.toList := by
  simp only [trim, dropLeading, dropTrailing, String.toList_ofList]
  have hback := (List.dropWhile_sublist (l := (s.toList.dropWhile isBlank).reverse) isBlank).reverse
  rw [List.reverse_reverse] at hback
  exact hback.trans (List.dropWhile_sublist _)

theorem trim_eq_self {s : String} (h : ∀ c ∈ s.toList, isBlank c = false) : trim s = s := by
  have hrev : ∀ c ∈ s.toList.reverse, isBlank c = false := fun c hc => h c (List.mem_reverse.mp hc)
  simp [trim, dropLeading, dropTrailing, dropWhile_eq_self h, dropWhile_eq_self hrev]

end Mooring.Text
