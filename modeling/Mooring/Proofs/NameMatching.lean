import Mathlib
import Mooring.Naming
import Mooring.Proofs.TextPieces
namespace Mooring.Naming

open Mooring.Text NameResolver

/-- The characters a piece stands for in a name; a digit run stands for none. -/
def Piece.chars : Piece → List Char
  | .literal c => [c]
  | .value t => t.toList
  | .digits _ => []

theorem ok_of_map_eq_ok {ε α β : Type} {e : Except ε α} {f : α → β} {b : β}
    (h : e.map f = .ok b) : ∃ a, e = .ok a ∧ f a = b := by
  cases e with
  | error => cases h
  | ok a => exact ⟨a, rfl, by simpa [Except.map] using h⟩

section Render

variable {l : Char → Except NamingError (Option Piece)} {t : Char} {rest : List Char}

theorem render_percent_some {p : Piece} (hl : l t = .ok (some p)) :
    render l ('%' :: t :: rest) = (render l rest).map (p :: ·) := by
  rw [render.eq_2]
  cases render l rest <;> simp [hl, bind, Except.bind, pure, Except.pure, Except.map]

theorem render_percent_none (hl : l t = .ok none) :
    render l ('%' :: t :: rest) = (render l (t :: rest)).map (.literal '%' :: ·) := by
  rw [render.eq_2]
  cases render l (t :: rest) <;> simp [hl, bind, Except.bind, pure, Except.pure, Except.map]

theorem render_percent_error {e : NamingError} (hl : l t = .error e) :
    render l ('%' :: t :: rest) = .error e := by
  rw [render.eq_2]
  simp [hl, bind, Except.bind]

theorem render_literal {c : Char} (hc : ∀ t rest', c = '%' → rest = t :: rest' → False) :
    render l (c :: rest) = (render l rest).map (.literal c :: ·) := by
  rw [render.eq_3 l c rest hc]
  cases render l rest <;> simp [bind, Except.bind, pure, Except.pure, Except.map]

/-- A `%i` of the pattern survives rendering when neither `%` nor `i` has a value: no `%` is
taken as a placeholder letter, so the `%` before the `i` starts a placeholder of its own. -/
theorem render_keeps_index (hp : l '%' = .ok none) (hi : l 'i' = .ok none) :
    ∀ s ps, render l s = .ok ps → "%i".toList <:+: s → "%i".toList <:+: ps.flatMap Piece.chars := by
  intro s
  induction s using render.induct with
  | case1 => simp
  | case2 t rest ih_rest ih_tail =>
    intro ps h hin
    cases hl : l t with
    | error e => rw [render_percent_error hl] at h; cases h
    | ok o =>
      cases o with
      | some p =>
        rw [render_percent_some hl] at h
        obtain ⟨ps', h', rfl⟩ := ok_of_map_eq_ok h
        -- with a value for `t`, the `%i` can neither start here (`t = i`) nor at `t` (`t = %`)
        have hti : t ≠ 'i' := by rintro rfl; simp [hi] at hl
        have htp : t ≠ '%' := by rintro rfl; simp [hp] at hl
        have hrest : "%i".toList <:+: rest := by
          simpa [List.infix_cons_iff, Ne.symm hti, Ne.symm htp] using hin
        rw [List.flatMap_cons]
        exact (ih_rest ps' h' hrest).trans (List.suffix_append _ _).isInfix
      | none =>
        rw [render_percent_none hl] at h
        obtain ⟨ps', h', rfl⟩ := ok_of_map_eq_ok h
        by_cases hti : t = 'i'
        · subst hti
          -- the `i` is rendered as itself, right after the `%`
          have hlit : render l ('i' :: rest) = (render l rest).map (.literal 'i' :: ·) :=
            render_literal (by simp)
          rw [hlit] at h'
          obtain ⟨ps'', -, rfl⟩ := ok_of_map_eq_ok h'
          exact ⟨[], ps''.flatMap Piece.chars, by simp [Piece.chars]⟩
        · have htail : "%i".toList <:+: t :: rest := by
            simpa [List.infix_cons_iff, Ne.symm hti] using hin
          simpa [Piece.chars] using List.infix_cons (ih_tail ps' h' htail)
  | case3 c rest hc ih =>
    intro ps h hin
    rw [render_literal hc] at h
    obtain ⟨ps', h', rfl⟩ := ok_of_map_eq_ok h
    have hrest : "%i".toList <:+: rest := by
      refine (List.infix_cons_iff.mp hin).resolve_left ?_
      rintro ⟨u, hu⟩
      have hu' : c = '%' ∧ rest = 'i' :: u := by simpa [eq_comm] using hu
      exact hc 'i' u hu'.1 hu'.2
    simpa [Piece.chars] using List.infix_cons (ih ps' h' hrest)

end Render

section Lookup

variable (ctx : NamingContext)

theorem partialName_chars {p : String} (h : ctx.partialName = .ok p) :
    ∃ ps, render ctx.lookup ctx.pattern.toList = .ok ps ∧ p.toList = ps.flatMap Piece.chars := by
  unfold NamingContext.partialName at h
  cases hr : render ctx.lookup ctx.pattern.toList with
  | error e => simp [hr, bind, Except.bind] at h
  | ok ps =>
    simp only [hr, bind, Except.bind, pure, Except.pure, Except.ok.injEq] at h
    subst h
    refine ⟨ps, rfl, ?_⟩
    simp only [String.toList_join, List.flatMap_map]
    congr 1
    funext q
    cases q <;> simp [Piece.chars]

end Lookup

theorem candidate_injective {p : String} (hp : asksIndex p = true) :
    Function.Injective (candidate p) := by
  intro i j h
  by_contra hij
  have hdigits : (toString i).toList ≠ (toString j).toList := fun hs =>
    hij (Nat.repr_injective (by simpa [Nat.toString_eq_repr] using String.toList_inj.mp hs))
  have hchars := congrArg String.toList h
  simp only [candidate, String.toList_ofList] at hchars
  exact replaceAll_ne_of_ne hdigits (by simp) p.toList (infix_iff_contains.mpr hp) hchars

theorem matchingNames_refuses_oversized (r : NameResolver) (size : String → Nat)
    (ctx : NamingContext) (names : List String) {ps : List Piece}
    (hu : usesEmptyName ctx.pattern = .ok false) (hi : asksIndex ctx.pattern = false)
    (hr : render (matchLookup ctx) ctx.pattern.toList = .ok ps)
    (hbig : Regex.sizeLimit < size (matchingRegex ps)) :
    r.matchingNames size ctx names = .error (.invalidPattern ctx.pattern Regex.tooBigMessage) := by
  simp [matchingNames, hu, hi, hr, hbig, bind, Except.bind, throw, throwThe, MonadExceptOf.throw]

example : (NameResolver.new 10000).matchingNames (fun _ => Regex.sizeLimit + 1)
    ⟨"%a", "", some "web", 0, []⟩ ["web"] = .error (.invalidPattern "%a" Regex.tooBigMessage) := by
  rfl

end Mooring.Naming
