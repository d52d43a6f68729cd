import Mooring.Proofs.NameMatching
namespace Mooring.Naming

open Mooring.Text NameResolver

section Search

variable {p : String} {taken : List String}

/-- The search stops at the least index of its window whose name is free. -/
theorem firstFree_eq_some_iff {start fuel k : Nat} :
    firstFree p taken start fuel = some k ↔
      start ≤ k ∧ k < start + fuel ∧ candidate p k ∉ taken ∧
        ∀ j, start ≤ j → j < k → candidate p j ∈ taken := by
  induction start, fuel using firstFree.induct p taken with
  | case1 start => simp [firstFree]; omega
  | case2 start fuel hmem ih =>
    rw [firstFree, if_pos hmem, ih]
    constructor
    · rintro ⟨hle, hlt, hfree, hbefore⟩
      refine ⟨by omega, by omega, hfree, fun j hj hjk => ?_⟩
      rcases Nat.eq_or_lt_of_le hj with rfl | hj
      · exact hmem
      · exact hbefore j hj hjk
    · rintro ⟨hle, hlt, hfree, hbefore⟩
      have hk : k ≠ start := by
        rintro rfl
        exact hfree hmem
      exact ⟨by omega, by omega, hfree, fun j hj hjk => hbefore j (by omega) hjk⟩
  | case3 start fuel hfree =>
    rw [firstFree, if_neg hfree, Option.some.injEq]
    constructor
    · rintro rfl
      exact ⟨Nat.le_refl _, by omega, hfree, fun j hj hjk => by omega⟩
    · rintro ⟨hle, -, -, hbefore⟩
      -- an index after `start` would need the name of `start` taken
      by_contra hk
      exact hfree (hbefore start (Nat.le_refl _) (by omega))

theorem firstFree_eq_none_iff {start fuel : Nat} :
    firstFree p taken start fuel = none ↔ ∀ j, start ≤ j → j < start + fuel → candidate p j ∈ taken := by
  induction start, fuel using firstFree.induct p taken with
  | case1 start => simp [firstFree]; omega
  | case2 start fuel hmem ih =>
    rw [firstFree, if_pos hmem, ih]
    constructor
    · intro hall j hj hjk
      rcases Nat.eq_or_lt_of_le hj with rfl | hj
      · exact hmem
      · exact hall j hj (by omega)
    · exact fun hall j hj hjk => hall j (by omega) (by omega)
  | case3 start fuel hfree =>
    rw [firstFree, if_neg hfree]
    simp only [reduceCtorEq, false_iff, not_forall]
    exact ⟨start, Nat.le_refl _, by omega, hfree⟩

theorem firstFree_one_eq_some_iff {m k : Nat} :
    firstFree p taken 1 m = some k ↔ IsLeast {j | 1 ≤ j ∧ j ≤ m ∧ candidate p j ∉ taken} k := by
  rw [firstFree_eq_some_iff]
  constructor
  · rintro ⟨hle, hlt, hfree, hbefore⟩
    refine ⟨⟨hle, by omega, hfree⟩, fun j ⟨hj, _, hjfree⟩ => ?_⟩
    by_contra hjk
    exact hjfree (hbefore j hj (by omega))
  · rintro ⟨⟨hle, hkm, hfree⟩, hleast⟩
    refine ⟨hle, by omega, hfree, fun j hj hjk => ?_⟩
    by_contra hjfree
    have := hleast ⟨hj, by omega, hjfree⟩
    omega

/-- The end of the run of taken indices from 1, as matching computes it. -/
def runEnd (p : String) (taken : List String) (m : Nat) : Nat :=
  match firstFree p taken 1 m with
  | some i => i - 1
  | none => m

theorem runEnd_isGreatest (m : Nat) :
    IsGreatest {l | l ≤ m ∧ ∀ j, 1 ≤ j → j ≤ l → candidate p j ∈ taken} (runEnd p taken m) := by
  cases hf : firstFree p taken 1 m with
  | some i =>
    obtain ⟨hle, hlt, hfree, hbefore⟩ := firstFree_eq_some_iff.mp hf
    simp only [runEnd, hf]
    refine ⟨⟨by omega, fun j hj hji => hbefore j hj (by omega)⟩, fun l ⟨_, hl⟩ => ?_⟩
    -- the run cannot pass the free index `i`
    by_contra hil
    exact hfree (hl i hle (by omega))
  | none =>
    have hall := firstFree_eq_none_iff.mp hf
    simp only [runEnd, hf]
    exact ⟨⟨Nat.le_refl m, fun j hj hjm => hall j hj (by omega)⟩, fun l ⟨hl, _⟩ => hl⟩

end Search

section Resolver

variable {r : NameResolver} {ctx : NamingContext} {P : String}

theorem usesEmptyName_of_absent {s : String} (h : ¬ "%e".toList <:+: s.toList) :
    usesEmptyName s = .ok false := by
  have hne : s ≠ "%e" := by
    rintro rfl
    exact h (List.infix_refl _)
  have hc : contains "%e".toList s.toList = false :=
    Bool.eq_false_iff.mpr fun hc => h (infix_iff_contains.mpr hc)
  unfold usesEmptyName
  rw [if_neg hne, hc]
  rfl

theorem asksIndex_partialName (hP : ctx.partialName = .ok P) (hi : asksIndex ctx.pattern = true) :
    asksIndex P = true := by
  obtain ⟨ps, hr, hchars⟩ := partialName_chars ctx hP
  have hkeep := @render_keeps_index ctx.lookup rfl rfl _ ps hr (infix_iff_contains.mpr hi)
  rw [← hchars] at hkeep
  exact infix_iff_contains.mp hkeep

theorem calculateName_of_asksIndex (hu : usesEmptyName ctx.pattern = .ok false)
    (hP : ctx.partialName = .ok P) (hi : asksIndex P = true) :
    r.calculateName ctx = (firstFree P ctx.existing 1 r.maxIndex).elim
      (.error (.nameCollisionExhausted P r.maxIndex)) fun k => .ok (some (candidate P k)) := by
  cases hf : firstFree P ctx.existing 1 r.maxIndex <;>
    simp [calculateName, hu, hP, hi, hf, bind, Except.bind, pure, Except.pure]

theorem calculateLastName_of_asksIndex (hu : usesEmptyName ctx.pattern = .ok false)
    (hP : ctx.partialName = .ok P) (hi : asksIndex P = true) :
    r.calculateLastName ctx = (firstFree P ctx.existing 1 r.maxIndex).elim
      (.error (.nameCollisionExhausted P r.maxIndex))
      fun k => .ok (if k = 1 then none else some (candidate P (k - 1))) := by
  cases hf : firstFree P ctx.existing 1 r.maxIndex with
  | none => simp [calculateLastName, hu, hP, hi, hf, bind, Except.bind]
  | some k =>
    by_cases hk : k = 1
    · subst hk
      simp [calculateLastName, hu, hP, hi, hf, bind, Except.bind, pure, Except.pure]
    · simp [calculateLastName, hu, hP, hi, hf, hk, bind, Except.bind, pure, Except.pure]

theorem matchingNames_of_asksIndex {size : String → Nat} {names : List String}
    (hu : usesEmptyName ctx.pattern = .ok false) (hi : asksIndex ctx.pattern = true)
    (hP : ctx.partialName = .ok P) :
    r.matchingNames size ctx names = .ok (names.filter fun n =>
      n ∉ (List.range (runEnd P names r.maxIndex - 1)).map fun j => candidate P (j + 1)) := by
  cases hf : firstFree P names 1 r.maxIndex <;>
    simp [matchingNames, hu, hi, hP, runEnd, hf, bind, Except.bind, pure, Except.pure]

end Resolver

/-- An indexed name is the name of the least free index and the last name the one before it;
when every index up to the limit is taken, both are refused alike. -/
theorem indexed_names_least_free (r : NameResolver) (ctx : NamingContext) (P : String)
    (he : ¬ "%e".toList <:+: ctx.pattern.toList) (hP : ctx.partialName = .ok P)
    (hi : "%i".toList <:+: P.toList) :
    (∀ k, IsLeast {j | 1 ≤ j ∧ j ≤ r.maxIndex ∧ candidate P j ∉ ctx.existing} k →
      r.calculateName ctx = .ok (some (candidate P k)) ∧
        r.calculateLastName ctx = .ok (if k = 1 then none else some (candidate P (k - 1)))) ∧
    ((∀ j, 1 ≤ j → j ≤ r.maxIndex → candidate P j ∈ ctx.existing) →
      r.calculateName ctx = .error (.nameCollisionExhausted P r.maxIndex) ∧
        r.calculateLastName ctx = .error (.nameCollisionExhausted P r.maxIndex)) := by
  have hu := usesEmptyName_of_absent he
  have hask : asksIndex P = true := infix_iff_contains.mp hi
  rw [calculateName_of_asksIndex hu hP hask, calculateLastName_of_asksIndex hu hP hask]
  constructor
  · intro k hk
    rw [firstFree_one_eq_some_iff.mpr hk]
    by_cases h1 : k = 1
    · subst h1
      simp
    · simp [h1]
  · intro hall
    rw [firstFree_eq_none_iff.mpr fun j hj hjm => hall j hj (by omega)]
    exact ⟨rfl, rfl⟩

/-- The resolver with `web-1` taken gives `web-2`, and `web-1` as the last name. -/
theorem indexed_names_second_index :
    (NameResolver.new 10).calculateName ⟨"web-%i", "", none, 0, ["web-1"]⟩ = .ok (some "web-2") ∧
      (NameResolver.new 10).calculateLastName ⟨"web-%i", "", none, 0, ["web-1"]⟩ =
        .ok (some "web-1") := by
  have hleast : IsLeast {j | 1 ≤ j ∧ j ≤ (NameResolver.new 10).maxIndex ∧
      candidate "web-%i" j ∉ ["web-1"]} 2 := by
    refine ⟨⟨by decide, by decide, by decide +kernel⟩, fun j ⟨hj, _, hfree⟩ => ?_⟩
    by_contra hlt
    obtain rfl : j = 1 := by simp only [not_le] at hlt; omega
    exact hfree (by decide +kernel)
  have h := (indexed_names_least_free (NameResolver.new 10) ⟨"web-%i", "", none, 0, ["web-1"]⟩
    "web-%i" (by decide) rfl (by decide)).1 2 hleast
  refine ⟨h.1.trans ?_, h.2.trans ?_⟩ <;> decide +kernel

/-- A pattern with `%e` besides other text is refused, though its filled-in form asks for an
index. -/
theorem calculateName_refuses_inner_empty_placeholder :
    (⟨"%e-%i", "example", none, 0, []⟩ : NamingContext).partialName = .ok "%e-%i" ∧
      (NameResolver.new 10000).calculateName ⟨"%e-%i", "example", none, 0, []⟩ =
        .error (.invalidEmptyPlaceholder "%e-%i") :=
  ⟨rfl, rfl⟩

theorem mem_earlier_iff {P n : String} {L : Nat} :
    n ∈ (List.range (L - 1)).map (fun j => candidate P (j + 1)) ↔
      ∃ j < L, 1 ≤ j ∧ candidate P j = n := by
  simp only [List.mem_map, List.mem_range]
  constructor
  · rintro ⟨j, hj, rfl⟩
    exact ⟨j + 1, by omega, by omega, rfl⟩
  · rintro ⟨j, hj, h1, rfl⟩
    exact ⟨j - 1, by omega, by rw [Nat.sub_add_cancel h1]⟩

/-- Matching an indexed pattern keeps every name but the earlier members of the run of taken
indices from 1, in order and with repeats; so it keeps the last name. -/
theorem matchingNames_drops_earlier_run (r : NameResolver) (size : String → Nat)
    (ctx : NamingContext) (names : List String) (P : String) (L : Nat)
    (he : ¬ "%e".toList <:+: ctx.pattern.toList) (hi : "%i".toList <:+: ctx.pattern.toList)
    (hP : ctx.partialName = .ok P)
    (hL : IsGreatest {l | l ≤ r.maxIndex ∧ ∀ j, 1 ≤ j → j ≤ l → candidate P j ∈ names} L) :
    ∃ out, r.matchingNames size ctx names = .ok out ∧
      out = names.filter (fun n => ∀ j < L, 1 ≤ j → candidate P j ≠ n) ∧
      ∀ x, r.calculateLastName { ctx with existing := names } = .ok (some x) → x ∈ out := by
  have hu := usesEmptyName_of_absent he
  have hask := infix_iff_contains.mp hi
  have hPask := asksIndex_partialName hP hask
  have hend : runEnd P names r.maxIndex = L := (runEnd_isGreatest r.maxIndex).unique hL
  refine ⟨_, matchingNames_of_asksIndex hu hask hP, ?_, ?_⟩
  · -- the earlier members are the names of the indices before the end of the run
    refine List.filter_congr fun n _ => ?_
    rw [hend]
    simp [mem_earlier_iff]
  · intro x hx
    rw [@calculateLastName_of_asksIndex r { ctx with existing := names } P hu hP hPask] at hx
    -- the last name is the name of the end of the run, which is taken and no earlier member
    cases hf : firstFree P names 1 r.maxIndex with
    | none => simp [hf] at hx
    | some k =>
      have hk := (firstFree_eq_some_iff.mp hf).1
      have hkL : k - 1 = L := by
        rw [← hend, runEnd, hf]
      have hk1 : k ≠ 1 := by
        rintro rfl
        simp [hf] at hx
      have hx' : candidate P L = x := by
        simpa [hf, hk1, hkL] using hx
      subst hx'
      rw [List.mem_filter, decide_eq_true_eq, hend, mem_earlier_iff]
      refine ⟨hL.1.2 L (by omega) (Nat.le_refl L), fun ⟨j, hj, _, heq⟩ => ?_⟩
      exact absurd (candidate_injective hPask heq) (by omega)

/-- With `web-1` and `web-2` taken, matching drops `web-1` and keeps `web-2` and the rest. -/
theorem matchingNames_drops_earlier_run_web :
    (NameResolver.new 10).matchingNames String.length ⟨"web-%i", "", none, 0, []⟩
      ["web-2", "db", "web-1"] = .ok ["web-2", "db"] := by
  have hL := @runEnd_isGreatest "web-%i" ["web-2", "db", "web-1"] (NameResolver.new 10).maxIndex
  have hend : runEnd "web-%i" ["web-2", "db", "web-1"] (NameResolver.new 10).maxIndex = 2 := by
    decide +kernel
  rw [hend] at hL
  obtain ⟨out, hout, rfl, -⟩ := matchingNames_drops_earlier_run (NameResolver.new 10) String.length
    ⟨"web-%i", "", none, 0, []⟩ ["web-2", "db", "web-1"] "web-%i" 2 (by decide) (by decide) rfl hL
  rw [hout]
  decide +kernel

/-- Matching refuses a pattern with `%e` besides other text, though it asks for an index. -/
theorem matchingNames_refuses_inner_empty_placeholder :
    (NameResolver.new 10000).matchingNames String.length ⟨"%e-%i", "example", none, 0, []⟩ ["x"] =
      .error (.invalidEmptyPlaceholder "%e-%i") :=
  rfl

end Mooring.Naming
