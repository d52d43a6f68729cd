import Mooring.Proofs.StartOrder
import Mooring.Proofs.CycleSearch
namespace Mooring.Order

theorem mem_zip_range {β : Type} {l : List β} {i : Nat} {x : β}
    (h : (i, x) ∈ (List.range l.length).zip l) : ∃ hi : i < l.length, l[i] = x := by
  obtain ⟨k, hk, he⟩ := List.mem_iff_getElem.mp h
  simp only [List.length_zip, List.length_range, Nat.min_self] at hk
  simp only [List.getElem_zip, List.getElem_range, Prod.mk.injEq] at he
  obtain ⟨rfl, rfl⟩ := he
  exact ⟨hk, rfl⟩

theorem map_get_subperm {β : Type} {l : List β} {c : List (Fin l.length)} (hc : c.Nodup) :
    (c.map l.get).Subperm l := by
  obtain ⟨c', hperm, hsub⟩ := List.subperm_of_subset hc fun i _ => List.mem_finRange i
  exact ⟨c'.map l.get, hperm.map l.get, by simpa [List.map_get_finRange] using hsub.map l.get⟩

theorem exists_map_val {n : Nat} : ∀ c : List Nat, (∀ i ∈ c, i < n) →
    ∃ ci : List (Fin n), ci.map Fin.val = c
  | [], _ => ⟨[], rfl⟩
  | i :: c, h =>
    let ⟨ci, hci⟩ := exists_map_val c fun j hj => h j (List.mem_cons_of_mem i hj)
    ⟨⟨i, h i List.mem_cons_self⟩ :: ci, by simp [hci]⟩

variable {α : Type} [Dependent α]

/-- `x` needs `y`: one of its dependencies is the name or alias of `y`. -/
def DependsOn (x y : α) : Prop := ∃ d ∈ Dependent.dependencies x, d ∈ knownAs y

/-- No order of the given containers that starts each after its dependencies starts `x`. -/
def Unplaceable (existing : List String) (specs : List α) (x : α) : Prop :=
  ∀ p : List α, (∀ y ∈ p, y ∈ specs) → StartsAfter existing [] p → x ∉ p

section IndexOf

variable {key : String}

theorem foldl_lastKnown_eq_some (l : List (Nat × α)) {init : Option Nat} {j : Nat}
    (h : l.foldl (fun acc (p : Nat × α) => if (knownAs p.2).contains key then some p.1 else acc)
      init = some j) :
    init = some j ∨ ∃ x, (j, x) ∈ l ∧ key ∈ knownAs x := by
  induction l generalizing init with
  | nil => exact .inl h
  | cons p l ih =>
    rcases ih h with h' | ⟨x, hx, hk⟩
    · by_cases hp : (knownAs p.2).contains key = true
      · simp only [hp, ↓reduceIte, Option.some.injEq] at h'
        exact .inr ⟨p.2, by simp [← h'], by simpa using hp⟩
      · simp only [hp, Bool.false_eq_true, ↓reduceIte] at h'
        exact .inl h'
    · exact .inr ⟨x, List.mem_cons_of_mem _ hx, hk⟩

theorem foldl_lastKnown_eq_none (l : List (Nat × α)) {init : Option Nat} :
    l.foldl (fun acc (p : Nat × α) => if (knownAs p.2).contains key then some p.1 else acc)
      init = none ↔ init = none ∧ ∀ p ∈ l, key ∉ knownAs p.2 := by
  induction l generalizing init with
  | nil => simp
  | cons p l ih =>
    rw [List.foldl_cons, ih]
    by_cases hp : (knownAs p.2).contains key = true
    · simp only [hp, ↓reduceIte, reduceCtorEq, false_and, false_iff, not_and]
      exact fun _ h => h p (by simp) (by simpa using hp)
    · simp only [hp, Bool.false_eq_true, ↓reduceIte, List.mem_cons, forall_eq_or_imp]
      simp only [List.contains_iff_mem] at hp ⊢
      simp [hp]

theorem indexOf?_eq_some {blocked : List α} {j : Nat} (h : indexOf? blocked key = some j) :
    ∃ hj : j < blocked.length, key ∈ knownAs blocked[j] := by
  rcases foldl_lastKnown_eq_some _ h with h' | ⟨x, hx, hk⟩
  · cases h'
  · obtain ⟨hj, rfl⟩ := mem_zip_range hx
    exact ⟨hj, hk⟩

theorem indexOf?_eq_none {blocked : List α} :
    indexOf? blocked key = none ↔ ∀ x ∈ blocked, key ∉ knownAs x := by
  unfold indexOf?
  rw [foldl_lastKnown_eq_none]
  refine ⟨fun ⟨_, h⟩ x hx => ?_, fun h => ⟨rfl, fun p hp => ?_⟩⟩
  · obtain ⟨k, hk, rfl⟩ := List.mem_iff_getElem.mp hx
    exact h (k, blocked[k]) (List.mem_iff_getElem.mpr ⟨k, by simp [hk], by simp⟩)
  · obtain ⟨_, hx⟩ := mem_zip_range (l := blocked) (i := p.1) (x := p.2) hp
    exact h _ (hx ▸ List.getElem_mem _)

end IndexOf

/-- The graph the explanation searches: an edge from each blocked container to the last blocked
container known by one of its dependencies. -/
def blockedEdges (blocked : List α) : List (List Nat) :=
  blocked.map fun x => (Dependent.dependencies x).filterMap (indexOf? blocked)

theorem successors_blockedEdges (blocked : List α) (i : Nat) :
    successors (blockedEdges blocked) i =
      if h : i < blocked.length then (Dependent.dependencies blocked[i]).filterMap (indexOf? blocked)
      else [] := by
  unfold successors blockedEdges
  split
  · next h => simp [List.getD_eq_getElem?_getD, h]
  · next h => simp [List.getD_eq_getElem?_getD, Nat.le_of_not_lt h]

theorem succ_blockedEdges {blocked : List α} {i j : Nat} (h : Succ (blockedEdges blocked) i j) :
    ∃ (hi : i < blocked.length) (hj : j < blocked.length), DependsOn blocked[i] blocked[j] := by
  unfold Succ at h
  rw [successors_blockedEdges] at h
  split at h
  · next hi =>
    obtain ⟨d, hd, hidx⟩ := List.mem_filterMap.mp h
    obtain ⟨hj, hk⟩ := indexOf?_eq_some hidx
    exact ⟨hi, hj, d, hd, hk⟩
  · cases h

/-- A cycle the search finds among the blocked containers is a cycle of dependencies between
distinct blocked containers. -/
theorem cycle_of_blockedEdges {blocked : List α} {c : List Nat}
    (hc : IsCycle (blockedEdges blocked) c) :
    ∃ cyc : List α, cyc ≠ [] ∧ cyc.Subperm blocked ∧
      c.filterMap (fun i => blocked[i]?.map Dependent.name) = cyc.map Dependent.name ∧
      cyc.IsChain DependsOn ∧ ∀ a ∈ cyc.getLast?, ∀ b ∈ cyc.head?, DependsOn a b := by
  -- every node of a cycle has an edge out of it, so it is a blocked container
  have hlt : ∀ i ∈ c, i < blocked.length := fun i hi =>
    let ⟨_, hj⟩ := hc.exists_succ hi
    (succ_blockedEdges hj).1
  obtain ⟨ci, rfl⟩ := exists_map_val c hlt
  have hdep : ∀ a b : Fin blocked.length, Succ (blockedEdges blocked) a b →
      DependsOn (blocked.get a) (blocked.get b) := fun a b h => by
    obtain ⟨_, _, hd⟩ := succ_blockedEdges h
    simpa using hd
  refine ⟨ci.map blocked.get, by simpa using hc.ne_nil,
    map_get_subperm (List.Nodup.of_map _ hc.nodup), ?_,
    List.isChain_map_of_isChain _ hdep ((List.isChain_map _).mp hc.chain), ?_⟩
  · simp [List.filterMap_map, Function.comp_def]
  · intro a ha b hb
    simp only [List.getLast?_map, List.head?_map, Option.mem_def, Option.map_eq_some_iff] at ha hb
    obtain ⟨a', ha', rfl⟩ := ha
    obtain ⟨b', hb', rfl⟩ := hb
    exact hdep a' b' (hc.closes a' (by simp [List.getLast?_map, ha']) b' (by simp [List.head?_map, hb']))

section Explain

variable {existing started : List String} {blocked : List α}

theorem explain_cyclic {members : List String}
    (h : explain existing blocked started = .cyclicDependency members) :
    ∃ cyc : List α, cyc ≠ [] ∧ cyc.Subperm blocked ∧ members = cyc.map Dependent.name ∧
      cyc.IsChain DependsOn ∧ ∀ a ∈ cyc.getLast?, ∀ b ∈ cyc.head?, DependsOn a b := by
  simp only [explain] at h
  split at h
  · next c hfind =>
    cases h
    obtain ⟨cyc, hne, hsub, hnames, hchain, hcloses⟩ :=
      cycle_of_blockedEdges (@findCycle_isCycle (blockedEdges blocked) c hfind)
    exact ⟨cyc, hne, hsub, hnames, hchain, hcloses⟩
  · cases h

/-- Reported dependencies name nothing known, and when every blocked container is blocked and no
cycle is found there is one to report. -/
theorem explain_unresolved {missing : List (String × String)} (hne : blocked ≠ [])
    (hstuck : ∀ x ∈ blocked, ¬Startable existing started x)
    (h : explain existing blocked started = .unresolvedDependencies missing) :
    missing ≠ [] ∧ ∀ q ∈ missing, ∃ x ∈ blocked, q.1 = Dependent.name x ∧
      q.2 ∈ Dependent.dependencies x ∧ q.2 ∉ started ∧ q.2 ∉ existing ∧
      ∀ y ∈ blocked, q.2 ∉ knownAs y := by
  simp only [explain] at h
  split at h
  · cases h
  · next hfind =>
    cases h
    refine ⟨?_, fun q hq => ?_⟩
    · -- the search passed a container without edges: each of its dependencies names no blocked
      -- container, and one of them blocks it
      obtain ⟨i, hi, hsink⟩ := @exists_sink_of_findCycle_eq_none (blockedEdges blocked)
        hfind (by simpa [blockedEdges] using hne)
      simp only [blockedEdges, List.length_map] at hi
      have hnone : ∀ d ∈ Dependent.dependencies blocked[i], indexOf? blocked d = none := by
        intro d hd
        cases hidx : indexOf? blocked d with
        | none => rfl
        | some j =>
          have hj := (indexOf?_eq_some hidx).1
          have := hsink j (by
            rw [successors_blockedEdges, dif_pos hi]
            exact List.mem_filterMap.mpr ⟨d, hd, hidx⟩)
          simp [blockedEdges] at this
          omega
      have hblock := hstuck blocked[i] (List.getElem_mem hi)
      simp only [Startable, not_forall, not_or] at hblock
      obtain ⟨d, hd, hde, hds⟩ := hblock
      refine List.ne_nil_of_mem (a := (Dependent.name blocked[i], d)) ?_
      simp only [List.mem_flatMap, List.mem_map, List.mem_filter]
      exact ⟨blocked[i], List.getElem_mem hi, d, ⟨hd, by simp [hde, hds, hnone d hd]⟩, rfl⟩
    · simp only [List.mem_flatMap, List.mem_map, List.mem_filter, Bool.and_eq_true,
        Bool.not_eq_eq_eq_not, Bool.not_true] at hq
      obtain ⟨x, hx, d, ⟨hd, ⟨hds, hde⟩, hidx⟩, rfl⟩ := hq
      exact ⟨x, hx, rfl, hd, by simpa using hds, by simpa using hde,
        indexOf?_eq_none.mp (by simpa using hidx)⟩

end Explain

/-- The passes fail only at a pass that starts nothing; the containers it leaves waiting are
blocked by the names known after all the containers started before, and the failure is their
explanation. One pass per waiting container is fuel enough to get there. -/
theorem passes_stuck (existing : List String) (fuel : Nat) :
    ∀ (remaining : List α) (known : List String) (ordered : List α) (e : OrderError),
      remaining.length < fuel → passes existing fuel remaining known ordered = .error e →
      ∃ placed blocked, (placed ++ blocked).Perm remaining ∧ blocked ≠ [] ∧
        (∀ x ∈ blocked, ¬Startable existing (known ++ placed.flatMap knownAs) x) ∧
        e = explain existing blocked (known ++ placed.flatMap knownAs) := by
  induction fuel with
  | zero => intro remaining _ _ _ h; omega
  | succ fuel ih =>
    intro remaining known ordered e hlen h
    cases remaining with
    | nil => simp [passes] at h
    | cons x xs =>
      obtain ⟨hperm, hknown, -, hstuck⟩ := pass_spec existing (x :: xs) known
      simp only [passes] at h
      generalize pass existing (x :: xs) known = r at h hperm hknown hstuck
      obtain ⟨placed, blocked, known'⟩ := r
      simp only at hperm hknown hstuck
      subst hknown
      cases hp : placed.isEmpty
      · -- a pass that starts something: the rest fails later, with fewer waiting
        simp only [hp, Bool.false_eq_true, ↓reduceIte] at h
        have hlen' : blocked.length < fuel := by
          have := hperm.length_eq
          have := List.length_pos_iff.mpr (by simpa using hp : placed ≠ [])
          simp only [List.length_append, List.length_cons] at *
          omega
        obtain ⟨placed', blocked', hperm', hne', hstuck', rfl⟩ := ih blocked _ _ e hlen' h
        refine ⟨placed ++ placed', blocked', ?_, hne', ?_, ?_⟩
        · rw [List.append_assoc]
          exact (hperm'.append_left placed).trans hperm
        · simpa [List.flatMap_append, List.append_assoc] using hstuck'
        · simp [List.flatMap_append, List.append_assoc]
      · -- the pass that starts nothing
        simp only [hp, ↓reduceIte, Except.error.injEq] at h
        have hnil : placed = [] := by simpa using hp
        subst hnil h
        refine ⟨[], blocked, by simpa using hperm, fun hb => ?_, fun y hy => ?_, by simp⟩
        · simp [hb] at hperm
        · simpa using hstuck rfl y (hperm.subset (by simp [hy]))

theorem unplaceable_of_stuck {existing : List String} {specs placed blocked : List α}
    (hperm : (placed ++ blocked).Perm specs)
    (hstuck : ∀ x ∈ blocked, ¬Startable existing (placed.flatMap knownAs) x)
    {x : α} (hx : x ∈ blocked) : Unplaceable existing specs x := by
  intro p hp hstarts hxp
  obtain ⟨z, hz, hs⟩ := exists_startable p [] hstarts (List.nil_subset _)
    (fun y hy => List.mem_append.mp (hperm.mem_iff.mpr (hp y hy))) ⟨x, hxp, hx⟩
  exact hstuck z hz hs

theorem order_stuck {existing : List String} {specs : List α} {e : OrderError}
    (h : order existing specs = .error e) :
    ∃ placed blocked, (placed ++ blocked).Perm specs ∧ blocked ≠ [] ∧
      (∀ x ∈ blocked, ¬Startable existing (placed.flatMap knownAs) x) ∧
      e = explain existing blocked (placed.flatMap knownAs) := by
  obtain ⟨placed, blocked, hperm, hne, hstuck, rfl⟩ :=
    passes_stuck existing _ _ _ _ e (Nat.lt_succ_self _) h
  refine ⟨specs.filter (fun x => (Dependent.dependencies x).isEmpty) ++ placed, blocked, ?_, hne,
    ?_, by simp⟩
  · rw [List.append_assoc]
    exact (hperm.append_left _).trans (List.filter_append_perm _ specs)
  · simpa using hstuck

/-- Every failure of the start order is justified. A reported cycle is a non-empty cycle of
distinct given containers, each with a dependency on the name or alias of the next and the last
on the first, none of which can start in any order; reported missing dependencies are never
none, and each is a dependency of a given container that is neither existing nor the name or
alias of any given container. -/
theorem order_failure_justified (existing : List String) (specs : List α) :
    (∀ members, order existing specs = .error (.cyclicDependency members) →
      ∃ cyc : List α, cyc ≠ [] ∧ cyc.Subperm specs ∧ members = cyc.map Dependent.name ∧
        cyc.IsChain DependsOn ∧ (∀ a ∈ cyc.getLast?, ∀ b ∈ cyc.head?, DependsOn a b) ∧
        ∀ x ∈ cyc, Unplaceable existing specs x) ∧
    (∀ missing, order existing specs = .error (.unresolvedDependencies missing) →
      missing ≠ [] ∧ ∀ q ∈ missing, ∃ x ∈ specs, q.1 = Dependent.name x ∧
        q.2 ∈ Dependent.dependencies x ∧ q.2 ∉ existing ∧ ∀ y ∈ specs, q.2 ∉ knownAs y) := by
  refine ⟨fun members h => ?_, fun missing h => ?_⟩
  · obtain ⟨placed, blocked, hperm, -, hstuck, he⟩ := order_stuck h
    obtain ⟨cyc, hne, hsub, hnames, hchain, hcloses⟩ := explain_cyclic he.symm
    refine ⟨cyc, hne, hsub.trans ((List.sublist_append_right placed blocked).subperm.trans
      hperm.subperm), hnames, hchain, hcloses, fun x hx => ?_⟩
    exact unplaceable_of_stuck hperm hstuck (hsub.subset hx)
  · obtain ⟨placed, blocked, hperm, hne, hstuck, he⟩ := order_stuck h
    obtain ⟨hmissing, hpairs⟩ := explain_unresolved hne hstuck he.symm
    refine ⟨hmissing, fun q hq => ?_⟩
    obtain ⟨x, hx, hname, hdep, hstarted, hexisting, hblocked⟩ := hpairs q hq
    refine ⟨x, hperm.subset (by simp [hx]), hname, hdep, hexisting, fun y hy => ?_⟩
    -- every given container was started, and so is known, or is blocked
    rcases List.mem_append.mp (hperm.mem_iff.mpr hy) with hy | hy
    · exact fun hk => hstarted (List.mem_flatMap.mpr ⟨y, hy, hk⟩)
    · exact hblocked y hy

end Mooring.Order
