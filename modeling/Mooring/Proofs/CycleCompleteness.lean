import Mooring.Proofs.CycleSearch
namespace Mooring.Order

variable {edges : List (List Nat)}

/-- Every walk from the node ends: the node is accessible for the edges taken backwards. -/
def Ends (edges : List (List Nat)) (a : Nat) : Prop := Acc (fun b a => Succ edges a b) a

theorem Ends.intro {a : Nat} (h : ∀ b ∈ successors edges a, Ends edges b) : Ends edges a :=
  Acc.intro a fun b hb => h b hb

theorem successors_of_length_le {a : Nat} (h : edges.length ≤ a) : successors edges a = [] := by
  simp [successors, List.getD_eq_getElem?_getD, List.getElem?_eq_none h]

theorem ends_of_length_le {a : Nat} (h : edges.length ≤ a) : Ends edges a :=
  Ends.intro fun b hb => by simp [successors_of_length_le h] at hb

theorem IsCycle.lt_length {c : List Nat} (hc : IsCycle edges c) {a : Nat} (ha : a ∈ c) :
    a < edges.length := by
  obtain ⟨b, hb⟩ := hc.exists_succ ha
  refine Nat.lt_of_not_le fun hle => ?_
  simp [Succ, successors_of_length_le hle] at hb

theorem IsCycle.not_ends {c : List Nat} (hc : IsCycle edges c) {a : Nat} (ha : a ∈ c) :
    ¬ Ends edges a := by
  intro h
  induction h with
  | intro a _ ih =>
    obtain ⟨b, hb, hab⟩ := hc.exists_succ_mem ha
    exact ih b hab hb

/-- Every walk from a finished node ends. -/
def Search.Grounded (edges : List (List Nat)) (s : Search) : Prop :=
  ∀ x, s.mark x = .done → Ends edges x

namespace Search.Grounded

variable {s : Search} {node : Nat}

theorem enter (h : s.Grounded edges) :
    Search.Grounded edges ⟨s.marks.set! node .active, s.path ++ [node]⟩ := by
  intro x hx
  rw [Search.mark_set] at hx
  split at hx
  · cases hx
  · exact h x hx

theorem leave {p : List Nat} (h : s.Grounded edges) (hn : Ends edges node) :
    Search.Grounded edges ⟨s.marks.set! node .done, p⟩ := by
  intro x hx
  rw [Search.mark_set] at hx
  split at hx
  · next hnx => exact hnx.1 ▸ hn
  · exact h x hx

end Search.Grounded

theorem Search.start_grounded (edges : List (List Nat)) : (Search.start edges).Grounded edges := by
  intro x hx
  refine ends_of_length_le (Nat.le_of_not_lt fun hlt => ?_)
  simp [Search.start, Search.mark, Array.getD_eq_getD_getElem?, hlt] at hx

/-- A search that meets no cycle, with fuel to spare over the nodes not yet on the path, leaves
every finished node grounded and grounds the node it entered, or each successor it followed. -/
theorem search_grounds (edges : List (List Nat)) :
    (∀ fuel node (s : Search), s.Inv edges → s.Grounded edges → s.mark node = .fresh →
      (∀ a ∈ s.path.getLast?, Succ edges a node) → edges.length < fuel + s.path.length →
      (visit edges fuel node s).1 = none →
      (visit edges fuel node s).2.Grounded edges ∧ Ends edges node) ∧
    (∀ fuel nexts (s : Search), s.Inv edges → s.Grounded edges → s.path ≠ [] →
      (∀ x ∈ nexts, ∀ a ∈ s.path.getLast?, Succ edges a x) → edges.length < fuel + s.path.length →
      (explore edges fuel nexts s).1 = none →
      (explore edges fuel nexts s).2.Grounded edges ∧ ∀ x ∈ nexts, Ends edges x) := by
  refine visit.mutual_induct edges _ _ ?_ ?_ ?_ ?_ ?_ ?_ ?_ ?_
  · -- the fuel never runs out: the path is shorter than the graph
    intro node s hs _ hfresh _ hfuel
    have := hs.length_lt hfresh
    omega
  · intro node s fuel s₁ cycle s' hexp _ _ _ _ _ _ hnone
    rw [visit_succ, hexp] at hnone
    cases hnone
  · -- every successor is grounded once explored, so the node is too when it is finished
    intro node s fuel s₁ s' hexp ih hs hg hfresh hedge hfuel _
    have hres := ih (hs.enter hfresh hedge) hg.enter (by simp [s₁])
      (fun x hx a ha => by simp [s₁] at ha; exact ha ▸ hx) (by simp [s₁]; omega)
      (by rw [hexp])
    rw [hexp] at hres
    obtain ⟨hg', hsucc⟩ := hres
    have hends : Ends edges node := Ends.intro hsucc
    rw [visit_succ, hexp]
    exact ⟨hg'.leave hends, hends⟩
  · intro fuel s _ hg _ _ _ _
    rw [explore_nil]
    exact ⟨hg, by simp⟩
  · intro fuel s next rest hactive _ _ _ _ _ hnone
    rw [explore_cons, hactive] at hnone
    cases hnone
  · intro fuel s next rest hfresh cycle s' hvis _ _ _ _ _ _ hnone
    rw [explore_cons, hfresh] at hnone
    simp only [hvis] at hnone
    cases hnone
  · -- the search goes on from the state the fresh successor left, with the same path
    intro fuel s next rest hfresh s' hvis ih ihrest hs hg hne hedge hfuel hnone
    have hnext := hedge next (by simp)
    obtain ⟨hinv, hpath⟩ := ((search_keeps edges).1 fuel next s hs hfresh hnext).2 (by rw [hvis])
    obtain ⟨hg', hends⟩ := ih hs hg hfresh hnext hfuel (by rw [hvis])
    rw [hvis] at hinv hpath hg'
    rw [explore_cons, hfresh] at hnone ⊢
    simp only [hvis] at hnone ⊢
    obtain ⟨hg'', hrest⟩ := ihrest hinv hg' (hpath ▸ hne)
      (fun x hx => hpath ▸ hedge x (by simp [hx])) (hpath ▸ hfuel) hnone
    refine ⟨hg'', fun x hx => ?_⟩
    rcases List.mem_cons.mp hx with rfl | hx
    · exact hends
    · exact hrest x hx
  · -- a finished successor is grounded already
    intro fuel s next rest hdone ih hs hg hne hedge hfuel hnone
    rw [explore_cons, hdone] at hnone ⊢
    obtain ⟨hg', hrest⟩ := ih hs hg hne (fun x hx => hedge x (by simp [hx])) hfuel hnone
    refine ⟨hg', fun x hx => ?_⟩
    rcases List.mem_cons.mp hx with rfl | hx
    · exact hg x hdone
    · exact hrest x hx

/-- Searching from roots one after another without meeting a cycle grounds every root: a root is
entered when it is still fresh, and otherwise it was finished, the path being empty between
roots. -/
theorem searchFrom_grounds (roots : List Nat) :
    ∀ (s : Search), s.Inv edges → s.Grounded edges → s.path = [] →
      searchFrom edges (edges.length + 1) roots s = none → ∀ r ∈ roots, Ends edges r := by
  induction roots with
  | nil => intro _ _ _ _ _ r hr; cases hr
  | cons root roots ih =>
    intro s hs hg hp h r hr
    simp only [searchFrom] at h
    split at h
    · next hfresh =>
      have hedge : ∀ a ∈ s.path.getLast?, Succ edges a root := by simp [hp]
      have hfuel : edges.length < edges.length + 1 + s.path.length := by omega
      split at h
      · cases h
      · next s' hvis =>
        obtain ⟨hinv, hpath⟩ :=
          ((search_keeps edges).1 _ root s hs hfresh hedge).2 (by rw [hvis])
        obtain ⟨hg', hends⟩ := (search_grounds edges).1 _ root s hs hg hfresh hedge hfuel
          (by rw [hvis])
        rw [hvis] at hinv hpath hg'
        rcases List.mem_cons.mp hr with rfl | hr
        · exact hends
        · exact ih s' hinv hg' (hpath.trans hp) h r hr
    · next hnot =>
      rcases List.mem_cons.mp hr with rfl | hr
      · -- off the path and not fresh, the root is finished
        refine hg r ?_
        cases hm : s.mark r with
        | fresh => exact absurd hm hnot
        | active => simpa [hp] using (hs.active r).mp hm
        | done => rfl
      · exact ih s hs hg hp h r hr

theorem ends_of_findCycle_eq_none (h : findCycle edges = none) {a : Nat}
    (ha : a < edges.length) : Ends edges a :=
  searchFrom_grounds _ (Search.start edges) (Search.start_inv edges)
    (Search.start_grounded edges) rfl h a (List.mem_range.mpr ha)

/-- The search is a complete cycle finder: it gives a cycle exactly when the graph has one, and
what it gives is a cycle. A target outside the graph is a node without successors, so the graph
needs no bound on its edges. -/
theorem findCycle_isSome_iff_cycle (edges : List (List Nat)) :
    ((findCycle edges).isSome ↔ ∃ c, IsCycle edges c) ∧
      ∀ c, findCycle edges = some c → IsCycle edges c := by
  refine ⟨⟨fun h => ?_, fun ⟨c, hc⟩ => ?_⟩, fun c h => findCycle_isCycle h⟩
  · obtain ⟨c, hc⟩ := Option.isSome_iff_exists.mp h
    exact ⟨c, findCycle_isCycle hc⟩
  · -- a node of the cycle would be grounded were the search to meet none
    cases hf : findCycle edges with
    | some c' => rfl
    | none =>
      obtain ⟨a, ha⟩ := List.exists_mem_of_ne_nil c hc.ne_nil
      exact absurd (ends_of_findCycle_eq_none hf (hc.lt_length ha)) (hc.not_ends ha)

end Mooring.Order
