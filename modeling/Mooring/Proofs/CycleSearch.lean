import Mooring.Order.Cycle
import Mathlib.Data.List.Chain
import Mathlib.Data.List.Nodup
import Mathlib.Data.List.Perm.Subperm
namespace Mooring.Order

/-- An edge of the graph. -/
def Succ (edges : List (List Nat)) (a b : Nat) : Prop := b ∈ successors edges a

/-- A cycle of the graph: nodes without repeats, each with an edge to the next, and the last
with an edge to the first. -/
structure IsCycle (edges : List (List Nat)) (c : List Nat) : Prop where
  ne_nil : c ≠ []
  nodup : c.Nodup
  chain : c.IsChain (Succ edges)
  closes : ∀ a ∈ c.getLast?, ∀ b ∈ c.head?, Succ edges a b

theorem IsCycle.exists_succ_mem {edges : List (List Nat)} {c : List Nat} (hc : IsCycle edges c)
    {i : Nat} (hi : i ∈ c) : ∃ j ∈ c, Succ edges i j := by
  obtain ⟨s, t, rfl⟩ := List.append_of_mem hi
  cases t with
  | nil =>
    cases hb : (s ++ [i]).head? with
    | none => simp at hb
    | some b => exact ⟨b, List.mem_of_mem_head? hb, hc.closes i (by simp) b hb⟩
  | cons a t =>
    have hchain := hc.chain.right_of_append
    exact ⟨a, by simp, (List.isChain_cons_cons.mp hchain).1⟩

theorem IsCycle.exists_succ {edges : List (List Nat)} {c : List Nat} (hc : IsCycle edges c)
    {i : Nat} (hi : i ∈ c) : ∃ j, Succ edges i j :=
  let ⟨j, _, hj⟩ := hc.exists_succ_mem hi
  ⟨j, hj⟩

/-- What the search keeps true: a mark per node, the active nodes exactly those of the path, and
the path a walk without repeats. -/
structure Search.Inv (edges : List (List Nat)) (s : Search) : Prop where
  size : s.marks.size = edges.length
  nodup : s.path.Nodup
  active : ∀ x, s.mark x = .active ↔ x ∈ s.path
  chain : s.path.IsChain (Succ edges)

section Steps

variable (edges : List (List Nat)) (fuel node : Nat) (s : Search)

theorem visit_succ :
    visit edges (fuel + 1) node s =
      match explore edges fuel (successors edges node)
          ⟨s.marks.set! node .active, s.path ++ [node]⟩ with
      | (some cycle, s) => (some cycle, s)
      | (none, s) => (none, ⟨s.marks.set! node .done, s.path.dropLast⟩) :=
  visit.eq_2 edges node s fuel

theorem explore_nil : explore edges fuel [] s = (none, s) := by
  rw [explore]

theorem explore_cons (next : Nat) (rest : List Nat) :
    explore edges fuel (next :: rest) s =
      match s.mark next with
      | .active => (some (s.path.drop (s.path.idxOf next)), s)
      | .fresh =>
        match visit edges fuel next s with
        | (some cycle, s) => (some cycle, s)
        | (none, s) => explore edges fuel rest s
      | .done => explore edges fuel rest s :=
  explore.eq_2 edges fuel s next rest

end Steps

theorem Search.mark_set (marks : Array Mark) (path : List Nat) (node x : Nat) (m : Mark) :
    ({ marks := marks.set! node m, path := path } : Search).mark x =
      if node = x ∧ node < marks.size then m else marks.getD x .done := by
  simp only [Search.mark, Array.set!_eq_setIfInBounds, Array.getD_eq_getD_getElem?, Array.getElem?_setIfInBounds]
  by_cases h : node = x
  · subst h
    by_cases h' : node < marks.size
    · simp [h']
    · simp [h']
  · simp [h]

theorem Search.mark_of_size_le {s : Search} {x : Nat} (h : s.marks.size ≤ x) :
    s.mark x = .done := by
  simp [Search.mark, Array.getD_eq_getD_getElem?, Array.getElem?_eq_none h]

namespace Search.Inv

variable {edges : List (List Nat)} {s : Search} {node : Nat}

theorem lt_of_mark_ne_done (hs : s.Inv edges) {x : Nat} (h : s.mark x ≠ .done) :
    x < edges.length :=
  hs.size ▸ Nat.lt_of_not_le fun hle => h (mark_of_size_le hle)

theorem enter (hs : s.Inv edges) (hfresh : s.mark node = .fresh)
    (hedge : ∀ a ∈ s.path.getLast?, Succ edges a node) :
    Search.Inv edges ⟨s.marks.set! node .active, s.path ++ [node]⟩ := by
  have hlt : node < s.marks.size := hs.size ▸ hs.lt_of_mark_ne_done (by simp [hfresh])
  have hnot : node ∉ s.path := fun h => by simp [(hs.active node).mpr h] at hfresh
  refine ⟨by simp [hs.size], ?_, ?_, ?_⟩
  · exact hs.nodup.append (List.nodup_singleton node) (List.disjoint_singleton.mpr hnot)
  · intro x
    rw [mark_set]
    by_cases hx : node = x
    · subst hx; simp [hlt]
    · simp only [hx, false_and, ↓reduceIte, List.mem_append, List.mem_singleton]
      rw [← Search.mark, hs.active x]
      exact ⟨Or.inl, fun h => h.resolve_right (Ne.symm hx)⟩
  · exact hs.chain.append (List.isChain_singleton node)
      fun a ha b hb => by simp at hb; exact hb ▸ hedge a ha

theorem leave {p : List Nat} (hs : s.Inv edges) (hp : s.path = p ++ [node]) :
    Search.Inv edges ⟨s.marks.set! node .done, p⟩ := by
  have hnd := hs.nodup
  rw [hp] at hnd
  have hnot : node ∉ p := by
    intro h
    exact (List.nodup_append.mp hnd).2.2 node h node (by simp) rfl
  refine ⟨by simp [hs.size], hnd.sublist (List.sublist_append_left p [node]), ?_, ?_⟩
  · intro x
    rw [mark_set]
    by_cases hx : node = x
    · subst hx
      by_cases hlt : node < s.marks.size <;> simp [hlt, hnot]
    · simp only [hx, false_and, ↓reduceIte]
      rw [← Search.mark, hs.active x, hp]
      simp [Ne.symm hx]
  · have hc := hs.chain
    rw [hp] at hc
    exact hc.left_of_append

theorem length_lt (hs : s.Inv edges) (hfresh : s.mark node = .fresh) :
    s.path.length < edges.length := by
  have hlt : node < edges.length := hs.lt_of_mark_ne_done (by simp [hfresh])
  have hnot : node ∉ s.path := fun h => by simp [(hs.active node).mpr h] at hfresh
  -- the path lies among the nodes other than `node`
  have hsub : s.path ⊆ (List.range edges.length).erase node := fun x hx =>
    (List.nodup_range.mem_erase_iff).mpr ⟨fun h => hnot (h ▸ hx),
      List.mem_range.mpr (hs.lt_of_mark_ne_done (by simp [(hs.active x).mpr hx]))⟩
  have hle := (List.subperm_of_subset hs.nodup hsub).length_le
  rw [List.length_erase_of_mem (List.mem_range.mpr hlt), List.length_range] at hle
  omega

end Search.Inv

/-- The search before it starts: every node fresh, the path empty. -/
def Search.start (edges : List (List Nat)) : Search := ⟨Array.replicate edges.length .fresh, []⟩

theorem Search.start_inv (edges : List (List Nat)) : (Search.start edges).Inv edges := by
  refine ⟨by simp [start], List.nodup_nil, fun x => ?_, List.isChain_nil⟩
  simp only [start, mark, Array.getD_eq_getD_getElem?, Array.getElem?_replicate, List.not_mem_nil,
    iff_false]
  split <;> simp

/-- What a search from `s` gives back: a cycle it meets is a cycle of the graph, and when it
meets none the invariant holds again, with the path as it was. -/
def Keeps (edges : List (List Nat)) (s : Search) (r : Option (List Nat) × Search) : Prop :=
  (∀ c, r.1 = some c → IsCycle edges c) ∧ (r.1 = none → r.2.Inv edges ∧ r.2.path = s.path)

theorem isCycle_drop_idxOf {edges : List (List Nat)} {s : Search} {next : Nat}
    (hs : s.Inv edges) (hactive : s.mark next = .active)
    (hedge : ∀ a ∈ s.path.getLast?, Succ edges a next) :
    IsCycle edges (s.path.drop (s.path.idxOf next)) := by
  have hin : next ∈ s.path := (hs.active next).mp hactive
  have hlt : s.path.idxOf next < s.path.length := List.idxOf_lt_length_iff.mpr hin
  refine ⟨?_, hs.nodup.sublist (List.drop_sublist _ _), hs.chain.drop _, ?_⟩
  · simpa [List.drop_eq_nil_iff] using hlt
  · intro a ha b hb
    rw [List.getLast?_drop, if_neg (by omega)] at ha
    rw [List.head?_drop, List.getElem?_eq_getElem hlt, List.getElem_idxOf hlt] at hb
    cases hb
    exact hedge a ha

theorem search_keeps (edges : List (List Nat)) :
    (∀ fuel node (s : Search), s.Inv edges → s.mark node = .fresh →
      (∀ a ∈ s.path.getLast?, Succ edges a node) → Keeps edges s (visit edges fuel node s)) ∧
    (∀ fuel nexts (s : Search), s.Inv edges → s.path ≠ [] →
      (∀ x ∈ nexts, ∀ a ∈ s.path.getLast?, Succ edges a x) →
      Keeps edges s (explore edges fuel nexts s)) := by
  refine visit.mutual_induct edges _ _ ?_ ?_ ?_ ?_ ?_ ?_ ?_ ?_
  · -- out of fuel: nothing changes
    intro node s hs _ _
    rw [visit.eq_1]
    refine ⟨fun c hc => ?_, fun _ => ⟨hs, rfl⟩⟩
    cases hc
  · -- the successors of the node meet a cycle
    intro node s fuel s₁ cycle s' hexp ih hs hfresh hedge
    have hk := ih (hs.enter hfresh hedge) (by simp [s₁]) fun x hx a ha => by
      simp [s₁] at ha
      exact ha ▸ hx
    rw [visit_succ, hexp]
    refine ⟨fun c hc => hk.1 c (by rw [hexp]; exact hc), fun h => ?_⟩
    cases h
  · -- the node is finished and leaves the path
    intro node s fuel s₁ s' hexp ih hs hfresh hedge
    have hk := ih (hs.enter hfresh hedge) (by simp [s₁]) fun x hx a ha => by
      simp [s₁] at ha
      exact ha ▸ hx
    obtain ⟨hinv, hpath⟩ := hk.2 (by rw [hexp])
    rw [hexp] at hinv hpath
    dsimp only [s₁] at hinv hpath
    rw [visit_succ, hexp]
    refine ⟨fun c hc => ?_, fun _ => ?_⟩
    · cases hc
    · dsimp only
      rw [hpath, List.dropLast_concat]
      exact ⟨hinv.leave hpath, rfl⟩
  · intro fuel s hs _ _
    rw [explore_nil]
    refine ⟨fun c hc => ?_, fun _ => ⟨hs, rfl⟩⟩
    cases hc
  · -- an edge back to the path
    intro fuel s next rest hactive hs _ hedge
    rw [explore_cons, hactive]
    refine ⟨fun c hc => ?_, fun h => ?_⟩
    · cases hc
      exact isCycle_drop_idxOf hs hactive (hedge next (by simp))
    · cases h
  · intro fuel s next rest hfresh cycle s' hvis ih hs _ hedge
    have hk := ih hs hfresh (hedge next (by simp))
    rw [explore_cons, hfresh]
    simp only [hvis]
    refine ⟨fun c hc => hk.1 c (by rw [hvis]; exact hc), fun h => ?_⟩
    cases h
  · -- a finished successor: the search goes on from the state it left
    intro fuel s next rest hfresh s' hvis ih ihrest hs hne hedge
    obtain ⟨hinv, hpath⟩ := (ih hs hfresh (hedge next (by simp))).2 (by rw [hvis])
    rw [hvis] at hinv hpath
    have hk := ihrest hinv (hpath ▸ hne) fun x hx => hpath ▸ hedge x (by simp [hx])
    rw [explore_cons, hfresh]
    simp only [hvis]
    exact ⟨hk.1, fun h => ⟨(hk.2 h).1, (hk.2 h).2.trans hpath⟩⟩
  · intro fuel s next rest hdone ih hs hne hedge
    rw [explore_cons, hdone]
    exact ih hs hne fun x hx => hedge x (by simp [hx])

/-- Every cycle the search reports is a cycle of the graph. -/
theorem findCycle_isCycle {edges : List (List Nat)} {c : List Nat} (h : findCycle edges = some c) :
    IsCycle edges c := by
  suffices ∀ roots (s : Search), s.Inv edges → s.path = [] →
      searchFrom edges (edges.length + 1) roots s = some c → IsCycle edges c from
    this _ _ (Search.start_inv edges) rfl h
  intro roots
  induction roots with
  | nil => intro s _ _ h; cases h
  | cons root roots ih =>
    intro s hs hp h
    simp only [searchFrom] at h
    split at h
    · next hfresh =>
      have hk := (search_keeps edges).1 (edges.length + 1) root s hs hfresh (by simp [hp])
      split at h
      · next cycle s' hvis =>
        cases h
        exact hk.1 _ (by rw [hvis])
      · next s' hvis =>
        obtain ⟨hinv, hpath⟩ := hk.2 (by rw [hvis])
        rw [hvis] at hinv hpath
        exact ih s' hinv (hpath.trans hp) h
    · exact ih s hs hp h

/-- No node of the graph is finished. -/
def Search.Unfinished (edges : List (List Nat)) (s : Search) : Prop :=
  ∀ x < edges.length, s.mark x ≠ .done

theorem Search.Unfinished.enter {edges : List (List Nat)} {s : Search} {node : Nat}
    (h : s.Unfinished edges) :
    Search.Unfinished edges ⟨s.marks.set! node .active, s.path ++ [node]⟩ := by
  intro x hx
  rw [Search.mark_set]
  split
  · simp
  · exact h x hx

/-- In a graph where every node has a successor, a search that enters a fresh node, with fuel to
spare over the nodes not yet on the path, meets a cycle: it never finishes a node, since a node is
finished only once all its successors are. -/
theorem search_meets_cycle (edges : List (List Nat))
    (hsucc : ∀ i < edges.length, ∃ j ∈ successors edges i, j < edges.length) :
    (∀ fuel node (s : Search), s.Inv edges → s.Unfinished edges → s.mark node = .fresh →
      (∀ a ∈ s.path.getLast?, Succ edges a node) → edges.length < fuel + s.path.length →
      (visit edges fuel node s).1.isSome) ∧
    (∀ fuel nexts (s : Search), s.Inv edges → s.Unfinished edges → s.path ≠ [] →
      (∀ x ∈ nexts, ∀ a ∈ s.path.getLast?, Succ edges a x) → (∃ x ∈ nexts, x < edges.length) →
      edges.length < fuel + s.path.length → (explore edges fuel nexts s).1.isSome) := by
  refine visit.mutual_induct edges _ _ ?_ ?_ ?_ ?_ ?_ ?_ ?_ ?_
  · -- the fuel never runs out: the path is shorter than the graph
    intro node s hs _ hfresh _ hfuel
    have := hs.length_lt hfresh
    omega
  · intro node s fuel s₁ cycle s' hexp _ _ _ _ _ _
    rw [visit_succ, hexp]
    rfl
  · -- finishing the node would need its in-graph successor finished
    intro node s fuel s₁ s' hexp ih hs hun hfresh hedge hfuel
    have hlt : node < edges.length := hs.lt_of_mark_ne_done (by simp [hfresh])
    have hsome := ih (hs.enter hfresh hedge) hun.enter (by simp [s₁])
      (fun x hx a ha => by simp [s₁] at ha; exact ha ▸ hx) (hsucc node hlt)
      (by simp [s₁]; omega)
    rw [hexp] at hsome
    cases hsome
  · intro fuel s _ _ _ _ hx
    simp at hx
  · intro fuel s next rest hactive _ _ _ _ _ _
    rw [explore_cons, hactive]
    rfl
  · intro fuel s next rest hfresh cycle s' hvis _ _ _ _ _ _ _
    rw [explore_cons, hfresh]
    simp [hvis]
  · intro fuel s next rest hfresh s' hvis ih _ hs hun _ hedge _ hfuel
    have hsome := ih hs hun hfresh (hedge next (by simp)) hfuel
    rw [hvis] at hsome
    cases hsome
  · -- a finished successor lies outside the graph, so one further on lies inside
    intro fuel s next rest hdone ih hs hun hne hedge hx hfuel
    rw [explore_cons, hdone]
    obtain ⟨x, hx, hxlt⟩ := hx
    have hx' : x ∈ rest := by
      rcases List.mem_cons.mp hx with rfl | hx
      · exact absurd hdone (hun x hxlt)
      · exact hx
    exact ih hs hun hne (fun y hy => hedge y (by simp [hy])) ⟨x, hx', hxlt⟩ hfuel

theorem findCycle_isSome {edges : List (List Nat)} (hne : edges ≠ [])
    (hsucc : ∀ i < edges.length, ∃ j ∈ successors edges i, j < edges.length) :
    (findCycle edges).isSome := by
  obtain ⟨n, hn⟩ : ∃ n, edges.length = n + 1 := ⟨edges.length - 1, by
    have := List.length_pos_iff.mpr hne
    omega⟩
  have hfresh : (Search.start edges).mark 0 = .fresh := by
    simp [Search.start, Search.mark, Array.getD_eq_getD_getElem?, hn]
  have hsome := (search_meets_cycle edges hsucc).1 (edges.length + 1) 0 (Search.start edges)
    (Search.start_inv edges) (fun x hx => by
      simp [Search.start, Search.mark, Array.getD_eq_getD_getElem?, hx])
    hfresh (by simp [Search.start]) (by simp [Search.start])
  unfold findCycle
  rw [hn, List.range_succ_eq_map, ← hn]
  simp only [searchFrom]
  rw [show (⟨Array.replicate edges.length .fresh, []⟩ : Search) = Search.start edges from rfl,
    if_pos hfresh]
  revert hsome
  cases visit edges (edges.length + 1) 0 (Search.start edges) with
  | mk r s' => cases r <;> simp

theorem exists_sink_of_findCycle_eq_none {edges : List (List Nat)} (h : findCycle edges = none)
    (hne : edges ≠ []) : ∃ i < edges.length, ∀ j ∈ successors edges i, edges.length ≤ j := by
  refine Classical.byContradiction fun hno => ?_
  have hsucc : ∀ i < edges.length, ∃ j ∈ successors edges i, j < edges.length := fun i hi =>
    Classical.byContradiction fun hj =>
      hno ⟨i, hi, fun j hj' => Nat.le_of_not_lt fun hlt => hj ⟨j, hj', hlt⟩⟩
  have := findCycle_isSome hne hsucc
  rw [h] at this
  cases this

end Mooring.Order
