import Mooring.Order.Resolve
namespace Mooring.Order

variable {α : Type} [Dependent α]

/-- `x` can start once the containers known by the names in `known` run. -/
def Startable (existing known : List String) (x : α) : Prop :=
  ∀ d ∈ Dependent.dependencies x, d ∈ existing ∨ d ∈ known

/-- Each container can start after those before it, with the names in `known` known before all
of them. -/
def StartsAfter (existing : List String) : List String → List α → Prop
  | _, [] => True
  | known, x :: xs => Startable existing known x ∧ StartsAfter existing (known ++ knownAs x) xs

/-- Each dependency of each container exists, or is the name or alias of a container before it. -/
def IsStartOrder (existing : List String) (xs : List α) : Prop :=
  ∀ pre x post, xs = pre ++ x :: post → ∀ d ∈ Dependent.dependencies x,
    d ∈ existing ∨ ∃ y ∈ pre, d = Dependent.name y ∨ Dependent.aliasName y = some d

section Lemmas

variable {existing known known' : List String} {x : α} {xs ys : List α}

theorem mem_knownAs {d : String} : d ∈ knownAs x ↔ d = Dependent.name x ∨ Dependent.aliasName x = some d := by
  simp [knownAs]

theorem isReady_iff : isReady existing known x = true ↔ Startable existing known x := by
  simp [isReady, Startable, or_comm]

theorem Startable.mono (h : Startable existing known x) (hk : known ⊆ known') :
    Startable existing known' x := by
  intro d hd
  rcases h d hd with he | hk'
  · exact .inl he
  · exact .inr (hk hk')

theorem startable_of_dependencies_eq_nil (h : Dependent.dependencies x = []) :
    Startable existing known x := by
  intro d hd
  simp [h] at hd

theorem startsAfter_append :
    StartsAfter existing known (xs ++ ys) ↔
      StartsAfter existing known xs ∧ StartsAfter existing (known ++ xs.flatMap knownAs) ys := by
  induction xs generalizing known with
  | nil => simp [StartsAfter]
  | cons y xs ih => simp [StartsAfter, ih, and_assoc]

theorem startsAfter_iff :
    StartsAfter existing known xs ↔
      ∀ pre x post, xs = pre ++ x :: post → Startable existing (known ++ pre.flatMap knownAs) x := by
  induction xs generalizing known with
  | nil => simp [StartsAfter]
  | cons y ys ih =>
    constructor
    · rintro ⟨hy, hys⟩ pre x post h
      cases pre with
      | nil =>
        obtain ⟨rfl, rfl⟩ := List.cons.inj h
        simpa using hy
      | cons z pre =>
        simp only [List.cons_append, List.cons.injEq] at h
        obtain ⟨rfl, h⟩ := h
        simpa [List.append_assoc] using ih.mp hys pre x post h
    · intro h
      refine ⟨by simpa using h [] y ys rfl, ih.mpr fun pre x post hp => ?_⟩
      simpa [List.append_assoc] using h (y :: pre) x post (by simp [hp])

theorem isStartOrder_iff : IsStartOrder existing xs ↔ StartsAfter existing [] xs := by
  rw [startsAfter_iff]
  simp only [IsStartOrder, Startable, List.nil_append, List.mem_flatMap, mem_knownAs]

end Lemmas

theorem pass_spec (existing : List String) (xs : List α) (known : List String) :
    let r := pass existing xs known
    (r.1 ++ r.2.1).Perm xs ∧ r.2.2 = known ++ r.1.flatMap knownAs ∧
      StartsAfter existing known r.1 ∧ (r.1 = [] → ∀ x ∈ xs, ¬Startable existing known x) := by
  induction xs generalizing known with
  | nil => simp [pass, StartsAfter]
  | cons x xs ih =>
    by_cases hr : isReady existing known x = true
    · obtain ⟨hperm, hknown, hstarts, -⟩ := ih (known ++ knownAs x)
      simp only [pass, hr, ↓reduceIte]
      refine ⟨hperm.cons x, by simp [hknown], ⟨isReady_iff.mp hr, hstarts⟩, by simp⟩
    · obtain ⟨hperm, hknown, hstarts, hstuck⟩ := ih known
      simp only [pass, hr, Bool.false_eq_true, ↓reduceIte]
      refine ⟨List.perm_middle.trans (hperm.cons x), hknown, hstarts, fun h y hy => ?_⟩
      rcases List.mem_cons.mp hy with rfl | hy
      · exact fun hs => hr (isReady_iff.mpr hs)
      · exact hstuck h y hy

/-- Every order the passes give extends the containers already ordered with an order of the
waiting ones. -/
theorem passes_sound (existing : List String) (fuel : Nat) :
    ∀ (remaining : List α) (known : List String) (ordered out : List α),
      passes existing fuel remaining known ordered = .ok out →
      ∃ rest, out = ordered ++ rest ∧ rest.Perm remaining ∧ StartsAfter existing known rest := by
  induction fuel with
  | zero =>
    intro remaining known ordered out h
    cases remaining with
    | nil =>
      simp only [passes, Except.ok.injEq] at h
      exact ⟨[], by simp [h], .refl _, trivial⟩
    | cons x xs => simp [passes] at h
  | succ fuel ih =>
    intro remaining known ordered out h
    cases remaining with
    | nil =>
      simp only [passes, Except.ok.injEq] at h
      exact ⟨[], by simp [h], .refl _, trivial⟩
    | cons x xs =>
      obtain ⟨hperm, hknown, hstarts, -⟩ := pass_spec existing (x :: xs) known
      simp only [passes] at h
      generalize pass existing (x :: xs) known = r at h hperm hknown hstarts
      obtain ⟨placed, blocked, known'⟩ := r
      simp only at hperm hknown hstarts
      cases hp : placed.isEmpty
      · simp only [hp, Bool.false_eq_true, ↓reduceIte] at h
        obtain ⟨rest, rfl, hrest, hafter⟩ := ih blocked known' (ordered ++ placed) out h
        refine ⟨placed ++ rest, by simp, (hrest.append_left placed).trans hperm, ?_⟩
        exact startsAfter_append.mpr ⟨hstarts, hknown ▸ hafter⟩
      · simp [hp] at h

theorem exists_startable {existing : List String} {ordered remaining : List α} :
    ∀ (p : List α) (known : List String), StartsAfter existing known p →
      known ⊆ ordered.flatMap knownAs → (∀ y ∈ p, y ∈ ordered ∨ y ∈ remaining) →
      (∃ y ∈ p, y ∈ remaining) → ∃ x ∈ remaining, Startable existing (ordered.flatMap knownAs) x
  | [], _, _, _, _, ⟨_, hy, _⟩ => absurd hy List.not_mem_nil
  | y :: p, known, ⟨hy, hp⟩, hk, hall, hex => by
    by_cases hr : y ∈ remaining
    · exact ⟨y, hr, hy.mono hk⟩
    · have hord : y ∈ ordered := (hall y (by simp)).resolve_right hr
      have hk' : known ++ knownAs y ⊆ ordered.flatMap knownAs := by
        intro d hd
        rcases List.mem_append.mp hd with hd | hd
        · exact hk hd
        · exact List.mem_flatMap.mpr ⟨y, hord, hd⟩
      obtain ⟨z, hz, hzr⟩ := hex
      rcases List.mem_cons.mp hz with rfl | hz
      · exact absurd hzr hr
      · exact exists_startable p _ hp hk' (fun z hz => hall z (by simp [hz])) ⟨z, hz, hzr⟩

/-- While some start order of all the containers exists, the passes never get stuck, and the
fuel of one pass per waiting container is enough. -/
theorem passes_complete (existing : List String) (fuel : Nat) :
    ∀ (remaining ordered : List α), remaining.length < fuel →
      (∃ p, p.Perm (ordered ++ remaining) ∧ StartsAfter existing [] p) →
      ∃ out, passes existing fuel remaining (ordered.flatMap knownAs) ordered = .ok out := by
  induction fuel with
  | zero => intro remaining ordered h; omega
  | succ fuel ih =>
    intro remaining ordered hlen ⟨p, hp, hstarts⟩
    cases remaining with
    | nil => exact ⟨ordered, by simp [passes]⟩
    | cons x xs =>
      obtain ⟨hperm, hknown, -, hstuck⟩ := pass_spec existing (x :: xs) (ordered.flatMap knownAs)
      simp only [passes]
      generalize pass existing (x :: xs) (ordered.flatMap knownAs) = r at hperm hknown hstuck ⊢
      obtain ⟨placed, blocked, known'⟩ := r
      simp only at hperm hknown hstuck
      cases hpl : placed.isEmpty
      · simp only [Bool.false_eq_true, ↓reduceIte]
        have hne : placed ≠ [] := by simpa using hpl
        have hlen' : blocked.length < fuel := by
          have := hperm.length_eq
          have := List.length_pos_iff.mpr hne
          simp only [List.length_append, List.length_cons] at *
          omega
        subst hknown
        rw [← List.flatMap_append]
        exact ih blocked (ordered ++ placed) hlen'
          ⟨p, hp.trans (by simpa using (hperm.append_left ordered).symm), hstarts⟩
      · exfalso
        have hmem : ∀ y ∈ p, y ∈ ordered ∨ y ∈ x :: xs := fun y hy =>
          List.mem_append.mp (hp.mem_iff.mp hy)
        obtain ⟨z, hz, hs⟩ := exists_startable p [] hstarts (by simp) hmem
          ⟨x, hp.mem_iff.mpr (by simp), by simp⟩
        exact hstuck (by simpa using hpl) z hz hs

theorem startsAfter_free (existing : List String) (specs : List α) :
    StartsAfter existing [] (specs.filter fun x => (Dependent.dependencies x).isEmpty) := by
  rw [startsAfter_iff]
  intro pre x post h
  have hx : x ∈ specs.filter fun x => (Dependent.dependencies x).isEmpty := by simp [h]
  exact startable_of_dependencies_eq_nil (by simpa using (List.mem_filter.mp hx).2)

theorem order_sound {existing : List String} {specs out : List α}
    (h : order existing specs = .ok out) : out.Perm specs ∧ IsStartOrder existing out := by
  obtain ⟨rest, rfl, hrest, hafter⟩ := passes_sound existing _ _ _ _ out h
  exact ⟨(hrest.append_left _).trans (List.filter_append_perm _ specs),
    isStartOrder_iff.mpr (startsAfter_append.mpr ⟨startsAfter_free existing specs,
      by simpa using hafter⟩)⟩

/-- The start order is a sound and complete dependency sort: it succeeds exactly when some order
of the containers starts each after its dependencies, and what it gives is such an order of
exactly the containers given. -/
theorem order_ok_iff_exists_startOrder (existing : List String) (specs : List α) :
    ((∃ out, order existing specs = .ok out) ↔ ∃ p, p.Perm specs ∧ IsStartOrder existing p) ∧
      ∀ out, order existing specs = .ok out → out.Perm specs ∧ IsStartOrder existing out := by
  refine ⟨⟨fun ⟨out, h⟩ => ⟨out, order_sound h⟩, fun ⟨p, hp, hvalid⟩ => ?_⟩,
    fun _ => order_sound⟩
  exact passes_complete existing _ _ _ (Nat.lt_succ_self _)
    ⟨p, hp.trans (List.filter_append_perm _ specs).symm, isStartOrder_iff.mp hvalid⟩

end Mooring.Order
