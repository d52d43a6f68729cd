namespace Mooring.Collections

/-- A map from texts, its entries in increasing key order, each key once. -/
abbrev KeyMap (β : Type) := List (String × β)

namespace KeyMap

variable {β : Type}

/-- Adds an entry, replacing the value of an equal key. -/
def insert (key : String) (v : β) : KeyMap β → KeyMap β
  | [] => [(key, v)]
  | (k, w) :: rest =>
    if key < k then (key, v) :: (k, w) :: rest
    else if key = k then (key, v) :: rest
    else (k, w) :: insert key v rest

def find? (m : KeyMap β) (key : String) : Option β := m.lookup key

/-- The map of these entries, later ones replacing earlier ones of the same key. -/
def ofList (entries : List (String × β)) : KeyMap β :=
  entries.foldl (fun m (k, v) => insert k v m) []

def insertAll (m : KeyMap β) (entries : List (String × β)) : KeyMap β :=
  entries.foldl (fun m (k, v) => insert k v m) m

/-- The entries are in increasing key order, as in every map built by `insert`. -/
def Sorted (m : KeyMap β) : Prop := m.Pairwise fun a b => a.1 < b.1

@[simp] theorem find?_nil (key : String) : find? ([] : KeyMap β) key = none := rfl

@[simp] theorem find?_cons (k key : String) (w : β) (rest : KeyMap β) :
    find? ((k, w) :: rest) key = if key = k then some w else find? rest key := by
  have : (key == k) = decide (key = k) := rfl
  simp only [find?, List.lookup_cons, this]
  by_cases h : key = k <;> simp [h]

theorem find?_insert (key k : String) (v : β) (m : KeyMap β) :
    (insert key v m).find? k = if k = key then some v else m.find? k := by
  induction m with
  | nil => simp [insert]
  | cons e rest ih =>
    obtain ⟨k', w⟩ := e
    unfold insert
    split
    · by_cases h : k = key <;> simp [h]
    · split
      · subst key
        by_cases h : k = k' <;> simp [h]
      · rename_i hne
        by_cases h : k = k'
        · subst k'
          simp [Ne.symm hne]
        · simp [h, ih]

theorem mem_insert {key : String} {v : β} {m : KeyMap β} {e : String × β}
    (h : e ∈ insert key v m) : e = (key, v) ∨ e ∈ m := by
  induction m with
  | nil => simpa [insert] using h
  | cons e' rest ih =>
    obtain ⟨k, w⟩ := e'
    unfold insert at h
    split at h
    · simpa using h
    · split at h
      · simp only [List.mem_cons] at h
        rcases h with rfl | h
        · exact .inl rfl
        · exact .inr (List.mem_cons_of_mem _ h)
      · simp only [List.mem_cons] at h
        rcases h with rfl | h
        · exact .inr List.mem_cons_self
        · rcases ih h with rfl | h
          · exact .inl rfl
          · exact .inr (List.mem_cons_of_mem _ h)

theorem Sorted.insert {m : KeyMap β} (h : m.Sorted) (key : String) (v : β) :
    (insert key v m).Sorted := by
  induction m with
  | nil => simp [KeyMap.insert, Sorted]
  | cons e rest ih =>
    obtain ⟨k, w⟩ := e
    obtain ⟨hk, hrest⟩ := List.pairwise_cons.mp h
    unfold KeyMap.insert
    split
    · rename_i hlt
      refine List.Pairwise.cons (fun b hb => ?_) h
      rcases List.mem_cons.mp hb with rfl | hb
      · exact hlt
      · exact String.lt_trans hlt (hk b hb)
    · split
      · subst key
        exact List.Pairwise.cons hk hrest
      · rename_i hlt hne
        have hgt : k < key := Std.lt_of_le_of_ne hlt (Ne.symm hne)
        refine List.Pairwise.cons (fun b hb => ?_) (ih hrest)
        rcases mem_insert hb with rfl | hb
        · exact hgt
        · exact hk b hb

theorem Sorted.nodup_keys {m : KeyMap β} (h : m.Sorted) : (m.map Prod.fst).Nodup := by
  refine List.Pairwise.map Prod.fst (fun a b hab => ?_) h
  exact fun heq => String.lt_irrefl a.1 (heq ▸ hab)

theorem find?_eq_none {m : KeyMap β} {k : String} (h : k ∉ m.map Prod.fst) : m.find? k = none := by
  induction m with
  | nil => rfl
  | cons e rest ih =>
    obtain ⟨k', w⟩ := e
    simp only [List.map_cons, List.mem_cons, not_or] at h
    simp [h.1, ih h.2]

theorem find?_insertAll (m : KeyMap β) (es : KeyMap β) (hes : (es.map Prod.fst).Nodup)
    (k : String) : (insertAll m es).find? k = (es.find? k).or (m.find? k) := by
  induction es generalizing m with
  | nil => rfl
  | cons e es ih =>
    obtain ⟨k', w⟩ := e
    obtain ⟨hk', hes⟩ := List.nodup_cons.mp hes
    rw [insertAll, List.foldl_cons, ← insertAll, ih _ hes, find?_insert]
    by_cases h : k = k'
    · subst k'
      simp [find?_eq_none hk']
    · simp [h]

end KeyMap

end Mooring.Collections
