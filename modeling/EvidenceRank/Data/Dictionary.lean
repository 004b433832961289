/-!
# Dictionaries

A dictionary holds at most one value per key and keeps its entries in ascending order of the keys.

* `insert`, `ofList`: a later entry replaces an earlier one of the same key.
* `ofList_entries`: building a dictionary from its own entries gives it back.
-/

namespace EvidenceRank

/-- Entries in strictly ascending order of their keys. -/
structure Dictionary (α : Type) where
  entries : List (String × α)
  ascending : entries.Pairwise (·.1 < ·.1)

namespace Dictionary

variable {α : Type}

theorem ext {d e : Dictionary α} (h : d.entries = e.entries) : d = e := by
  cases d; cases e; simp_all

def empty : Dictionary α := ⟨[], .nil⟩

instance : Inhabited (Dictionary α) := ⟨empty⟩

/-- Put an entry at its place in an ascending list; an entry of the same key is replaced. -/
def put (key : String) (value : α) : List (String × α) → List (String × α)
  | [] => [(key, value)]
  | e :: es =>
    if key < e.1 then (key, value) :: e :: es
    else if e.1 < key then e :: put key value es
    else (key, value) :: es

theorem mem_put {key : String} {value : α} {es : List (String × α)} {x : String × α}
    (h : x ∈ put key value es) : x = (key, value) ∨ x ∈ es := by
  induction es with
  | nil => simpa [put] using h
  | cons e es ih =>
    simp only [put] at h
    split at h
    · simpa using h
    · split at h
      · rcases List.mem_cons.1 h with h | h
        · exact .inr (by simp [h])
        · rcases ih h with h | h
          · exact .inl h
          · exact .inr (by simp [h])
      · rcases List.mem_cons.1 h with h | h
        · exact .inl h
        · exact .inr (by simp [h])

theorem put_ascending {key : String} {value : α} {es : List (String × α)}
    (h : es.Pairwise (·.1 < ·.1)) : (put key value es).Pairwise (·.1 < ·.1) := by
  induction es with
  | nil => simp [put]
  | cons e es ih =>
    obtain ⟨he, hes⟩ := List.pairwise_cons.1 h
    simp only [put]
    split
    · next hlt =>
      refine List.pairwise_cons.2 ⟨fun x hx => ?_, h⟩
      rcases List.mem_cons.1 hx with hx | hx
      · exact hx ▸ hlt
      · exact String.lt_trans hlt (he x hx)
    · next hnlt =>
      split
      · next hlt =>
        refine List.pairwise_cons.2 ⟨fun x hx => ?_, ih hes⟩
        rcases mem_put hx with hx | hx
        · exact hx ▸ hlt
        · exact he x hx
      · next hngt =>
        have heq : key = e.1 := String.le_antisymm (String.not_lt.1 hngt) (String.not_lt.1 hnlt)
        refine List.pairwise_cons.2 ⟨fun x hx => ?_, hes⟩
        exact heq ▸ he x hx

/-- Store a value under a key. -/
def insert (d : Dictionary α) (key : String) (value : α) : Dictionary α :=
  ⟨put key value d.entries, put_ascending d.ascending⟩

/-- The dictionary of a list of entries, of which the last of each key counts. -/
def ofList (es : List (String × α)) : Dictionary α :=
  es.foldl (fun d e => d.insert e.1 e.2) empty

theorem put_append {key : String} {value : α} {es : List (String × α)}
    (h : ∀ e ∈ es, e.1 < key) : put key value es = es ++ [(key, value)] := by
  induction es with
  | nil => rfl
  | cons e es ih =>
    have he : e.1 < key := h e (by simp)
    have hn : ¬ key < e.1 := fun hk => String.lt_irrefl _ (String.lt_trans he hk)
    simp [put, hn, he, ih fun x hx => h x (by simp [hx])]

theorem foldl_insert_entries (es : List (String × α)) (d : Dictionary α)
    (h : (d.entries ++ es).Pairwise (·.1 < ·.1)) :
    (es.foldl (fun d e => d.insert e.1 e.2) d).entries = d.entries ++ es := by
  induction es generalizing d with
  | nil => simp
  | cons e es ih =>
    have hput : (d.insert e.1 e.2).entries = d.entries ++ [e] :=
      put_append fun x hx => (List.pairwise_append.1 h).2.2 x hx e (by simp)
    rw [List.foldl_cons, ih, hput]
    · simp
    · rw [hput]; simpa using h

theorem ofList_entries (d : Dictionary α) : ofList d.entries = d :=
  ext (by simpa [ofList, empty] using foldl_insert_entries d.entries empty d.ascending)

end Dictionary
end EvidenceRank
