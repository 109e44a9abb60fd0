import WikiText.Text.Basic

/-! # Dictionaries in the order of insertion -/

namespace WikiText

/-- Values under texts as keys. A key keeps the place where it first came, and has the value it
was given last. -/
structure Dictionary (α : Type) where
  entries : List (Text × α) := []
deriving Repr

namespace Dictionary

variable {α : Type}

instance : Inhabited (Dictionary α) := ⟨{}⟩

def keys (d : Dictionary α) : List Text := d.entries.map Prod.fst

private def insertEntry (k : Text) (v : α) : List (Text × α) → List (Text × α)
  | [] => [(k, v)]
  | e :: es => if e.1 = k then (k, v) :: es else e :: insertEntry k v es

/-- Give a key its value. -/
def insert (d : Dictionary α) (k : Text) (v : α) : Dictionary α := ⟨insertEntry k v d.entries⟩

private def getEntry? (k : Text) : List (Text × α) → Option α
  | [] => none
  | e :: es => if e.1 = k then some e.2 else getEntry? k es

def get? (d : Dictionary α) (k : Text) : Option α := getEntry? k d.entries

def contains (d : Dictionary α) (k : Text) : Bool := (d.get? k).isSome

/-- The entries given one after the other. -/
def ofList (es : List (Text × α)) : Dictionary α := es.foldl (fun d e => d.insert e.1 e.2) {}

@[simp] theorem get?_empty (k : Text) : ({} : Dictionary α).get? k = none := rfl

private theorem getEntry?_insertEntry (k k' : Text) (v : α) (es : List (Text × α)) :
    getEntry? k' (insertEntry k v es) = if k' = k then some v else getEntry? k' es := by
  induction es with
  | nil => simp only [insertEntry, getEntry?, @eq_comm _ k]
  | cons e es ih =>
    by_cases he : e.1 = k
    · simp only [insertEntry, if_pos he, getEntry?, @eq_comm _ k]
      split
      · rfl
      · next h => rw [if_neg fun h' => h (h'.symm.trans he)]
    · by_cases h : e.1 = k'
      · have hk : k' ≠ k := fun e' => he (h.trans e')
        simp [insertEntry, getEntry?, h, hk]
      · simp [insertEntry, getEntry?, he, h, ih]

@[simp] theorem get?_insert (d : Dictionary α) (k k' : Text) (v : α) :
    (d.insert k v).get? k' = if k' = k then some v else d.get? k' :=
  getEntry?_insertEntry k k' v d.entries

@[simp] theorem contains_insert (d : Dictionary α) (k k' : Text) (v : α) :
    (d.insert k v).contains k' = (k' = k || d.contains k') := by
  by_cases h : k' = k <;> simp [contains, h]

private theorem keys_insertEntry (k : Text) (v : α) (es : List (Text × α)) :
    (insertEntry k v es).map Prod.fst =
      if k ∈ es.map Prod.fst then es.map Prod.fst else es.map Prod.fst ++ [k] := by
  induction es with
  | nil => simp [insertEntry]
  | cons e es ih =>
    by_cases he : e.1 = k
    · simp [insertEntry, he]
    · have hk : ¬ k = e.1 := fun h => he h.symm
      rw [insertEntry, if_neg he, List.map_cons, ih]
      by_cases hm : k ∈ es.map Prod.fst
      · rw [if_pos hm, if_pos (by simp only [List.map_cons, List.mem_cons]; exact .inr hm)]; rfl
      · rw [if_neg hm, if_neg (by simp only [List.map_cons, List.mem_cons, not_or]; exact ⟨hk, hm⟩)]
        rfl

theorem keys_insert (d : Dictionary α) (k : Text) (v : α) :
    (d.insert k v).keys = if k ∈ d.keys then d.keys else d.keys ++ [k] :=
  keys_insertEntry k v d.entries

private theorem insertEntry_of_not_mem {k : Text} (v : α) {es : List (Text × α)}
    (h : k ∉ es.map Prod.fst) : insertEntry k v es = es ++ [(k, v)] := by
  induction es with
  | nil => rfl
  | cons e es ih =>
    rw [List.map_cons, List.mem_cons, not_or] at h
    rw [insertEntry, if_neg fun he => h.1 he.symm, ih h.2, List.cons_append]

theorem entries_insert_of_not_mem {d : Dictionary α} {k : Text} (v : α) (h : k ∉ d.keys) :
    (d.insert k v).entries = d.entries ++ [(k, v)] :=
  insertEntry_of_not_mem v h

private theorem mem_insertEntry {k : Text} {v : α} {e : Text × α} {es : List (Text × α)}
    (h : e ∈ insertEntry k v es) : e = (k, v) ∨ e ∈ es := by
  induction es with
  | nil => exact .inl (List.mem_singleton.1 h)
  | cons e' es ih =>
    rw [insertEntry] at h
    split at h
    · exact (List.mem_cons.1 h).imp_right (List.mem_cons_of_mem e')
    · rcases List.mem_cons.1 h with rfl | h
      · exact .inr List.mem_cons_self
      · exact (ih h).imp_right (List.mem_cons_of_mem e')

theorem mem_entries_insert {d : Dictionary α} {k : Text} {v : α} {e : Text × α}
    (h : e ∈ (d.insert k v).entries) : e = (k, v) ∨ e ∈ d.entries :=
  mem_insertEntry h

private theorem mem_map_fst_iff {k : Text} {es : List (Text × α)} :
    k ∈ es.map Prod.fst ↔ ∃ v, getEntry? k es = some v := by
  induction es with
  | nil => exact iff_of_false List.not_mem_nil fun ⟨_, h⟩ => Option.some_ne_none _ h.symm
  | cons e es ih =>
    rw [List.map_cons, List.mem_cons, getEntry?]
    split
    · next h => exact iff_of_true (.inl h.symm) ⟨e.2, rfl⟩
    · next h =>
      exact ⟨fun hk => ih.1 (hk.resolve_left fun hk => h hk.symm), fun hk => .inr (ih.2 hk)⟩

theorem contains_iff {d : Dictionary α} {k : Text} : d.contains k = true ↔ k ∈ d.keys :=
  Option.isSome_iff_exists.trans mem_map_fst_iff.symm

end Dictionary

end WikiText
