import Mathlib.Data.List.Induction
import Mathlib.Data.List.Nodup
import WikiText.Dictionary

/-!
# Dictionaries from lists

Entries that are given one after the other leave each key once, where it first came and with its
last value. Entries whose keys differ are left as they are.
-/

namespace WikiText.Dictionary

variable {α : Type}

theorem ofList_concat (es : List (Text × α)) (e : Text × α) :
    ofList (es ++ [e]) = (ofList es).insert e.1 e.2 := by
  rw [ofList, List.foldl_append]
  rfl

theorem nodup_keys_insert {d : Dictionary α} {k : Text} {v : α} (h : d.keys.Nodup) :
    (d.insert k v).keys.Nodup := by
  rw [keys_insert]
  split
  · exact h
  · next hk =>
    rw [← List.concat_eq_append]
    exact h.concat hk

theorem nodup_keys_ofList (es : List (Text × α)) : (ofList es).keys.Nodup := by
  induction es using List.reverseRecOn with
  | nil => exact List.nodup_nil
  | append_singleton es e ih => rw [ofList_concat]; exact nodup_keys_insert ih

/-- The keys stand in the order of their first entries. -/
theorem keys_ofList (es : List (Text × α)) : (ofList es).keys = (es.map Prod.fst).eraseDups := by
  induction es using List.reverseRecOn with
  | nil => rfl
  | append_singleton es e ih =>
    rw [ofList_concat, keys_insert, ih, List.map_append, List.eraseDups_append]
    split
    · next h => simp [List.removeAll, List.mem_eraseDups.1 h]
    · next h => simp [List.removeAll, mt List.mem_eraseDups.2 h, List.eraseDups_cons]

/-- A key has the value of its last entry. -/
theorem get?_ofList (es : List (Text × α)) (k : Text) :
    (ofList es).get? k = es.reverse.lookup k := by
  induction es using List.reverseRecOn with
  | nil => rfl
  | append_singleton es e ih =>
    obtain ⟨k', v⟩ := e
    rw [ofList_concat, get?_insert, ih, List.reverse_concat, List.lookup_cons]
    by_cases h : k = k'
    · rw [if_pos h, beq_iff_eq.2 h]
    · rw [if_neg h, beq_eq_false_iff_ne.2 h]

theorem mem_of_mem_entries_ofList {es : List (Text × α)} {e : Text × α}
    (h : e ∈ (ofList es).entries) : e ∈ es := by
  induction es using List.reverseRecOn with
  | nil => exact h
  | append_singleton es e' ih =>
    rw [ofList_concat] at h
    rw [List.mem_append, List.mem_singleton]
    exact (mem_entries_insert h).symm.imp_left ih

theorem mem_of_get?_ofList {es : List (Text × α)} {k : Text} {v : α}
    (h : (ofList es).get? k = some v) : (k, v) ∈ es := by
  rw [get?_ofList, List.lookup_eq_some_iff] at h
  obtain ⟨before, after, hes, -⟩ := h
  refine List.mem_reverse.1 ?_
  rw [hes]
  exact List.mem_append_right _ List.mem_cons_self

theorem contains_ofList {es : List (Text × α)} {k : Text} :
    (ofList es).contains k = true ↔ k ∈ es.map Prod.fst := by
  rw [contains_iff, keys_ofList, List.mem_eraseDups]

theorem entries_ofList {es : List (Text × α)} (h : (es.map Prod.fst).Nodup) :
    (ofList es).entries = es := by
  induction es using List.reverseRecOn with
  | nil => rfl
  | append_singleton es e ih =>
    rw [List.map_append, List.nodup_append] at h
    have hes := ih h.1
    rw [ofList_concat, entries_insert_of_not_mem, hes]
    intro hmem
    rw [keys, hes] at hmem
    exact h.2.2 _ hmem _ (List.mem_singleton.2 rfl) rfl

/-- A dictionary is read back from its entries. -/
theorem ofList_entries {d : Dictionary α} (h : d.keys.Nodup) : ofList d.entries = d := by
  obtain ⟨es⟩ := d
  exact congrArg Dictionary.mk (entries_ofList h)

end WikiText.Dictionary
