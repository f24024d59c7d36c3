import Mathlib.Data.List.Induction
import Mathlib.Data.List.Perm.Subperm
import TankArena.Table

/-!
# Tables built from lists

A table holds nothing but the pairs it was built from, and holds all of them in their order when
each name comes once. Inserting pairs into a table leaves its names where they are and adds the new
ones after them; the pairs win over the table.
-/

namespace TankArena

variable {α : Type}

theorem mem_of_mem_putEntry {name : String} {value : α} {e : String × α} {es : List (String × α)}
    (h : e ∈ putEntry name value es) : e = (name, value) ∨ e ∈ es := by
  induction es with
  | nil => exact .inl (List.mem_singleton.mp h)
  | cons d es ih =>
      rw [putEntry] at h
      split at h
      · rcases List.mem_cons.mp h with h | h
        · exact .inl h
        · exact .inr (List.mem_cons_of_mem _ h)
      · rcases List.mem_cons.mp h with rfl | h
        · exact .inr List.mem_cons_self
        · exact (ih h).imp_right (List.mem_cons_of_mem _)

theorem putEntry_of_notMem {name : String} {value : α} {es : List (String × α)}
    (h : name ∉ es.map Prod.fst) : putEntry name value es = es ++ [(name, value)] := by
  induction es with
  | nil => rfl
  | cons d es ih =>
      simp only [List.map_cons, List.mem_cons, not_or] at h
      rw [putEntry, if_neg fun he => h.1 he.symm, ih h.2, List.cons_append]

theorem keys_putEntry (name : String) (value : α) (es : List (String × α)) :
    (putEntry name value es).map Prod.fst =
      if name ∈ es.map Prod.fst then es.map Prod.fst else es.map Prod.fst ++ [name] := by
  induction es with
  | nil => rfl
  | cons d es ih =>
      rw [putEntry]
      by_cases hd : d.1 = name
      · simp [hd]
      · have hne : name ≠ d.1 := fun h => hd h.symm
        rw [if_neg hd, List.map_cons, ih]
        simp only [List.map_cons, List.mem_cons, hne, false_or]
        split <;> rfl

theorem lookup_putEntry (name other : String) (value : α) (es : List (String × α)) :
    (putEntry name value es).lookup other = if other = name then some value else es.lookup other := by
  induction es with
  | nil =>
      rw [putEntry, List.lookup_cons]
      by_cases h : other = name
      · simp [h]
      · simp [h, beq_eq_false_iff_ne.mpr h]
  | cons d es ih =>
      rw [putEntry]
      by_cases hd : d.1 = name
      · rw [if_pos hd, List.lookup_cons, List.lookup_cons, hd]
        by_cases h : other = name
        · simp [h]
        · simp [h, beq_eq_false_iff_ne.mpr h]
      · rw [if_neg hd, List.lookup_cons, List.lookup_cons, ih]
        by_cases h : other = d.1
        · simp [h, hd]
        · simp [beq_eq_false_iff_ne.mpr h]

theorem mem_of_lookup {es : List (String × α)} {name : String} {value : α}
    (h : es.lookup name = some value) : (name, value) ∈ es := by
  induction es with
  | nil => cases h
  | cons d es ih =>
      rw [List.lookup_cons] at h
      split at h
      · rename_i hname
        cases h
        rw [eq_of_beq hname]
        exact List.mem_cons_self
      · exact List.mem_cons_of_mem _ (ih h)

namespace Table

theorem mem_entries_insertAll {t : Table α} {pairs : List (String × α)} {e : String × α}
    (h : e ∈ (t.insertAll pairs).entries) : e ∈ t.entries ∨ e ∈ pairs := by
  induction pairs generalizing t with
  | nil => exact .inl h
  | cons d pairs ih =>
      rcases ih h with h | h
      · rcases mem_of_mem_putEntry h with rfl | h
        · exact .inr List.mem_cons_self
        · exact .inl h
      · exact .inr (List.mem_cons_of_mem _ h)

theorem mem_entries_ofList {pairs : List (String × α)} {e : String × α}
    (h : e ∈ (ofList pairs).entries) : e ∈ pairs := by
  rcases mem_entries_insertAll h with h | h
  · cases h
  · exact h

theorem entries_insertAll {t : Table α} {pairs : List (String × α)}
    (h : ((t.entries ++ pairs).map Prod.fst).Nodup) :
    (t.insertAll pairs).entries = t.entries ++ pairs := by
  induction pairs generalizing t with
  | nil => exact (List.append_nil _).symm
  | cons e pairs ih =>
      have hnot : e.1 ∉ t.entries.map Prod.fst := by
        rw [List.map_append, List.nodup_append] at h
        exact fun hm => h.2.2 _ hm _ (by simp) rfl
      have hput : (t.insert e.1 e.2).entries = t.entries ++ [e] := putEntry_of_notMem hnot
      have hrest : (t.insert e.1 e.2).entries ++ pairs = t.entries ++ e :: pairs := by
        rw [hput, List.append_assoc, List.singleton_append]
      rw [← hrest] at h ⊢
      exact ih h

theorem entries_ofList {pairs : List (String × α)} (h : (pairs.map Prod.fst).Nodup) :
    (ofList pairs).entries = pairs := entries_insertAll h

theorem ext_entries {t u : Table α} (h : t.entries = u.entries) : t = u := by
  cases t; cases u; cases h; rfl

theorem get?_of_mem {t : Table α} {e : String × α} (h : e ∈ t.entries) : t.get? e.1 = some e.2 := by
  obtain ⟨es, hes⟩ := t
  simp only [get?]
  simp only at h
  induction es with
  | nil => cases h
  | cons d es ih =>
      rw [List.map_cons, List.nodup_cons] at hes
      rcases List.mem_cons.mp h with rfl | h
      · rw [List.lookup_cons_self]
      · have hne : (e.1 == d.1) = false := by
          rw [beq_eq_false_iff_ne]
          intro he
          exact hes.1 (he ▸ List.mem_map_of_mem h)
        rw [List.lookup_cons, hne]
        exact ih hes.2 h

theorem mem_of_get? {t : Table α} {name : String} {value : α} (h : t.get? name = some value) :
    (name, value) ∈ t.entries := mem_of_lookup h

theorem mem_keys_of_get? {t : Table α} {name : String} {value : α}
    (h : t.get? name = some value) : name ∈ t.keys := List.mem_map_of_mem (mem_of_get? h)

/-- Names of a table that are all different are no more than the table has. -/
theorem length_le_size {t : Table α} {names : List String} (hnodup : names.Nodup)
    (h : names ⊆ t.keys) : names.length ≤ t.size := by
  have hle := (hnodup.subperm h).length_le
  rwa [keys, List.length_map] at hle

/-! ## Inserting -/

theorem keys_insert (t : Table α) (name : String) (value : α) :
    (t.insert name value).keys = if name ∈ t.keys then t.keys else t.keys ++ [name] :=
  keys_putEntry name value t.entries

theorem get?_insert (t : Table α) (name other : String) (value : α) :
    (t.insert name value).get? other = if other = name then some value else t.get? other :=
  lookup_putEntry name other value t.entries

theorem insertAll_append (t : Table α) (ps qs : List (String × α)) :
    t.insertAll (ps ++ qs) = (t.insertAll ps).insertAll qs := List.foldl_append

theorem insertAll_concat (t : Table α) (ps : List (String × α)) (e : String × α) :
    t.insertAll (ps ++ [e]) = (t.insertAll ps).insert e.1 e.2 := insertAll_append t ps [e]

theorem ofList_append (ps qs : List (String × α)) : ofList (ps ++ qs) = (ofList ps).insertAll qs :=
  insertAll_append empty ps qs

theorem ofList_concat (ps : List (String × α)) (e : String × α) :
    ofList (ps ++ [e]) = (ofList ps).insert e.1 e.2 := ofList_append ps [e]

theorem mem_keys_ofList_iff {pairs : List (String × α)} {name : String} :
    name ∈ (ofList pairs).keys ↔ name ∈ pairs.map Prod.fst := by
  induction pairs using List.reverseRecOn with
  | nil => exact Iff.rfl
  | append_singleton pairs e ih =>
      rw [ofList_concat, keys, insert, mem_keys_putEntry, List.map_append, List.mem_append, ← ih, keys]
      simp [or_comm]

/-- The names of the table stay where they are, and the new ones come after them in their order. -/
theorem keys_insertAll (t : Table α) (pairs : List (String × α)) :
    (t.insertAll pairs).keys = t.keys ++ (ofList pairs).keys.filter (· ∉ t.keys) := by
  induction pairs using List.reverseRecOn with
  | nil => exact (List.append_nil _).symm
  | append_singleton pairs e ih =>
      rw [insertAll_concat, ofList_concat, keys_insert, keys_insert, ih]
      by_cases ht : e.1 ∈ t.keys <;> by_cases hp : e.1 ∈ (ofList pairs).keys <;>
        simp [ht, hp, List.filter_append]

/-- The last pair with a name counts, and the table where there is none. -/
theorem get?_insertAll (t : Table α) (pairs : List (String × α)) (name : String) :
    (t.insertAll pairs).get? name = ((ofList pairs).get? name).or (t.get? name) := by
  induction pairs using List.reverseRecOn with
  | nil => rfl
  | append_singleton pairs e ih =>
      rw [insertAll_concat, ofList_concat, get?_insert, get?_insert, ih]
      split <;> rfl

/-- With the same names in the same places, agreement leaves no choice. -/
theorem agrees_iff_of_keys_eq [BEq α] [LawfulBEq α] {t u : Table α} (h : t.keys = u.keys) :
    t.agrees u = true ↔ u = t := by
  have hlen : t.entries.length = u.entries.length := by
    have := congrArg List.length h
    simpa [keys] using this
  simp only [agrees, size, hlen, beq_self_eq_true, Bool.true_and, List.all_eq_true, beq_iff_eq]
  constructor
  · intro hall
    refine (ext_entries (List.ext_getElem hlen fun i hi hi' => ?_)).symm
    have hfst : t.entries[i].1 = u.entries[i].1 := by
      have := List.getElem_of_eq h (i := i) (by simpa [keys] using hi)
      simpa [keys] using this
    have hsnd := hall _ (List.getElem_mem hi)
    rw [hfst, get?_of_mem (List.getElem_mem hi')] at hsnd
    exact Prod.ext hfst (Option.some.inj hsnd).symm
  · rintro rfl e he
    exact get?_of_mem he

end Table

end TankArena
