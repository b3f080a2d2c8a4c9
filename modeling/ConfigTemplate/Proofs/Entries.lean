import ConfigTemplate.Entries

/-!
# Entries with distinct keys

A key that is not present yet is stored at the end, so pairs with distinct keys are kept in their
order. Entries with distinct keys are given by their keys in order and the value under each.
-/

namespace ConfigTemplate.Entries

variable {κ α : Type} [DecidableEq κ]

theorem put_of_not_mem {key : κ} {entries : List (κ × α)} (h : key ∉ keys entries) (value : α) :
    put key value entries = entries ++ [(key, value)] := by
  fun_induction put key value entries with
  | case1 => rfl
  | case2 => simp at h
  | case3 k v rest hk ih =>
    simp only [keys_cons, List.mem_cons, not_or] at h
    rw [ih h.2, List.cons_append]

theorem get?_of_not_mem {key : κ} {entries : List (κ × α)} (h : key ∉ keys entries) :
    get? key entries = none := by
  cases hg : get? key entries with
  | none => rfl
  | some value => exact absurd (mem_keys_iff.2 (by simp [hg])) h

theorem get?_append_of_not_mem {key : κ} {entries : List (κ × α)} (h : key ∉ keys entries)
    (others : List (κ × α)) : get? key (entries ++ others) = get? key others := by
  induction entries with
  | nil => rfl
  | cons entry rest ih =>
    obtain ⟨k, v⟩ := entry
    simp only [keys_cons, List.mem_cons, not_or] at h
    rw [List.cons_append, get?, if_neg (Ne.symm h.1), ih h.2]

theorem put_append_of_not_mem {key : κ} {entries : List (κ × α)} (h : key ∉ keys entries)
    (value : α) (others : List (κ × α)) :
    put key value (entries ++ others) = entries ++ put key value others := by
  induction entries with
  | nil => rfl
  | cons entry rest ih =>
    obtain ⟨k, v⟩ := entry
    simp only [keys_cons, List.mem_cons, not_or] at h
    rw [List.cons_append, put, if_neg (Ne.symm h.1), ih h.2, List.cons_append]

omit [DecidableEq κ] in
@[simp] theorem keys_append (entries others : List (κ × α)) :
    keys (entries ++ others) = keys entries ++ keys others := by
  simp [keys]

private theorem foldl_put_of_nodup (pairs entries : List (κ × α))
    (h : (keys (entries ++ pairs)).Nodup) :
    pairs.foldl (fun entries (k, v) => put k v entries) entries = entries ++ pairs := by
  induction pairs generalizing entries with
  | nil => simp
  | cons pair rest ih =>
    obtain ⟨k, v⟩ := pair
    have fresh : k ∉ keys entries := by
      intro mem
      rw [keys_append, keys_cons, List.nodup_append] at h
      exact h.2.2 k mem k (by simp) rfl
    simp only [List.foldl_cons, put_of_not_mem fresh]
    rw [ih]
    · simp
    · simpa using h

/-- Pairs with distinct keys are stored as they stand. -/
theorem ofList_of_nodup {pairs : List (κ × α)} (h : (keys pairs).Nodup) :
    ofList pairs = pairs := by
  simpa [ofList] using foldl_put_of_nodup pairs [] (by simpa using h)

theorem get?_of_mem {entries : List (κ × α)} (h : (keys entries).Nodup) {entry : κ × α}
    (mem : entry ∈ entries) : get? entry.1 entries = some entry.2 := by
  induction entries with
  | nil => cases mem
  | cons first rest ih =>
    obtain ⟨k, v⟩ := first
    rw [keys_cons, List.nodup_cons] at h
    obtain rfl | later := List.mem_cons.1 mem
    · rw [get?, if_pos rfl]
    · have other : k ≠ entry.1 := by
        rintro rfl
        exact h.1 (List.mem_map_of_mem later)
      rw [get?, if_neg other, ih h.2 later]

theorem mem_of_get? {key : κ} {value : α} {entries : List (κ × α)}
    (h : get? key entries = some value) : (key, value) ∈ entries := by
  fun_induction get? key entries with
  | case1 => cases h
  | case2 v rest => simp [Option.some.inj h]
  | case3 k v rest hk ih => exact List.mem_cons_of_mem _ (ih h)

/-- A new key comes after those that are there. -/
theorem keys_prefix_put (key : κ) (value : α) (entries : List (κ × α)) :
    keys entries <+: keys (put key value entries) := by
  by_cases mem : key ∈ keys entries
  · refine ⟨[], ?_⟩
    rw [List.append_nil, keys_put_of_mem mem]
  · refine ⟨[key], ?_⟩
    rw [keys_put_of_not_mem mem]

omit [DecidableEq κ] in
private theorem eq_map_of_keys_eq (find : κ → Option α) {entries : List (κ × α)}
    (found : ∀ entry ∈ entries, find entry.1 = some entry.2) {others : List (κ × α)}
    (h : keys entries = keys others) :
    entries = others.map fun entry => (entry.1, (find entry.1).getD entry.2) := by
  induction entries generalizing others with
  | nil =>
    obtain rfl : others = [] := List.map_eq_nil_iff.1 h.symm
    rfl
  | cons entry rest ih =>
    cases others with
    | nil => cases h
    | cons other others =>
      rw [keys, keys, List.map_cons, List.map_cons, List.cons.injEq] at h
      rw [List.map_cons, ← ih (fun e mem => found e (List.mem_cons_of_mem _ mem)) h.2, ← h.1,
        found entry List.mem_cons_self]
      rfl

/-- Entries with the keys of others are the others with the values looked up. -/
theorem eq_map_get? {entries others : List (κ × α)} (distinct : (keys entries).Nodup)
    (h : keys entries = keys others) :
    entries = others.map fun entry => (entry.1, (get? entry.1 entries).getD entry.2) :=
  eq_map_of_keys_eq (get? · entries) (fun _ mem => get?_of_mem distinct mem) h

end ConfigTemplate.Entries
