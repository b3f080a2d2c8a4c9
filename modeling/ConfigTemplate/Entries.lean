/-!
# Entries in insertion order

An object, a flat document and an environment are all lists of key-value pairs in which a key
occurs once and the order of arrival is kept. Storing under a present key replaces the value in
place; storing under a new one appends.
-/

namespace ConfigTemplate.Entries

variable {κ α : Type} [DecidableEq κ]

/-- The value stored under a key. -/
def get? (key : κ) : List (κ × α) → Option α
  | [] => none
  | (k, v) :: rest => if k = key then some v else get? key rest

/-- Store a value: in place of the present one, or at the end. -/
def put (key : κ) (value : α) : List (κ × α) → List (κ × α)
  | [] => [(key, value)]
  | (k, v) :: rest => if k = key then (k, value) :: rest else (k, v) :: put key value rest

omit [DecidableEq κ] in
/-- The keys in order. -/
def keys (entries : List (κ × α)) : List κ := entries.map (·.1)

/-- Store pairs one after the other: a repeated key keeps its first place and takes its last
value. -/
def ofList (pairs : List (κ × α)) : List (κ × α) :=
  pairs.foldl (fun entries (k, v) => put k v entries) []

omit [DecidableEq κ] in
@[simp] theorem keys_nil : keys ([] : List (κ × α)) = [] := rfl

omit [DecidableEq κ] in
@[simp] theorem keys_cons (k : κ) (v : α) (rest : List (κ × α)) :
    keys ((k, v) :: rest) = k :: keys rest := rfl

@[simp] theorem get?_nil (key : κ) : get? key ([] : List (κ × α)) = none := rfl

@[simp] theorem get?_put_self (key : κ) (value : α) (entries : List (κ × α)) :
    get? key (put key value entries) = some value := by
  fun_induction put key value entries with
  | case1 => simp [get?]
  | case2 => simp [get?]
  | case3 k v rest h ih => simp [get?, h, ih]

theorem get?_put_of_ne {key other : κ} (h : key ≠ other) (value : α) (entries : List (κ × α)) :
    get? other (put key value entries) = get? other entries := by
  fun_induction put key value entries with
  | case1 => simp [get?, h]
  | case2 => simp [get?, h]
  | case3 k v rest hk ih => simp [get?, ih]

theorem keys_put_of_mem {key : κ} {entries : List (κ × α)} (h : key ∈ keys entries) (value : α) :
    keys (put key value entries) = keys entries := by
  fun_induction put key value entries with
  | case1 => simp at h
  | case2 => simp
  | case3 k v rest hk ih =>
    rw [keys_cons, List.mem_cons] at h
    simp [ih (h.resolve_left (Ne.symm hk))]

theorem keys_put_of_not_mem {key : κ} {entries : List (κ × α)} (h : key ∉ keys entries)
    (value : α) : keys (put key value entries) = keys entries ++ [key] := by
  fun_induction put key value entries with
  | case1 => simp
  | case2 => simp at h
  | case3 k v rest hk ih =>
    simp only [keys_cons, List.mem_cons, not_or] at h
    simp [ih h.2]

theorem mem_keys_iff {key : κ} {entries : List (κ × α)} :
    key ∈ keys entries ↔ (get? key entries).isSome := by
  fun_induction get? key entries with
  | case1 => simp
  | case2 => simp
  | case3 k v rest hk ih => simp [ih, Ne.symm hk]

theorem nodup_keys_put {key : κ} {entries : List (κ × α)} (h : (keys entries).Nodup)
    (value : α) : (keys (put key value entries)).Nodup := by
  by_cases hk : key ∈ keys entries
  · rwa [keys_put_of_mem hk]
  · rw [keys_put_of_not_mem hk]
    exact List.nodup_append.2 ⟨h, by simp, by simpa using fun a ha (e : a = key) => hk (e ▸ ha)⟩

private theorem nodup_keys_foldl_put (pairs entries : List (κ × α)) (h : (keys entries).Nodup) :
    (keys (pairs.foldl (fun entries (k, v) => put k v entries) entries)).Nodup := by
  induction pairs generalizing entries with
  | nil => exact h
  | cons pair rest ih => exact ih _ (nodup_keys_put h _)

theorem nodup_keys_ofList (pairs : List (κ × α)) : (keys (ofList pairs)).Nodup :=
  nodup_keys_foldl_put pairs [] (by simp)

end ConfigTemplate.Entries
