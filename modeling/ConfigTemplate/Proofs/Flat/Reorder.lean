import ConfigTemplate.Proofs.Entries
import ConfigTemplate.Proofs.Flat.Lookup
import Mathlib.Data.List.Perm.Basic

/-!
# Lookup in a reordered document

Where matches have to be unique, the order of a flat document has no part in what keys lead to. A
key that matches several paths is ambiguous in any order, and the elements of an array are put into
an order of their own. Only which failure is reported may depend on the order.
-/

namespace ConfigTemplate.Flat

variable {flat other : Flat} {key array : String}

theorem keys_perm (perm : other.entries.Perm flat.entries) : other.keys.Perm flat.keys :=
  perm.map _

theorem mem_iff_of_perm (perm : other.entries.Perm flat.entries) : key ∈ other ↔ key ∈ flat :=
  (keys_perm perm).mem_iff

/-- Each path has the same value. -/
theorem get?_eq_of_perm (perm : other.entries.Perm flat.entries) (key : String) :
    other.get? key = flat.get? key := by
  cases present : flat.get? key with
  | none =>
    refine Entries.get?_of_not_mem fun mem => ?_
    obtain ⟨value, held⟩ := exists_get? ((mem_iff_of_perm perm).1 mem)
    rw [present] at held
    cases held
  | some value =>
    have mem := perm.mem_iff.2 (Entries.mem_of_get? present)
    exact Entries.get?_of_mem other.distinct mem

/-- One path is taken in any order, and several ones are ambiguous in any order. -/
theorem pick_of_perm {paths others : List String} (perm : paths.Perm others) :
    (∃ failure, pick true key paths = .error failure ∧ failure.kind ≠ .keyNotFound) ∨
      pick true key paths = pick true key others := by
  match paths with
  | [] =>
    rw [List.nil_perm.1 perm]
    exact .inr rfl
  | [path] =>
    rw [List.singleton_perm.1 perm]
    exact .inr rfl
  | path :: next :: rest => exact .inl ⟨_, rfl, by simp [Failure.kind]⟩

/-- A key leads to the same path, unless the match fails for something else than a missing key. -/
theorem resolve_of_perm (perm : other.entries.Perm flat.entries) (key : String) :
    (∃ failure, flat.resolve true key = .error failure ∧ failure.kind ≠ .keyNotFound) ∨
      flat.resolve true key = other.resolve true key := by
  unfold resolve
  simp only [mem_iff_of_perm perm]
  split
  · exact .inr rfl
  · exact pick_of_perm ((keys_perm perm).symm.filter _)

/-! ### Elements -/

theorem elementsMatching_perm (perm : other.entries.Perm flat.entries) (key : String) :
    (other.elementsMatching key).Perm (flat.elementsMatching key) :=
  ((keys_perm perm).filterMap _).filter _

private theorem nodup_eraseDups (paths : List String) : paths.eraseDups.Nodup := by
  match paths with
  | [] => simp
  | path :: rest =>
    rw [List.eraseDups_cons, List.nodup_cons]
    exact ⟨by simp [List.mem_eraseDups], nodup_eraseDups _⟩
termination_by paths.length
decreasing_by exact Nat.lt_succ_of_le (List.length_filter_le _ _)

theorem nodup_arraysMatching (flat : Flat) (key : String) : (flat.arraysMatching key).Nodup :=
  nodup_eraseDups _

theorem arraysMatching_perm (perm : other.entries.Perm flat.entries) (key : String) :
    (other.arraysMatching key).Perm (flat.arraysMatching key) := by
  have elements := (elementsMatching_perm perm key).map Element.array
  unfold arraysMatching
  rw [List.perm_ext_iff_of_nodup (nodup_eraseDups _) (nodup_eraseDups _)]
  intro array
  rw [List.mem_eraseDups, List.mem_eraseDups, elements.mem_iff]

/-- A key leads to the same array, or to none. -/
theorem pickArray_of_perm (perm : other.entries.Perm flat.entries) (key : String) :
    (∃ failure, flat.pickArray true key = .error failure) ∨
      flat.pickArray true key = other.pickArray true key := by
  have arrays := arraysMatching_perm perm key
  unfold pickArray
  simp only [arrays.mem_iff]
  split
  · exact .inr rfl
  · obtain ⟨failure, stopped, _⟩ | same := pick_of_perm arrays.symm
    · exact .inl ⟨failure, stopped⟩
    · exact .inr same

/-- An element is given by its path. -/
theorem element?_path {e : Element} {path : String} (h : element? path = some e) :
    element? e.path = some e := by
  rw [path_of_element? h, h]

namespace Element

variable {a b c : Element}

theorem le_iff : a.le b = true ↔ a.index < b.index ∨ a.index = b.index ∧ a.path ≤ b.path := by
  simp only [le, Bool.or_eq_true, Bool.and_eq_true, Bool.not_eq_true', decide_eq_true_eq,
    decide_eq_false_iff_not, String.not_lt]

theorem le_trans (first : a.le b = true) (second : b.le c = true) : a.le c = true := by
  rw [le_iff] at first second ⊢
  obtain less | ⟨same, first⟩ := first
  · exact .inl (by omega)
  · obtain less | ⟨same', second⟩ := second
    · exact .inl (by omega)
    · exact .inr ⟨same.trans same', String.le_trans first second⟩

theorem le_total (a b : Element) : (a.le b || b.le a) = true := by
  rw [Bool.or_eq_true, le_iff, le_iff]
  obtain less | same | less := Nat.lt_trichotomy a.index b.index
  · exact .inl (.inl less)
  · exact (String.le_total a.path b.path).imp (fun le => .inr ⟨same, le⟩)
      fun le => .inr ⟨same.symm, le⟩
  · exact .inr (.inl less)

/-- Elements that come before each other have the same path. -/
theorem path_eq_of_le (first : a.le b = true) (second : b.le a = true) : a.path = b.path := by
  rw [le_iff] at first second
  obtain less | ⟨_, first⟩ := first
  · omega
  · obtain less | ⟨_, second⟩ := second
    · omega
    · exact String.le_antisymm first second

end Element

/-- Elements of paths are sorted into the same order, whichever order they came in. -/
theorem mergeSort_eq_of_perm {elements others : List Element} (perm : elements.Perm others)
    (given : ∀ e ∈ elements, element? e.path = some e) :
    elements.mergeSort Element.le = others.mergeSort Element.le := by
  have sorted (list : List Element) :
      (list.mergeSort Element.le).Pairwise fun a b => a.le b = true :=
    @List.pairwise_mergeSort _ Element.le (fun _ _ _ => Element.le_trans) Element.le_total list
  have same : (elements.mergeSort Element.le).Perm (others.mergeSort Element.le) :=
    ((List.mergeSort_perm ..).trans perm).trans (List.mergeSort_perm ..).symm
  refine same.eq_of_pairwise (fun a b inFirst inSecond le ge => ?_) (sorted _) (sorted _)
  have first := given a (List.mem_mergeSort.1 inFirst)
  have second := given b (perm.mem_iff.2 (List.mem_mergeSort.1 inSecond))
  rw [Element.path_eq_of_le le ge, second] at first
  exact (Option.some.inj first).symm

/-- The elements of an array have the same paths, or they are refused in both orders. -/
theorem elementPaths_of_perm (perm : other.entries.Perm flat.entries) (key array : String) :
    (∃ failure, flat.elementPaths key array = .error failure) ∨
      flat.elementPaths key array = other.elementPaths key array := by
  have elements := ((elementsMatching_perm perm key).filter fun e => e.array = array).symm
  have given : ∀ e ∈ (flat.elementsMatching key).filter fun e => e.array = array,
      element? e.path = some e := by
    intro e mem
    obtain ⟨path, _, found⟩ :=
      List.mem_filterMap.1 (List.mem_of_mem_filter (List.mem_of_mem_filter mem))
    exact element?_path found
  unfold elementPaths
  simp only [mergeSort_eq_of_perm elements given]
  split
  · exact .inl ⟨_, rfl⟩
  next none =>
    refine .inr ?_
    rw [List.find?_eq_none.2 fun entry mem => List.find?_eq_none.1 none entry (perm.mem_iff.1 mem)]

end ConfigTemplate.Flat
