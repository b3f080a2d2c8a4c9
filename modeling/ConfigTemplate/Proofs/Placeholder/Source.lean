import ConfigTemplate.Placeholder

/-!
# Placeholders in their source

A placeholder that a scan finds stands in the text with the source text that is its own, and
splicing puts a replacement exactly there. So a replacement leaves the text as it was only when it
is the source text of the placeholder.
-/

namespace ConfigTemplate.Placeholder

variable {kinds : List Kind} {kind : Kind} {position : Nat} {cs payload : List Char}
variable {p : Placeholder} {text : String}

/-- The payload of a command goes as far as the parenthesis that closes it. -/
theorem closed?_eq_some {depth : Nat} (h : closed? depth cs = some payload) :
    ∃ rest, cs = payload ++ ')' :: rest := by
  fun_induction closed? depth cs generalizing payload with
  | case1 => cases h
  | case2 depth rest ih =>
    obtain ⟨inner, found, rfl⟩ := Option.map_eq_some_iff.1 h
    obtain ⟨after, rfl⟩ := ih found
    exact ⟨after, rfl⟩
  | case3 rest =>
    cases h
    exact ⟨rest, rfl⟩
  | case4 rest depth _ ih =>
    obtain ⟨inner, found, rfl⟩ := Option.map_eq_some_iff.1 h
    obtain ⟨after, rfl⟩ := ih found
    exact ⟨after, rfl⟩
  | case5 depth c rest _ _ ih =>
    obtain ⟨inner, found, rfl⟩ := Option.map_eq_some_iff.1 h
    obtain ⟨after, rfl⟩ := ih found
    exact ⟨after, rfl⟩

theorem referencePayload?_eq_some (h : referencePayload? cs = some payload) :
    ∃ rest, cs = payload ++ '\x7d' :: rest := by
  unfold referencePayload? at h
  split at h
  next c front rest inside after =>
    cases h
    exact ⟨rest, by rw [← inside, ← after, List.takeWhile_append_dropWhile]⟩
  · cases h

theorem commandPayload?_eq_some (h : commandPayload? cs = some payload) :
    ∃ rest, cs = payload ++ ')' :: rest := by
  unfold commandPayload? at h
  split at h
  next closed =>
    split at h
    · cases h
    · cases h
      exact closed?_eq_some closed
  · cases h

theorem envVarPayload?_eq_some (h : envVarPayload? cs = some payload) :
    ∃ rest, cs = payload ++ rest := by
  unfold envVarPayload? at h
  split at h
  next c rest =>
    split at h
    · cases h
      exact ⟨rest.dropWhile isNameChar, by simp⟩
    · cases h
  · cases h

/-- The payload of a placeholder stands between the marks of its kind. -/
theorem Kind.payload?_eq_some (h : kind.payload? cs = some payload) :
    ∃ rest, cs = kind.enclose payload ++ rest := by
  unfold Kind.payload? at h
  split at h
  · obtain ⟨rest, rfl⟩ := referencePayload?_eq_some h
    exact ⟨rest, by simp [enclose]⟩
  · obtain ⟨rest, rfl⟩ := commandPayload?_eq_some h
    exact ⟨rest, by simp [enclose]⟩
  · obtain ⟨rest, rfl⟩ := envVarPayload?_eq_some h
    exact ⟨rest, by simp [enclose]⟩
  · cases h

/-- The first placeholder of a kind begins behind the characters that its position counts. -/
theorem payload?_of_firstFrom? (h : firstFrom? kind position cs = some p) :
    p.kind = kind ∧ ∃ front rest, cs = front ++ rest ∧
      kind.payload? rest = some p.payload.toList ∧ p.start = position + front.length := by
  induction cs generalizing position with
  | nil => cases h
  | cons c tail ih =>
    rw [firstFrom?] at h
    split at h
    next found here =>
      cases h
      obtain ⟨payload, inside, rfl⟩ := Option.map_eq_some_iff.1 here
      exact ⟨rfl, [], c :: tail, rfl, by rw [inside, String.toList_ofList], rfl⟩
    · obtain ⟨same, front, rest, rfl, inside, start⟩ := ih h
      refine ⟨same, c :: front, rest, rfl, inside, ?_⟩
      rw [start, List.length_cons]
      omega

/-- The first placeholder of a kind stands behind the characters that its position counts. -/
theorem firstFrom?_eq_some (h : firstFrom? kind position cs = some p) :
    p.kind = kind ∧ ∃ front rest, cs = front ++ (p.chars ++ rest) ∧
      p.start = position + front.length := by
  obtain ⟨rfl, front, rest, rfl, inside, start⟩ := payload?_of_firstFrom? h
  obtain ⟨after, source⟩ := Kind.payload?_eq_some inside
  exact ⟨rfl, front, after, congrArg _ source, start⟩

/-- What a scan finds is of one of the kinds that it looks for. -/
theorem kind_mem_of_scan (h : scan kinds text = some p) : p.kind ∈ kinds := by
  obtain ⟨kind, mem, found⟩ := List.exists_of_findSome?_eq_some h
  exact (firstFrom?_eq_some found).1 ▸ mem

/-- What a scan finds begins in the text at its position. -/
theorem payload?_of_scan (h : scan kinds text = some p) :
    ∃ front rest, text.toList = front ++ rest ∧ p.kind.payload? rest = some p.payload.toList ∧
      p.start = front.length := by
  obtain ⟨kind, _, found⟩ := List.exists_of_findSome?_eq_some h
  obtain ⟨rfl, front, rest, source, inside, start⟩ := payload?_of_firstFrom? found
  exact ⟨front, rest, source, inside, by rw [start, Nat.zero_add]⟩

/-- What a scan finds stands in the text at its position. -/
theorem toList_eq_of_scan (h : scan kinds text = some p) :
    ∃ front rest, text.toList = front ++ (p.chars ++ rest) ∧ p.start = front.length := by
  obtain ⟨front, rest, source, inside, start⟩ := payload?_of_scan h
  obtain ⟨after, rfl⟩ := Kind.payload?_eq_some inside
  exact ⟨front, after, source, start⟩

/-- Splicing puts the replacement between what stands before and after the placeholder. -/
theorem toList_splice {front rest : List Char} (source : text.toList = front ++ (p.chars ++ rest))
    (start : p.start = front.length) (replacement : String) :
    (p.splice text replacement).toList = front ++ (replacement.toList ++ rest) := by
  have after : (front ++ (p.chars ++ rest)).drop (front.length + p.chars.length) = rest := by
    rw [← List.append_assoc, ← List.length_append, List.drop_left]
  rw [splice, String.toList_ofList, source, stop, start, List.take_left, after, List.append_assoc]

/-- A replacement leaves a text as it was only when it is the source text of the placeholder. -/
theorem splice_eq_self_iff (h : scan kinds text = some p) {replacement : String} :
    p.splice text replacement = text ↔ replacement = p.text := by
  obtain ⟨front, rest, source, start⟩ := toList_eq_of_scan h
  have spliced := toList_splice source start replacement
  constructor
  · intro same
    rw [same, source] at spliced
    have inner := List.append_cancel_right (List.append_cancel_left spliced)
    rw [Placeholder.text, inner, String.ofList_toList]
  · rintro rfl
    rw [Placeholder.text, String.toList_ofList, ← source] at spliced
    exact String.toList_injective spliced

/-- Every placeholder has a dollar sign. -/
theorem dollar_mem_chars (p : Placeholder) : '$' ∈ p.chars := by
  unfold chars
  cases p.kind <;> exact List.mem_cons_self

/-- A replacement without a dollar sign leaves fewer of them in the text. -/
theorem count_splice_lt (h : scan kinds text = some p) {replacement : String}
    (plain : '$' ∉ replacement.toList) :
    (p.splice text replacement).toList.count '$' < text.toList.count '$' := by
  obtain ⟨front, rest, source, start⟩ := toList_eq_of_scan h
  have gone := List.count_pos_iff.2 p.dollar_mem_chars
  have none := List.count_eq_zero.2 plain
  rw [toList_splice source start, source]
  simp only [List.count_append]
  omega

end ConfigTemplate.Placeholder
