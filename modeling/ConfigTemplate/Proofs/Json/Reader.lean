import ConfigTemplate.Document

/-!
# What is read from a text

A repeated key of an object takes its last value, so the keys of every object that is read are
distinct. A document that comes as a text or as bytes needs no assumption about its keys.
-/

namespace ConfigTemplate

namespace Json

theorem itemsKeysDistinct_append {items others : List Json} :
    ItemsKeysDistinct (items ++ others) ↔ ItemsKeysDistinct items ∧ ItemsKeysDistinct others := by
  induction items with
  | nil => simp [ItemsKeysDistinct]
  | cons item rest ih => simp only [List.cons_append, ItemsKeysDistinct, ih, and_assoc]

theorem itemsKeysDistinct_reverse {items : List Json} :
    ItemsKeysDistinct items.reverse ↔ ItemsKeysDistinct items := by
  induction items with
  | nil => rfl
  | cons item rest ih =>
    rw [List.reverse_cons, itemsKeysDistinct_append, ih]
    constructor
    · rintro ⟨others, first, _⟩
      exact ⟨first, others⟩
    · rintro ⟨first, others⟩
      exact ⟨others, first, trivial⟩

theorem membersKeysDistinct_put {key : String} {value : Json} {members : List (String × Json)}
    (inside : MembersKeysDistinct members) (distinct : value.KeysDistinct) :
    MembersKeysDistinct (Entries.put key value members) := by
  induction members with
  | nil => exact ⟨distinct, trivial⟩
  | cons member rest ih =>
    obtain ⟨k, v⟩ := member
    rw [Entries.put]
    split
    · exact ⟨distinct, inside.2⟩
    · exact ⟨inside.1, ih inside.2⟩

namespace Reader

variable {c after : Cursor} {v : Json} {fuel : Nat}

theorem keysDistinct_numeral (n : Numeral) : n.value.KeysDistinct := by
  unfold Numeral.value
  dsimp only
  split <;> trivial

theorem keysDistinct_atom (h : atom c = .ok (v, after)) : v.KeysDistinct := by
  unfold atom at h
  split at h
  next word constant found =>
    cases h
    have listed := List.mem_of_find?_eq_some found
    simp only [constants, List.mem_cons, List.not_mem_nil, or_false, Prod.mk.injEq] at listed
    rcases listed with ⟨_, rfl⟩ | ⟨_, rfl⟩ | ⟨_, rfl⟩ | ⟨_, rfl⟩ | ⟨_, rfl⟩ | ⟨_, rfl⟩ <;> trivial
  · split at h
    · split at h
      · cases h
      · cases h
        exact keysDistinct_numeral _
    · cases h

/-- Whether all that is read with some fuel has distinct keys: a value, an array of which some items
are read already, and an object of which some members are. -/
structure ReadsDistinct (fuel : Nat) : Prop where
  value : ∀ {c v after}, Reader.value fuel c = .ok (v, after) → v.KeysDistinct
  items : ∀ {before c v after}, ItemsKeysDistinct before →
    Reader.items fuel before c = .ok (v, after) → v.KeysDistinct
  members : ∀ {before c v after}, (Entries.keys before).Nodup → MembersKeysDistinct before →
    Reader.members fuel before c = .ok (v, after) → v.KeysDistinct

theorem ReadsDistinct.value_succ (reads : ReadsDistinct fuel)
    (h : Reader.value (fuel + 1) c = .ok (v, after)) : v.KeysDistinct := by
  rw [Reader.value] at h
  split at h
  · split at h
    · cases h
    · cases h
      trivial
  · dsimp only at h
    split at h
    · cases h
      trivial
    · have none : ItemsKeysDistinct [] := trivial
      exact reads.items none h
  · dsimp only at h
    split at h
    · cases h
      exact ⟨List.nodup_nil, trivial⟩
    · have none : (Entries.keys ([] : List (String × Json))).Nodup := List.nodup_nil
      exact reads.members none trivial h
  · exact keysDistinct_atom h

theorem ReadsDistinct.items_succ (reads : ReadsDistinct fuel) {before : List Json}
    (inside : ItemsKeysDistinct before) (h : Reader.items (fuel + 1) before c = .ok (v, after)) :
    v.KeysDistinct := by
  rw [Reader.items] at h
  split at h
  · cases h
  next item rest found =>
    have distinct := reads.value found
    have longer : ItemsKeysDistinct (item :: before) := ⟨distinct, inside⟩
    dsimp only at h
    split at h
    · cases h
      exact itemsKeysDistinct_append.2 ⟨itemsKeysDistinct_reverse.2 inside, distinct, trivial⟩
    · exact reads.items longer h
    · cases h

theorem ReadsDistinct.members_succ (reads : ReadsDistinct fuel) {before : List (String × Json)}
    (distinct : (Entries.keys before).Nodup) (inside : MembersKeysDistinct before)
    (h : Reader.members (fuel + 1) before c = .ok (v, after)) : v.KeysDistinct := by
  rw [Reader.members] at h
  split at h
  · split at h
    · cases h
    next key rest _ =>
      dsimp only at h
      split at h
      · split at h
        · cases h
        next item rest' found =>
          have keys : (Entries.keys (Entries.put key item before)).Nodup :=
            Entries.nodup_keys_put distinct item
          have longer : MembersKeysDistinct (Entries.put key item before) :=
            membersKeysDistinct_put inside (reads.value found)
          split at h
          · cases h
            exact ⟨keys, longer⟩
          · exact reads.members keys longer h
          · cases h
      · cases h
  · cases h

theorem readsDistinct (fuel : Nat) : ReadsDistinct fuel := by
  induction fuel with
  | zero =>
    refine ⟨?_, ?_, ?_⟩
    · intro c v after h
      cases h
    · intro before c v after _ h
      cases h
    · intro before c v after _ _ h
      cases h
  | succ fuel ih => exact ⟨ih.value_succ, ih.items_succ, ih.members_succ⟩

end Reader

/-- The keys of every object that a text writes are distinct. -/
theorem keysDistinct_of_ofChars {text : List Char} {value : Json}
    (h : ofChars text = .ok value) : value.KeysDistinct := by
  unfold ofChars at h
  split at h
  · cases h
  next found =>
    dsimp only at h
    split at h
    · cases h
      exact (Reader.readsDistinct _).value found
    · cases h

theorem keysDistinct_of_ofText {text : String} {value : Json} (h : ofText text = .ok value) :
    value.KeysDistinct := by
  unfold ofText at h
  split at h
  · cases h
  · exact keysDistinct_of_ofChars h

end Json

namespace Document

/-- Whether the keys of every object of a value that is there already are distinct. -/
def Source.KeysDistinct : Source → Prop
  | .value content => content.KeysDistinct
  | .bytes _ | .text _ => True

variable {value root : Json}

/-- What is taken for the root of a document is one if its keys are distinct. -/
theorem exists_of_ofRoot (distinct : value.KeysDistinct) (h : ofRoot value = .ok root) :
    ∃ document : Document, document.value = root := by
  unfold ofRoot at h
  split at h
  next container =>
    obtain rfl := Except.ok.inj h
    exact ⟨⟨value, container, distinct⟩, rfl⟩
  next => cases h

theorem exists_of_ofText {text : String} (h : ofText text = .ok root) :
    ∃ document : Document, document.value = root := by
  unfold ofText at h
  split at h
  · cases h
  next read => exact exists_of_ofRoot (Json.keysDistinct_of_ofText read) h

theorem exists_of_ofBytes {bytes : Text.Bytes} (h : ofBytes bytes = .ok root) :
    ∃ document : Document, document.value = root := by
  unfold ofBytes at h
  split at h
  · cases h
  · split at h
    · cases h
    next read => exact exists_of_ofRoot (Json.keysDistinct_of_ofChars read) h

/-- What is loaded is a document. -/
theorem exists_of_load {source : Source} (distinct : source.KeysDistinct)
    (h : load source = .ok root) : ∃ document : Document, document.value = root := by
  unfold load at h
  split at h
  · exact exists_of_ofBytes h
  · exact exists_of_ofText h
  · exact exists_of_ofText h
  · exact exists_of_ofRoot distinct h

end Document

end ConfigTemplate
