import ConfigTemplate.Path.Write
import ConfigTemplate.Proofs.Path.Leaves

/-!
# Laws of writing at a path

A write goes down its path one step at a time: what stands at the end of each step takes the next
one, and what is created on the way is of the kind that the next step asks for. `Written` says so of
the document before and after, and the laws follow by induction on it. The path leads to the value
afterwards; what lies beside the path stays, but for the nulls that fill up an array on the way; and
objects keep their keys in order.

A write is refused where something stands on the way that does not take the next step. Nothing
can have been created before that, so a write that is refused leaves the document as it was.
-/

namespace ConfigTemplate

namespace Json

/-- Whether a step leads into a value: an index into an array, a name into an object. -/
def Takes : Json → Step → Prop
  | .arr _, .index _ => True
  | .obj _, .name _ => True
  | _, _ => False

/-- A value with another one stored at a step that it takes. -/
def store : Json → Step → Json → Json
  | .arr items, .index n, child => .arr (Path.storeItem items n child)
  | .obj members, .name s, child => .obj (Entries.put s child members)
  | node, _, _ => node

variable {node : Json} {step other : Step}

theorem Takes.isContainer (takes : node.Takes step) : node.isContainer = true := by
  match node, step, takes with
  | .arr _, .index _, _ | .obj _, .name _, _ => rfl

@[simp] theorem takes_emptyContainer (step : Step) : step.emptyContainer.Takes step := by
  cases step <;> trivial

/-- The steps that a value takes are all of one kind. -/
theorem Takes.iff_emptyContainer (takes : node.Takes other) :
    node.Takes step ↔ other.emptyContainer.Takes step := by
  match node, other, takes with
  | .arr items, .index n, _ => cases step <;> exact Iff.rfl
  | .obj members, .name s, _ => cases step <;> exact Iff.rfl

end Json

/-- The fault of a step that what stands at a place does not take. -/
def Step.refusal (place : Path) : Step → Document.Fault
  | .index n => .indexOutsideArray n place.signed
  | .name s => .nameOutsideObject s place.signed

namespace Path

open Json (Takes store)

variable {node root result child value found : Json} {step next other : Step}
variable {path rest tail front place address : Path} {fault : Document.Fault}

/-! ### Addresses -/

/-- Whether neither of two paths leads through the end of the other. -/
def Apart (path other : Path) : Prop := ¬ path <+: other ∧ ¬ other <+: path

theorem Apart.ne_nil (apart : Apart path address) : address ≠ [] := by
  rintro rfl
  exact apart.2 (List.nil_prefix)

theorem apart_cons_iff : Apart (step :: path) (step :: address) ↔ Apart path address := by
  simp [Apart, List.cons_prefix_cons]

/-! ### Storing at a step -/

theorem get?_of_not_takes (refuses : ¬ node.Takes step) (rest : Path) :
    get? node (step :: rest) = none := by
  match node, step with
  | .arr _, .index _ | .obj _, .name _ => exact absurd trivial refuses
  | .null, step | .bool _, step | .int _, step | .float _, step | .str _, step => cases step <;> rfl
  | .arr _, .name _ | .obj _, .index _ => rfl

theorem takes_of_get? (leads : get? node (step :: rest) = some found) : node.Takes step := by
  by_contra refuses
  rw [get?_of_not_takes refuses] at leads
  cases leads

theorem not_takes_null (step : Step) : ¬ Json.null.Takes step := by
  cases step <;> exact id

theorem getElem?_storeItem_self (items : List Json) (n : Nat) (value : Json) :
    (storeItem items n value)[n]? = some value := by
  apply List.getElem?_set_self
  rw [length_padded]
  omega

/-- Beside the item that is stored the items stay, and up to it the array is padded. -/
theorem getElem?_storeItem_of_ne {m n : Nat} (apart : m ≠ n) (items : List Json) (value : Json) :
    (storeItem items n value)[m]? = items[m]? ∨
      items[m]? = none ∧ m < n ∧ (storeItem items n value)[m]? = some .null := by
  rw [storeItem, List.getElem?_set_ne (Ne.symm apart), padded]
  by_cases within : m < items.length
  · left
    exact List.getElem?_append_left within
  · have missing : items[m]? = none := List.getElem?_eq_none_iff.2 (by omega)
    rw [List.getElem?_append_right (by omega), List.getElem?_replicate, missing]
    by_cases before : m < n
    · right
      exact ⟨rfl, before, if_pos (by omega)⟩
    · left
      exact if_neg (by omega)

theorem get?_store_self (takes : node.Takes step) (child : Json) (rest : Path) :
    get? (node.store step child) (step :: rest) = get? child rest := by
  match node, step, takes with
  | .arr items, .index n, _ => exact get?_index (getElem?_storeItem_self items n child) rest
  | .obj members, .name s, _ => exact get?_name (Entries.get?_put_self s child members) rest

/-- Whether an address is padding that a write along a path may add: an item of an array on the way,
in front of the index that the path goes on with. -/
def Pads (path address : Path) : Prop :=
  ∃ front m n rest, address = front ++ [.index m] ∧ path = front ++ .index n :: rest ∧ m < n

theorem Pads.cons (pads : Pads path address) (step : Step) :
    Pads (step :: path) (step :: address) := by
  obtain ⟨front, m, n, rest, rfl, rfl, before⟩ := pads
  exact ⟨step :: front, m, n, rest, rfl, rfl, before⟩

/-- Whether a write along a path leaves an address as it should: with what was there, or with
padding where nothing was. -/
def Leaves (path : Path) (before after : Json) (address : Path) : Prop :=
  get? after address = get? before address ∨
    get? before address = none ∧ get? after address = some .null ∧ Pads path address

/-- Whatever is stored at a step, what lies beside that step is left. -/
theorem leaves_store (takes : node.Takes step) (beside : other ≠ step) (child : Json)
    (rest tail : Path) :
    Leaves (step :: tail) node (node.store step child) (other :: rest) := by
  match node, step, other, takes with
  | .obj members, .name s, .name t, _ =>
    have different : s ≠ t := fun same => beside (same ▸ rfl)
    left
    show get? (.obj (Entries.put s child members)) _ = _
    rw [get?, get?, Entries.get?_put_of_ne different]
  | .arr items, .index n, .index m, _ =>
    have different : m ≠ n := fun same => beside (same ▸ rfl)
    obtain same | ⟨missing, before, null⟩ := getElem?_storeItem_of_ne different items child
    · left
      show get? (.arr (storeItem items n child)) _ = _
      rw [get?, get?, same]
    · have nothing : get? (.arr items) (.index m :: rest) = none := by rw [get?, missing]
      have padding := get?_index null rest
      cases rest with
      | nil => exact .inr ⟨nothing, padding, [], m, n, tail, rfl, rfl, before⟩
      | cons deeper rest =>
        rw [get?_of_not_takes (not_takes_null deeper)] at padding
        exact .inl (padding.trans nothing.symm)
  | .arr _, .index _, .name _, _ | .obj _, .name _, .index _, _ => exact .inl rfl

theorem Leaves.get?_eq (leaves : Leaves path node result address)
    (leads : get? node address = some found) : get? result address = some found := by
  obtain same | ⟨nothing, -, -⟩ := leaves
  · exact same.trans leads
  · rw [leads] at nothing
    cases nothing

theorem exists_keys_prefix_store {members : List (String × Json)}
    (takes : (Json.obj members).Takes step) (child : Json) :
    ∃ fields, get? ((Json.obj members).store step child) [] = some (.obj fields) ∧
      Entries.keys members <+: Entries.keys fields := by
  match step, takes with
  | .name s, _ => exact ⟨_, get?_nil _, Entries.keys_prefix_put s child members⟩

/-! ### Going on behind a step -/

/-- What a path goes on into. In an array a null counts as nothing. -/
def entered? : Json → Step → Option Json
  | .arr items, .index n => item? items n
  | .obj members, .name s => Entries.get? s members
  | _, _ => none

/-- The node in which a path goes on behind a step: what stands there, or a new container of the
kind that the next step asks for. -/
def onward (node : Json) (step next : Step) : Json := (entered? node step).getD next.emptyContainer

/-- Whether what stands at an address makes room for a container: a null in an array. -/
def GivesWay (address : Path) (found : Json) : Prop :=
  found = .null ∧ ∃ n, address.getLast? = some (.index n)

theorem item?_of_ne_null {items : List Json} {n : Nat} (notNull : items[n]? ≠ some .null) :
    item? items n = items[n]? := by
  unfold item?
  split
  next null => exact absurd null notNull
  next => rfl

theorem entered?_of_not_takes (refuses : ¬ node.Takes step) : entered? node step = none := by
  unfold entered?
  split
  next => exact absurd trivial refuses
  next => exact absurd trivial refuses
  next => rfl

/-- A path goes on in what stands behind a step, unless that gives way. -/
theorem onward_cases (node : Json) (step next : Step) :
    (∃ found, get? node [step] = some found ∧ ¬ GivesWay [step] found ∧
        onward node step next = found) ∨
      (∀ found, get? node [step] = some found → GivesWay [step] found) ∧
        onward node step next = next.emptyContainer := by
  by_cases takes : node.Takes step
  · match node, step, takes with
    | .arr items, .index n, _ =>
      rw [get?_item]
      by_cases null : items[n]? = some .null
      · right
        have vacant : item? items n = none := by rw [item?, null]
        rw [onward, entered?, vacant, null]
        exact ⟨fun found same => ⟨(Option.some.inj same).symm, n, rfl⟩, rfl⟩
      · rw [onward, entered?, item?_of_ne_null null]
        cases present : items[n]? with
        | none => simp
        | some found => exact .inl ⟨found, rfl, fun gives => null (gives.1 ▸ present), rfl⟩
    | .obj members, .name s, _ =>
      rw [get?_member, onward, entered?]
      cases Entries.get? s members with
      | none => simp
      | some found => exact .inl ⟨found, rfl, by simp [GivesWay], rfl⟩
  · right
    rw [get?_of_not_takes takes, onward, entered?_of_not_takes takes]
    simp

theorem get?_emptyContainer (step next : Step) (rest : Path) :
    get? next.emptyContainer (step :: rest) = none := by
  cases next <;> cases step <;> rfl

/-- Below what is created nothing is found, just as nothing was found there before. -/
theorem get?_onward (node : Json) (step next : Step) (below : rest ≠ []) :
    get? (onward node step next) rest = get? node (step :: rest) := by
  have split : get? node (step :: rest) = (get? node [step]).bind (get? · rest) :=
    get?_append node [step] rest
  obtain ⟨deeper, tail, rfl⟩ := List.exists_cons_of_ne_nil below
  rw [split]
  obtain ⟨found, here, -, same⟩ | ⟨gives, same⟩ := onward_cases node step next
  · rw [same, here, Option.bind_some]
  · rw [same, get?_emptyContainer]
    cases here : get? node [step] with
    | none => rfl
    | some found =>
      obtain ⟨rfl, -⟩ := gives found here
      exact (get?_of_not_takes (not_takes_null deeper) tail).symm

theorem get?_onward_of_ne_null (next : Step) (leads : get? node (step :: rest) = some found)
    (notNull : found ≠ .null) : get? (onward node step next) rest = some found := by
  by_cases below : rest = []
  · subst below
    obtain ⟨other, here, -, same⟩ | ⟨gives, -⟩ := onward_cases node step next
    · rw [same, get?_nil, ← here, leads]
    · exact absurd (gives found leads).1 notNull
  · rw [get?_onward node step next below, leads]

/-! ### What a write does -/

/-- Whether writing a value at the end of a path turns one node into another: each node on the way
takes its step, and the child is stored there afterwards. -/
inductive Written (value : Json) : Path → Json → Json → Prop
  | last {node : Json} {step : Step} (takes : node.Takes step) :
      Written value [step] node (node.store step value)
  | onward {node child : Json} {step next : Step} {rest : Path} (takes : node.Takes step)
      (deeper : Written value (next :: rest) (onward node step next) child) :
      Written value (step :: next :: rest) node (node.store step child)

theorem assignBelow_last (takes : node.Takes step) (value : Json) (place : Path) :
    assignBelow value place node [step] = .ok (node.store step value) := by
  match node, step, takes with
  | .arr items, .index n, _ => rfl
  | .obj members, .name s, _ => rfl

theorem assignBelow_onward (takes : node.Takes step) (value : Json) (place : Path) (next : Step)
    (rest : Path) :
    assignBelow value place node (step :: next :: rest) =
      (assignBelow value (place ++ [step]) (onward node step next) (next :: rest)).map
        (node.store step) := by
  match node, step, takes with
  | .arr items, .index n, _ => exact assignBelow_index value place items n next rest
  | .obj members, .name s, _ => exact assignBelow_name value place members s next rest

theorem assignBelow_onward_eq_ok_iff (takes : node.Takes step) :
    assignBelow value place node (step :: next :: rest) = .ok result ↔
      ∃ child, assignBelow value (place ++ [step]) (onward node step next) (next :: rest) =
        .ok child ∧ node.store step child = result := by
  rw [assignBelow_onward takes]
  cases assignBelow value (place ++ [step]) (onward node step next) (next :: rest) <;>
    simp [Except.map]

theorem assignBelow_onward_eq_error_iff (takes : node.Takes step) :
    assignBelow value place node (step :: next :: rest) = .error fault ↔
      assignBelow value (place ++ [step]) (onward node step next) (next :: rest) =
        .error fault := by
  rw [assignBelow_onward takes]
  cases assignBelow value (place ++ [step]) (onward node step next) (next :: rest) <;>
    simp [Except.map]

theorem assignBelow_refused (refuses : ¬ node.Takes step) (value : Json) (place rest : Path) :
    assignBelow value place node (step :: rest) = .error (step.refusal place) := by
  match node, step with
  | .arr _, .index _ | .obj _, .name _ => exact absurd trivial refuses
  | .null, .index _ | .bool _, .index _ | .int _, .index _ | .float _, .index _ | .str _, .index _
  | .obj _, .index _ => rfl
  | .null, .name _ | .bool _, .name _ | .int _, .name _ | .float _, .name _ | .str _, .name _
  | .arr _, .name _ => rfl

theorem assignBelow_eq_ok_iff (nonempty : path ≠ []) :
    assignBelow value place node path = .ok result ↔ Written value path node result := by
  induction path generalizing place node result with
  | nil => exact absurd rfl nonempty
  | cons step rest ih =>
    by_cases takes : node.Takes step
    · cases rest with
      | nil =>
        rw [assignBelow_last takes]
        constructor
        · rintro ⟨⟩
          exact .last takes
        · rintro ⟨⟩
          rfl
      | cons next rest =>
        rw [assignBelow_onward_eq_ok_iff takes]
        constructor
        · rintro ⟨child, below, rfl⟩
          exact .onward takes ((ih (List.cons_ne_nil next rest)).1 below)
        · rintro (_ | ⟨_, deeper⟩)
          exact ⟨_, (ih (List.cons_ne_nil next rest)).2 deeper, rfl⟩
    · rw [assignBelow_refused takes]
      constructor
      · rintro ⟨⟩
      · rintro (⟨takes'⟩ | ⟨takes', -⟩)
        · exact absurd takes' takes
        · exact absurd takes' takes

namespace Written

/-- The path leads to the value that was written. -/
theorem get?_self (written : Written value path node result) : get? result path = some value := by
  induction written with
  | last takes => rw [get?_store_self takes, get?_nil]
  | onward takes _ ih => rw [get?_store_self takes, ih]

/-- What stands on the way takes the next step. -/
theorem exists_takes (written : Written value (front ++ step :: rest) node result) :
    ∃ found, get? result front = some found ∧ found.Takes step := by
  have whole := written.get?_self
  rw [get?_append, Option.bind_eq_some_iff] at whole
  obtain ⟨found, leads, onward⟩ := whole
  exact ⟨found, leads, takes_of_get? onward⟩

/-- What lies beside the path is left. -/
theorem leaves (written : Written value path node result) (apart : Apart path address) :
    Leaves path node result address := by
  induction written generalizing address with
  | @last node step takes =>
    obtain ⟨other, rest, rfl⟩ := List.exists_cons_of_ne_nil apart.ne_nil
    exact leaves_store takes (fun same => apart.1 ⟨rest, by rw [same]; rfl⟩) value rest []
  | @onward node child step next tail takes deeper ih =>
    obtain ⟨other, rest, rfl⟩ := List.exists_cons_of_ne_nil apart.ne_nil
    by_cases same : other = step
    · subst same
      have inner := apart_cons_iff.1 apart
      have here := ih inner
      -- A node that is created on the way is empty, and nothing was found below it before.
      rw [Leaves, get?_onward node other next inner.ne_nil] at here
      rw [Leaves, get?_store_self takes]
      exact here.imp_right fun ⟨nothing, padding, pads⟩ => ⟨nothing, padding, pads.cons other⟩
    · exact leaves_store takes same child rest _

/-- An object that the path does not lead to or through stays one, and keeps its keys in order. -/
theorem keys_prefix {members : List (String × Json)} (written : Written value path node result)
    (outside : ¬ path <+: address) (object : get? node address = some (.obj members)) :
    ∃ fields, get? result address = some (.obj fields) ∧
      Entries.keys members <+: Entries.keys fields := by
  induction written generalizing address with
  | @last node step takes =>
    cases address with
    | nil =>
      rw [get?_nil, Option.some.injEq] at object
      subst object
      exact exists_keys_prefix_store takes value
    | cons other rest =>
      have beside : other ≠ step := fun same => outside ⟨rest, by rw [same]; rfl⟩
      have left := leaves_store takes beside value rest []
      exact ⟨members, left.get?_eq object, List.prefix_rfl⟩
  | @onward node child step next tail takes deeper ih =>
    cases address with
    | nil =>
      rw [get?_nil, Option.some.injEq] at object
      subst object
      exact exists_keys_prefix_store takes child
    | cons other rest =>
      by_cases same : other = step
      · subst same
        rw [List.cons_prefix_cons] at outside
        rw [get?_store_self takes]
        apply ih (fun within => outside ⟨rfl, within⟩)
        exact get?_onward_of_ne_null next object nofun
      · have left := leaves_store takes same child rest (next :: tail)
        exact ⟨members, left.get?_eq object, List.prefix_rfl⟩

end Written

/-! ### What stops a write -/

/-- Whether what stands at an address stops a write that goes on from there with a step. -/
def Stops (node : Json) (address : Path) (step : Step) : Prop :=
  ∃ found, get? node address = some found ∧ ¬ found.Takes step ∧ ¬ GivesWay address found

theorem stops_nil_iff : Stops node [] step ↔ ¬ node.Takes step := by
  simp [Stops, GivesWay]

/-- What stops a path behind its first step is what stops the rest of it in the node that it goes on
in: in a new container nothing does. -/
theorem stops_cons_iff (node : Json) {last : Step} (path : next :: rest = front ++ last :: tail) :
    Stops node (step :: front) last ↔ Stops (onward node step next) front last := by
  cases front with
  | nil =>
    obtain rfl : next = last := (List.cons.inj path).1
    rw [stops_nil_iff]
    obtain ⟨found, here, stays, same⟩ | ⟨gives, same⟩ := onward_cases node step next
    · simp [Stops, here, stays, same]
    · rw [same]
      constructor
      · rintro ⟨found, here, -, stays⟩
        exact absurd (gives found here) stays
      · intro refuses
        exact absurd (Json.takes_emptyContainer next) refuses
  | cons deeper front =>
    have last (found : Json) :
        GivesWay (step :: deeper :: front) found ↔ GivesWay (deeper :: front) found := by
      rw [GivesWay, GivesWay, List.getLast?_cons_cons]
    simp only [Stops, get?_onward node step next (List.cons_ne_nil deeper front), last]

/-- A place on a path of several steps is its beginning or lies behind the first step. -/
theorem exists_split_cons_iff {P : Path → Step → Prop} :
    (∃ front last tail, step :: rest = front ++ last :: tail ∧ P front last) ↔
      P [] step ∨ ∃ front last tail, rest = front ++ last :: tail ∧ P (step :: front) last := by
  constructor
  · rintro ⟨front, last, tail, whole, holds⟩
    cases front with
    | nil =>
      obtain ⟨rfl, -⟩ := List.cons.inj whole
      exact .inl holds
    | cons first front =>
      obtain ⟨rfl, behind⟩ := List.cons.inj whole
      exact .inr ⟨front, last, tail, behind, holds⟩
  · rintro (holds | ⟨front, last, tail, rfl, holds⟩)
    · exact ⟨[], step, rest, rfl, holds⟩
    · exact ⟨step :: front, last, tail, rfl, holds⟩

/-- A write is refused exactly where something stops it. -/
theorem assignBelow_eq_error_iff :
    assignBelow value place node path = .error fault ↔ ∃ front step rest,
      path = front ++ step :: rest ∧ Stops node front step ∧
        fault = step.refusal (place ++ front) := by
  induction path generalizing place node with
  | nil => simp [assignBelow]
  | cons step rest ih =>
    rw [exists_split_cons_iff, stops_nil_iff]
    by_cases takes : node.Takes step
    · -- The first step is no reason, and behind it the rest of the path decides.
      cases rest with
      | nil => simp [assignBelow_last takes, takes]
      | cons next rest =>
        rw [assignBelow_onward_eq_error_iff takes, ih]
        constructor
        · rintro ⟨front, last, tail, path, stops, same⟩
          right
          exact ⟨front, last, tail, path, (stops_cons_iff node path).2 stops, by simpa using same⟩
        · rintro (⟨refuses, -⟩ | ⟨front, last, tail, path, stops, same⟩)
          · exact absurd takes refuses
          · exact ⟨front, last, tail, path, (stops_cons_iff node path).1 stops, by simpa using same⟩
    · -- Behind a step that is refused nothing is found, so nothing else stops the write.
      rw [assignBelow_refused takes]
      constructor
      · rintro ⟨⟩
        exact .inl ⟨takes, by rw [List.append_nil]⟩
      · rintro (⟨-, rfl⟩ | ⟨front, last, tail, -, ⟨found, leads, -⟩, -⟩)
        · rw [List.append_nil]
        · exact absurd (takes_of_get? leads) takes

theorem assign_eq_error_iff :
    assign root path value = .error fault ↔ ∃ front step rest, path = front ++ step :: rest ∧
      Stops root front step ∧ fault = step.refusal front := by
  rw [assign, assignBelow_eq_error_iff]
  simp

theorem write_signed_eq_ok_iff :
    SignedPath.write root path.signed value = (result, none) ↔
      assign root path value = .ok result := by
  rw [SignedPath.write_signed]
  cases assign root path value <;> simp

theorem write_signed_eq_stopped_iff {stopped : WriteFault} :
    SignedPath.write root path.signed value = (result, some stopped) ↔
      result = root ∧
        ∃ fault, assign root path value = .error fault ∧ stopped = .document fault := by
  rw [SignedPath.write_signed]
  cases assign root path value <;> simp [eq_comm]

/-! ### Writing as a whole -/

/-- A write stops exactly where something stands on the way that does not take the next step, a null
in an array apart. Then the document is what it was: no container was created in it, no array was
padded and no null gave way. -/
theorem write_eq_stopped_iff {stopped : WriteFault} :
    SignedPath.write root path.signed value = (result, some stopped) ↔
      result = root ∧ ∃ front step rest, path = front ++ step :: rest ∧ Stops root front step ∧
        stopped = .document (step.refusal front) := by
  rw [write_signed_eq_stopped_iff]
  constructor
  · rintro ⟨rfl, fault, refused, rfl⟩
    obtain ⟨front, step, rest, whole, stops, rfl⟩ := assign_eq_error_iff.1 refused
    exact ⟨rfl, front, step, rest, whole, stops, rfl⟩
  · rintro ⟨rfl, front, step, rest, whole, stops, rfl⟩
    exact ⟨rfl, _, assign_eq_error_iff.2 ⟨front, step, rest, whole, stops, rfl⟩, rfl⟩

/-- Whether a document is another one with a value written at the end of a path and nothing else
changed. -/
structure Updated (path : Path) (value root result : Json) : Prop where
  /-- The path leads to the value. -/
  reached : get? result path = some value
  /-- What was there beside the path is there still. -/
  kept : ∀ address found, Apart path address → get? root address = some found →
    get? result address = some found
  /-- What is new beside the path is padding of an array on the way. -/
  padded : ∀ address found, Apart path address → get? root address = none →
    get? result address = some found → found = .null ∧ Pads path address
  /-- An object that the path does not lead to or through has the keys it had, in their order, and
  new ones only behind them. -/
  ordered : ∀ address members, ¬ path <+: address → get? root address = some (.obj members) →
    ∃ fields, get? result address = some (.obj fields) ∧
      Entries.keys members <+: Entries.keys fields

/-- A write that is not stopped updates the document at its path and nowhere else. -/
theorem updated_of_write (nonempty : path ≠ [])
    (done : SignedPath.write root path.signed value = (result, none)) :
    Updated path value root result := by
  have written : Written value path root result :=
    (assignBelow_eq_ok_iff nonempty).1 (write_signed_eq_ok_iff.1 done)
  refine ⟨written.get?_self, ?_, ?_, ?_⟩
  · intro address found apart leads
    exact (written.leaves apart).get?_eq leads
  · intro address found apart missing leads
    obtain same | ⟨-, null, pads⟩ := written.leaves apart
    · rw [same, missing] at leads
      cases leads
    · rw [null] at leads
      exact ⟨(Option.some.inj leads).symm, pads⟩
  · intro address members outside object
    exact written.keys_prefix outside object

/-- A write through an array with room for it, past a null that gives way and into a new array that
is padded. -/
theorem updated_of_write_padded :
    let root : Json := .obj [("k", .bool true), ("l", .arr [.int 0, .null])]
    let path : Path := [.name "l", .index 1, .name "m", .index 1]
    let result : Json := .obj [("k", .bool true),
      ("l", .arr [.int 0, .obj [("m", .arr [.null, .str "v"])]])]
    path ≠ [] ∧ SignedPath.write root path.signed (.str "v") = (result, none) ∧
      Updated path (.str "v") root result := by
  intro root path result
  have done : SignedPath.write root path.signed (.str "v") = (result, none) := rfl
  exact ⟨nofun, done, updated_of_write nofun done⟩

end Path

end ConfigTemplate
