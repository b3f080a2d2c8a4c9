import ConfigTemplate.Proofs.Placeholder.Command
import Mathlib.Data.List.Nodup
import Mathlib.Data.List.TakeWhile

/-!
# The grammars of placeholders

What is found in a text is just what the grammars of the kinds say. Each grammar tells from the
characters behind a dollar sign which payload stands there, so at most one placeholder begins at a
position. No placeholder begins inside another one of its kind, so a search that goes on behind
each placeholder it has found loses none. What is scanned is the first of all placeholders in the
order of the kinds and then of the positions.
-/

namespace ConfigTemplate.Placeholder

variable {kinds : List Kind} {kind : Kind} {position : Nat}
variable {cs payload inner rest between after : List Char} {p q : Placeholder} {text : String}

theorem all_not_isBrace_iff :
    payload.all (!isBrace ·) = true ↔ ∀ c ∈ payload, c ≠ '\x7b' ∧ c ≠ '\x7d' := by
  simp [isBrace]

/-- Whether a kind has a placeholder with a payload in front of some characters. -/
def Kind.Admits : Kind → (payload rest : List Char) → Prop
  | reference, payload, _ => payload ≠ [] ∧ ∀ c ∈ payload, c ≠ '\x7b' ∧ c ≠ '\x7d'
  | command, payload, _ => payload ≠ [] ∧ ReachesBalance payload ∧ ¬ ['$', '('] <:+: payload
  | envVar, payload, rest =>
    (∃ c cs, payload = c :: cs ∧ isNameStart c = true ∧ ∀ d ∈ cs, isNameChar d = true) ∧
      ∀ d ∈ rest.head?, isNameChar d = false

/-- Whether a placeholder stands between two parts of a text, with its own source text and
positions and by the grammar of its kind. -/
structure StandsBetween (front rest : List Char) (p : Placeholder) (text : String) : Prop where
  source : text.toList = front ++ p.text.toList ++ rest
  marked : p.text.toList = p.kind.enclose p.payload.toList
  start : p.start = front.length
  stop : p.stop = front.length + p.text.toList.length
  admitted : p.kind.Admits p.payload.toList rest

/-! ### Payloads -/

/-- The name of a variable goes as far as its characters allow. -/
theorem envVarPayload?_eq_some_iff :
    envVarPayload? cs = some payload ↔
      ∃ rest, cs = payload ++ rest ∧ Kind.envVar.Admits payload rest := by
  constructor
  · intro h
    obtain _ | ⟨c, tail⟩ := cs
    · cases h
    rw [envVarPayload?] at h
    split at h
    next start =>
      cases h
      refine ⟨tail.dropWhile isNameChar, by simp,
        ⟨c, _, rfl, start, fun d => List.mem_takeWhile_imp⟩, fun d next => ?_⟩
      have stops := List.head?_dropWhile_not isNameChar tail
      rwa [Option.mem_def.1 next] at stops
    · cases h
  · rintro ⟨rest, rfl, ⟨c, name, rfl, start, chars⟩, ends⟩
    have taken : (name ++ rest).takeWhile isNameChar = name := by
      rw [List.takeWhile_append_of_pos chars]
      cases rest with
      | nil => simp
      | cons d rest => simp [ends d rfl]
    rw [List.cons_append, envVarPayload?, if_pos start, taken]

/-- A kind has a placeholder at the front of some characters exactly if they are its marks around a
payload that it admits there. -/
theorem Kind.payload?_eq_some_iff :
    kind.payload? cs = some payload ↔
      ∃ rest, cs = kind.enclose payload ++ rest ∧ kind.Admits payload rest := by
  constructor
  · intro h
    cases kind with
    | reference =>
      obtain ⟨_, rfl, inside⟩ := exists_of_reference_payload? h
      obtain ⟨nonempty, braceless⟩ := braceless_of_referencePayload? inside
      obtain ⟨rest, source⟩ := payload?_eq_some h
      exact ⟨rest, source, nonempty, all_not_isBrace_iff.1 braceless⟩
    | command =>
      obtain ⟨_, rfl, inside⟩ := exists_of_command_payload? h
      obtain ⟨nonempty, closes, openings⟩ := closes_of_commandPayload? inside
      obtain ⟨rest, source⟩ := payload?_eq_some h
      exact ⟨rest, source, nonempty, reachesBalance_iff.2 closes, openings⟩
    | envVar =>
      unfold payload? at h
      split at h
      · contradiction
      · contradiction
      · obtain ⟨rest, rfl, admitted⟩ := envVarPayload?_eq_some_iff.1 h
        exact ⟨rest, rfl, admitted⟩
      · cases h
  · rintro ⟨rest, rfl, admitted⟩
    cases kind with
    | reference => exact payload?_enclose admitted.1 (all_not_isBrace_iff.2 admitted.2) rest
    | command =>
      obtain ⟨nonempty, closed, openings⟩ := admitted
      have found := commandPayload?_append nonempty (reachesBalance_iff.1 closed) openings rest
      simpa [enclose, payload?] using found
    | envVar =>
      obtain ⟨⟨c, name, rfl, start, chars⟩, ends⟩ := admitted
      have found := envVarPayload?_eq_some_iff.2 ⟨rest, rfl, ⟨c, name, rfl, start, chars⟩, ends⟩
      have notBrace : c ≠ '\x7b' := by
        rintro rfl
        exact absurd start (by decide)
      have notParenthesis : c ≠ '(' := by
        rintro rfl
        exact absurd start (by decide)
      simpa [enclose, payload?, notBrace, notParenthesis] using found

/-- Different kinds do not begin at the same place. -/
theorem Kind.eq_of_payload? {other : Kind} (h : kind.payload? cs = some payload)
    (h' : other.payload? cs = some inner) : kind = other := by
  -- The character behind the dollar sign tells the kind.
  have brace : isNameStart '\x7b' = false := by decide
  have parenthesis : isNameStart '(' = false := by decide
  cases kind with
  | reference =>
    obtain ⟨rest, rfl, _⟩ := exists_of_reference_payload? h
    cases other <;> simp_all [payload?, envVarPayload?]
  | command =>
    obtain ⟨rest, rfl, _⟩ := exists_of_command_payload? h
    cases other <;> simp_all [payload?, envVarPayload?]
  | envVar =>
    cases other with
    | reference =>
      obtain ⟨rest, rfl, _⟩ := exists_of_reference_payload? h'
      simp [payload?, envVarPayload?, brace] at h
    | command =>
      obtain ⟨rest, rfl, _⟩ := exists_of_command_payload? h'
      simp [payload?, envVarPayload?, parenthesis] at h
    | envVar => rfl

theorem isNameChar_of_admits {d : Char} (admitted : Kind.envVar.Admits payload rest)
    (mem : d ∈ payload) : isNameChar d = true := by
  obtain ⟨⟨c, name, rfl, start, chars⟩, _⟩ := admitted
  obtain rfl | mem := List.mem_cons.1 mem
  · rw [isNameChar, start, Bool.true_or]
  · exact chars d mem

/-- What begins behind the beginning of a placeholder of its kind begins behind its end. -/
theorem Kind.exists_between (admitted : kind.Admits payload rest) (apart : between ≠ [])
    (source : kind.enclose payload ++ rest = between ++ (kind.enclose inner ++ after)) :
    ∃ middle, between = kind.enclose payload ++ middle := by
  cases kind with
  | reference =>
    obtain ⟨middle, split, _⟩ :=
      Placeholder.exists_between (all_not_isBrace_iff.2 admitted.2) apart source
    exact ⟨middle, split⟩
  | command =>
    have openings : ¬ ['$', '('] <:+: payload := admitted.2.2
    obtain ⟨middle, split, _⟩ := exists_between_marks openings (by decide) (by decide : ')' ≠ '$')
      (by decide) apart (by simpa [enclose] using source)
    exact ⟨middle, by simpa [enclose] using split⟩
  | envVar =>
    obtain _ | ⟨d, between⟩ := between
    · exact absurd rfl apart
    simp only [enclose, List.cons_append, List.cons.injEq] at source
    obtain ⟨rfl, source⟩ := source
    obtain ⟨middle, rfl, _⟩ | ⟨middle, rfl, behind⟩ := List.append_eq_append_iff.1 source
    · exact ⟨middle, rfl⟩
    · cases middle with
      | nil => exact ⟨[], by simp [enclose]⟩
      | cons e middle =>
        -- The dollar sign would be a character of the name.
        obtain ⟨rfl, _⟩ := List.cons.inj behind
        have char := isNameChar_of_admits admitted (d := '$') (by simp)
        exact absurd char (by decide)

/-! ### Searching for one kind -/

/-- The placeholders of a kind that a search from the left meets, which goes on behind each one
that it has found. -/
def searchFrom (kind : Kind) (position : Nat) : List Char → List Placeholder
  | [] => []
  | c :: rest =>
    match at? position (c :: rest) kind with
    | some p => p :: searchFrom kind p.stop (rest.drop (p.chars.length - 1))
    | none => searchFrom kind (position + 1) rest
termination_by cs => cs.length
decreasing_by
  · simp only [List.length_drop, List.length_cons]
    omega
  · simp

theorem at?_eq_some_iff :
    at? position cs kind = some p ↔
      p.kind = kind ∧ p.start = position ∧ kind.payload? cs = some p.payload.toList := by
  rw [at?, Option.map_eq_some_iff]
  constructor
  · rintro ⟨payload, found, rfl⟩
    exact ⟨rfl, rfl, by rw [found, String.toList_ofList]⟩
  · rintro ⟨rfl, rfl, found⟩
    exact ⟨_, found, by rw [String.ofList_toList]⟩

/-- Where no placeholder of a kind begins the search goes on. -/
theorem findFrom_append {inner : List Char} (position : Nat)
    (none : ∀ before behind, inner = before ++ behind → behind ≠ [] →
      kind.payload? (behind ++ rest) = none) :
    findFrom kind position (inner ++ rest) = findFrom kind (position + inner.length) rest := by
  induction inner generalizing position with
  | nil => rfl
  | cons c inner ih =>
    have here := none [] (c :: inner) rfl (by simp)
    rw [List.cons_append] at here ⊢
    rw [findFrom, at?, here, Option.map_none, Option.toList_none, List.nil_append,
      ih (position + 1) fun before behind split => none (c :: before) behind (by rw [split]; rfl),
      List.length_cons, Nat.add_right_comm, Nat.add_assoc]

/-- No placeholder of the same kind begins inside one. -/
theorem findFrom_of_at? {c : Char} (h : at? position (c :: rest) kind = some p) :
    findFrom kind (position + 1) rest =
      findFrom kind p.stop (rest.drop (p.chars.length - 1)) := by
  obtain ⟨rfl, rfl, found⟩ := at?_eq_some_iff.1 h
  obtain ⟨after, source, admitted⟩ := Kind.payload?_eq_some_iff.1 found
  obtain ⟨tail, marked⟩ : ∃ tail, p.chars = '$' :: tail := by
    unfold chars
    cases p.kind <;> exact ⟨_, rfl⟩
  change c :: rest = p.chars ++ after at source
  rw [marked, List.cons_append] at source
  obtain ⟨rfl, rfl⟩ := List.cons.inj source
  rw [findFrom_append, stop, marked]
  · simp [Nat.add_assoc, Nat.add_comm 1]
  rintro before behind rfl nonempty
  by_contra begins
  obtain ⟨other, begins⟩ := Option.ne_none_iff_exists'.1 begins
  obtain ⟨last, inside, _⟩ := Kind.payload?_eq_some_iff.1 begins
  have overlap : p.kind.enclose p.payload.toList ++ after =
      ('$' :: before) ++ (p.kind.enclose other ++ last) := by
    change p.chars ++ after = _
    rw [marked, List.cons_append, List.append_assoc, inside]
    rfl
  obtain ⟨middle, split⟩ := Kind.exists_between admitted (by simp) overlap
  -- A placeholder that ends before this place is shorter than what stands up to it.
  have length := congrArg List.length split
  have whole := congrArg List.length marked
  have filled := List.length_pos_iff.2 nonempty
  rw [List.length_append] at length
  simp only [List.length_cons, List.length_append] at length whole
  change _ = p.chars.length + _ at length
  omega

/-- A search that goes on behind each placeholder it has found loses none. -/
theorem searchFrom_eq_findFrom (kind : Kind) (position : Nat) (cs : List Char) :
    searchFrom kind position cs = findFrom kind position cs := by
  fun_induction searchFrom kind position cs with
  | case1 => rfl
  | case2 position c rest p found ih =>
    rw [findFrom, found, Option.toList_some, List.singleton_append, findFrom_of_at? found, ih]
  | case3 position c rest none ih =>
    rw [findFrom, none, Option.toList_none, List.nil_append, ih]

/-- What the search meets later stands behind what it met before. -/
theorem pairwise_searchFrom (kind : Kind) (position : Nat) (cs : List Char) :
    (∀ p ∈ searchFrom kind position cs, position ≤ p.start) ∧
      (searchFrom kind position cs).Pairwise fun p q => p.stop ≤ q.start := by
  fun_induction searchFrom kind position cs with
  | case1 => simp
  | case2 position c rest p found ih =>
    obtain ⟨_, start, _⟩ := at?_eq_some_iff.1 found
    have after : p.start ≤ p.stop := Nat.le_add_right ..
    refine ⟨List.forall_mem_cons.2 ⟨start.ge, fun q mem => ?_⟩, List.pairwise_cons.2 ih⟩
    exact start ▸ after.trans (ih.1 q mem)
  | case3 position c rest none ih =>
    exact ⟨fun p mem => (Nat.le_succ position).trans (ih.1 p mem), ih.2⟩

/-! ### Finding all kinds -/

theorem mem_findAllFrom_iff :
    p ∈ findAllFrom position cs ↔ ∃ front rest, cs = front ++ rest ∧
      p.kind.payload? rest = some p.payload.toList ∧ p.start = position + front.length := by
  induction cs generalizing position with
  | nil =>
    constructor
    · intro mem
      cases mem
    · rintro ⟨front, rest, whole, found, _⟩
      obtain ⟨rfl, rfl⟩ := List.append_eq_nil_iff.1 whole.symm
      obtain ⟨after, whole, _⟩ := Kind.payload?_eq_some_iff.1 found
      cases kind : p.kind <;> simp [kind, Kind.enclose] at whole
  | cons c tail ih =>
    rw [findAllFrom, List.mem_append, List.mem_filterMap, ih]
    constructor
    · rintro (⟨kind, _, found⟩ | ⟨front, rest, rfl, found, start⟩)
      · obtain ⟨rfl, start, found⟩ := at?_eq_some_iff.1 found
        exact ⟨[], c :: tail, rfl, found, start⟩
      · refine ⟨c :: front, rest, rfl, found, ?_⟩
        rw [start, List.length_cons]
        omega
    · rintro ⟨front, rest, whole, found, start⟩
      cases front with
      | nil =>
        obtain rfl : c :: tail = rest := whole
        refine .inl ⟨p.kind, ?_, at?_eq_some_iff.2 ⟨rfl, start, found⟩⟩
        cases p.kind <;> decide
      | cons d front =>
        obtain ⟨rfl, rfl⟩ := List.cons.inj whole
        refine .inr ⟨front, rest, rfl, found, ?_⟩
        rw [start, List.length_cons]
        omega

/-- At most one placeholder begins at each position. -/
theorem pairwise_findAllFrom (position : Nat) (cs : List Char) :
    (findAllFrom position cs).Pairwise fun p q => p.start < q.start := by
  induction cs generalizing position with
  | nil => exact .nil
  | cons c tail ih =>
    have one : Kind.all.Pairwise (· ≠ ·) := by decide
    rw [findAllFrom, List.pairwise_append]
    refine ⟨List.pairwise_filterMap.2 (one.imp fun apart p here q there => ?_), ih _, ?_⟩
    · obtain ⟨_, _, here⟩ := at?_eq_some_iff.1 here
      obtain ⟨_, _, there⟩ := at?_eq_some_iff.1 there
      exact absurd (Kind.eq_of_payload? here there) apart
    · intro p here q later
      obtain ⟨kind, _, here⟩ := List.mem_filterMap.1 here
      obtain ⟨_, start, _⟩ := at?_eq_some_iff.1 here
      obtain ⟨front, _, _, _, start'⟩ := mem_findAllFrom_iff.1 later
      omega

/-- The placeholders of a kind are those that a search for it finds. -/
theorem filter_findAllFrom (kind : Kind) (position : Nat) (cs : List Char) :
    (findAllFrom position cs).filter (·.kind = kind) = findFrom kind position cs := by
  induction cs generalizing position with
  | nil => rfl
  | cons c tail ih =>
    have same (other : Kind) : (at? position (c :: tail) other).toList.filter (·.kind = kind) =
        if other = kind then (at? position (c :: tail) other).toList else [] := by
      cases found : at? position (c :: tail) other with
      | none => simp
      | some p =>
        obtain ⟨rfl, _⟩ := at?_eq_some_iff.1 found
        by_cases h : p.kind = kind <;> simp [h]
    have here : (Kind.all.filterMap (at? position (c :: tail))).filter (·.kind = kind) =
        (at? position (c :: tail) kind).toList := by
      rw [List.filterMap_eq_flatMap_toList, List.filter_flatMap]
      simp only [same]
      cases kind <;> simp [Kind.all]
    rw [findAllFrom, findFrom, List.filter_append, here, ih]

theorem mem_findAll_iff : p ∈ findAll text ↔ ∃ front rest, StandsBetween front rest p text := by
  rw [findAll, mem_findAllFrom_iff]
  constructor
  · rintro ⟨front, rest, source, found, start⟩
    obtain ⟨after, rfl, admitted⟩ := Kind.payload?_eq_some_iff.1 found
    rw [Nat.zero_add] at start
    refine ⟨front, after, ?_, by rw [Placeholder.text, String.toList_ofList]; rfl, start, ?_,
      admitted⟩
    · rw [source, Placeholder.text, String.toList_ofList, List.append_assoc]
      rfl
    · rw [stop, start, Placeholder.text, String.toList_ofList]
  · rintro ⟨front, rest, ⟨source, marked, start, _, admitted⟩⟩
    refine ⟨front, p.kind.enclose p.payload.toList ++ rest, ?_,
      Kind.payload?_eq_some_iff.2 ⟨rest, rfl, admitted⟩, by rw [start, Nat.zero_add]⟩
    rw [source, marked, List.append_assoc]

/-- The placeholders of a text are just what the grammars of the kinds say, each once. Two of the
same kind do not overlap, and a search for one kind that goes on behind each placeholder it has
found finds all of the kind. -/
theorem findAll_by_grammar (text : String) :
    (∀ p, p ∈ findAll text ↔ ∃ front rest, StandsBetween front rest p text) ∧
      (findAll text).Nodup ∧
      ((findAll text).Pairwise fun p q => p.kind = q.kind → p.stop ≤ q.start) ∧
      ∀ kind, (findAll text).filter (·.kind = kind) = searchFrom kind 0 text.toList := by
  have search (kind : Kind) :
      (findAll text).filter (·.kind = kind) = searchFrom kind 0 text.toList := by
    rw [searchFrom_eq_findFrom, findAll, filter_findAllFrom]
  have ordered := pairwise_findAllFrom 0 text.toList
  refine ⟨fun p => mem_findAll_iff, ?_, ?_, search⟩
  · exact ordered.imp fun {p q} less (same : p = q) => Nat.ne_of_lt less (congrArg start same)
  · rw [List.pairwise_iff_forall_sublist]
    intro p q both same
    have apart := (pairwise_searchFrom p.kind 0 text.toList).2
    rw [← search p.kind, List.pairwise_filter, List.pairwise_iff_forall_sublist] at apart
    exact apart both (decide_eq_true rfl) (decide_eq_true same.symm)

/-! ### The next placeholder -/

/-- Whether a placeholder is substituted before another: its kind comes first, or it stands further
left. -/
def Precedes (p q : Placeholder) : Prop :=
  Kind.all.idxOf p.kind < Kind.all.idxOf q.kind ∨ p.kind = q.kind ∧ p.start ≤ q.start

theorem find_eq_filter (kind : Kind) (text : String) :
    find kind text = (findAll text).filter (·.kind = kind) :=
  (filter_findAllFrom kind 0 text.toList).symm

theorem mem_find_iff : p ∈ find kind text ↔ p ∈ findAll text ∧ p.kind = kind := by
  simp [find_eq_filter]

/-- The placeholders of a text are those of the single kinds, put in order. -/
theorem findAll_perm (text : String) : (findAll text).Perm (Kind.all.flatMap (find · text)) := by
  rw [List.perm_iff_count]
  intro p
  have part (kind : Kind) :
      (find kind text).count p = if p.kind = kind then (findAll text).count p else 0 := by
    rw [find_eq_filter]
    split
    next same => exact List.count_filter (by simp [same])
    next other => exact List.count_eq_zero.2 (by simp [other])
  simp only [Kind.all, List.flatMap_cons, List.flatMap_nil, List.count_append, part]
  cases p.kind <;> simp

/-- Two placeholders that begin at the same position are the same. -/
theorem eq_of_start (mem : p ∈ findAll text) (mem' : q ∈ findAll text) (same : p.start = q.start) :
    p = q := by
  have ordered := (pairwise_findAllFrom 0 text.toList).imp fun less => Nat.ne_of_lt less
  exact List.inj_on_of_nodup_map (List.pairwise_map.2 ordered) mem mem' same

theorem Precedes.antisymm (mem : p ∈ findAll text) (mem' : q ∈ findAll text)
    (first : p.Precedes q) (second : q.Precedes p) : p = q := by
  obtain less | ⟨kind, le⟩ := first
  · obtain less' | ⟨kind, _⟩ := second
    · omega
    · rw [kind] at less
      omega
  · obtain less | ⟨_, ge⟩ := second
    · rw [kind] at less
      omega
    · exact eq_of_start mem mem' (Nat.le_antisymm le ge)

theorem mem_findAll_of_scan (h : scan kinds text = some p) : p ∈ findAll text := by
  obtain ⟨front, rest, source, found, start⟩ := payload?_of_scan h
  exact mem_findAllFrom_iff.2 ⟨front, rest, source, found, by rw [start, Nat.zero_add]⟩

/-- Nothing is scanned exactly where no placeholder of the kinds is found. -/
theorem scan_eq_none_iff : scan kinds text = none ↔ ∀ p ∈ findAll text, p.kind ∉ kinds := by
  rw [scan_eq, List.findSome?_eq_none_iff]
  simp only [List.head?_eq_none_iff, List.eq_nil_iff_forall_not_mem, mem_find_iff]
  exact ⟨fun none p mem listed => none _ listed p ⟨mem, rfl⟩,
    fun none kind listed p found => none p found.1 (found.2 ▸ listed)⟩

/-- What is scanned comes before all other placeholders of the kinds. -/
theorem precedes_of_scan (sorted : kinds.Pairwise (Kind.all.idxOf · < Kind.all.idxOf ·))
    (h : scan kinds text = some p) (mem : q ∈ findAll text) (listed : q.kind ∈ kinds) :
    p.Precedes q := by
  rw [scan_eq] at h
  induction kinds with
  | nil => cases h
  | cons kind kinds ih =>
    rw [List.pairwise_cons] at sorted
    rw [List.findSome?_cons] at h
    cases first : (find kind text).head? with
    | none =>
      rw [first] at h
      have none := List.head?_eq_none_iff.1 first
      obtain same | later := List.mem_cons.1 listed
      · have found := mem_find_iff.2 ⟨mem, same⟩
        rw [none] at found
        cases found
      · exact ih sorted.2 h later
    | some found =>
      rw [first] at h
      obtain rfl := Option.some.inj h
      obtain ⟨others, list⟩ := List.head?_eq_some_iff.1 first
      have here : found ∈ find kind text := list ▸ List.mem_cons_self
      obtain ⟨_, rfl⟩ := mem_find_iff.1 here
      obtain same | later := List.mem_cons.1 listed
      · have there := mem_find_iff.2 ⟨mem, same⟩
        have ordered := (pairwise_findAllFrom 0 text.toList).filter (·.kind = found.kind)
        change ((findAll text).filter _).Pairwise _ at ordered
        rw [← find_eq_filter, list, List.pairwise_cons] at ordered
        rw [list] at there
        obtain rfl | there := List.mem_cons.1 there
        · exact .inr ⟨rfl, Nat.le_refl _⟩
        · exact .inr ⟨same.symm, Nat.le_of_lt (ordered.1 q there)⟩
      · exact .inl (sorted.1 _ later)

/-- For some of the kinds in their order, a placeholder occurs exactly if one is scanned, and that
is so exactly if one of them is among all placeholders of the text; only texts with a dollar sign
need looking at. The one that is scanned is the one of them that comes before all others. All
placeholders are those of the single kinds, in the order of their positions, and no two have the
same one. -/
theorem scan_among_findAll (text : String) (chosen : kinds.Sublist Kind.all) :
    (occurs kinds text = true ↔ '$' ∈ text.toList ∧ ∃ p, scan kinds text = some p) ∧
      ((∃ p, scan kinds text = some p) ↔ ∃ p ∈ findAll text, p.kind ∈ kinds) ∧
      (∀ p, scan kinds text = some p ↔ p ∈ findAll text ∧ p.kind ∈ kinds ∧
        ∀ q ∈ findAll text, q.kind ∈ kinds → p.Precedes q) ∧
      (findAll text).Perm (Kind.all.flatMap (find · text)) ∧
      ((findAll text).map start).Pairwise (· < ·) := by
  have sorted : kinds.Pairwise (Kind.all.idxOf · < Kind.all.idxOf ·) :=
    List.Pairwise.sublist chosen (by decide)
  have found : (∃ p, scan kinds text = some p) ↔ ∃ p ∈ findAll text, p.kind ∈ kinds := by
    rw [← Option.ne_none_iff_exists', ne_eq, scan_eq_none_iff]
    simp
  refine ⟨?_, found, fun p => ⟨fun h => ?_, fun ⟨here, listed, least⟩ => ?_⟩, findAll_perm text,
    ?_⟩
  · rw [occurs, Option.isSome_iff_exists]
    refine ⟨fun h => ⟨?_, h⟩, And.right⟩
    by_contra plain
    obtain ⟨p, h⟩ := h
    rw [scan_of_plain plain] at h
    cases h
  · exact ⟨mem_findAll_of_scan h, kind_mem_of_scan h, fun q => precedes_of_scan sorted h⟩
  · obtain ⟨q, h⟩ := found.2 ⟨p, here, listed⟩
    have there := mem_findAll_of_scan h
    have first := precedes_of_scan sorted h here listed
    rw [h, first.antisymm there here (least q there (kind_mem_of_scan h))]
  · rw [List.pairwise_map]
    exact pairwise_findAllFrom 0 text.toList

/-- The reference is scanned, though a command is open and a variable stands further left. -/
theorem scan_among_findAll_reference :
    let text := "$A $(x $\x7bb\x7d"
    [Kind.reference, .envVar].Sublist Kind.all ∧
      scan [.reference, .envVar] text = some ⟨.reference, "b", 7⟩ ∧
      findAll text = [⟨.envVar, "A", 0⟩, ⟨.reference, "b", 7⟩] ∧
      ∀ q ∈ findAll text, q.kind ∈ [Kind.reference, .envVar] →
        Precedes ⟨.reference, "b", 7⟩ q := by
  intro text
  have chosen : [Kind.reference, .envVar].Sublist Kind.all := by decide
  have scanned : scan [.reference, .envVar] text = some ⟨.reference, "b", 7⟩ := by decide
  obtain ⟨_, _, first, _⟩ := scan_among_findAll text chosen
  exact ⟨chosen, scanned, by decide, ((first _).1 scanned).2.2⟩

end ConfigTemplate.Placeholder
