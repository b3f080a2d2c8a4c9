import ConfigTemplate.Proofs.Placeholder.Source

/-!
# Templates

A template is a text in pieces: references, and literal characters without a dollar sign between
them. Scanning the text of a template finds its first reference, and splicing a replacement in
leaves the template with that reference replaced. So a template is filled in piece by piece from
the left, whatever its literal pieces and the replacements say, as long as no dollar sign comes in.
-/

namespace ConfigTemplate

/-- A piece of a template: literal characters, or a reference by its payload. -/
inductive Piece where
  | literal (text : String) (plain : '$' ∉ text.toList)
  | reference (payload : String) (nonempty : payload.toList ≠ [])
    (braceless : payload.toList.all (!Placeholder.isBrace ·) = true)

/-- The characters of a piece with its reference replaced. -/
def Piece.filled (replacement : String → String) : Piece → List Char
  | literal text _ => text.toList
  | reference payload _ _ => (replacement payload).toList

/-- The source characters of a piece. -/
def Piece.chars : Piece → List Char
  | literal text _ => text.toList
  | reference payload _ _ => Placeholder.Kind.reference.enclose payload.toList

/-- The payload of a reference. -/
def Piece.payload? : Piece → Option String
  | literal .. => none
  | reference payload _ _ => some payload

/-- A text in pieces. -/
abbrev Template := List Piece

namespace Template

/-- The source text of a template. -/
def text (template : Template) : String := String.ofList (template.flatMap Piece.chars)

/-- The payloads of a template's references, in order. -/
def references (template : Template) : List String := template.filterMap Piece.payload?

/-- The text of a template with all its references replaced at once. -/
def filled (replacement : String → String) (template : Template) : String :=
  String.ofList (template.flatMap (Piece.filled replacement))

@[simp] theorem references_nil : references [] = [] := rfl

@[simp] theorem references_literal (text : String) (plain : '$' ∉ text.toList)
    (rest : Template) : references (.literal text plain :: rest) = references rest := rfl

@[simp] theorem references_reference (payload : String) (nonempty : payload.toList ≠ [])
    (braceless : payload.toList.all (!Placeholder.isBrace ·) = true) (rest : Template) :
    references (.reference payload nonempty braceless :: rest) = payload :: references rest := rfl

/-- Only the replacements of a template's references matter. -/
theorem filled_congr {f g : String → String} {template : Template}
    (h : ∀ payload ∈ template.references, f payload = g payload) :
    template.filled f = template.filled g := by
  induction template with
  | nil => rfl
  | cons piece rest ih =>
    cases piece with
    | literal text plain =>
      have others := ih h
      simp_all [filled, Piece.filled]
    | reference payload nonempty braceless =>
      rw [references_reference, List.forall_mem_cons] at h
      have others := ih h.2
      simp_all [filled, Piece.filled]

/-- A template without references stands for its source text. -/
theorem filled_of_references_nil {template : Template} (h : template.references = [])
    (f : String → String) : template.filled f = template.text := by
  induction template with
  | nil => rfl
  | cons piece rest ih =>
    cases piece with
    | literal text plain =>
      have others := ih h
      simp_all [filled, Template.text, Piece.filled, Piece.chars]
    | reference payload nonempty braceless => cases h

end Template

namespace Placeholder

theorem at?_of_ne_dollar {c : Char} (h : c ≠ '$') (position : Nat) (cs : List Char)
    (kind : Kind) : at? position (c :: cs) kind = none := by
  cases kind <;> simp [at?, Kind.payload?, h]

/-- Characters without a dollar sign are passed over. -/
theorem firstFrom?_append {front : List Char} (plain : '$' ∉ front) (kind : Kind) (position : Nat)
    (rest : List Char) :
    firstFrom? kind position (front ++ rest) = firstFrom? kind (position + front.length) rest := by
  induction front generalizing position with
  | nil => rfl
  | cons c front ih =>
    rw [List.mem_cons, not_or] at plain
    rw [List.cons_append, firstFrom?, at?_of_ne_dollar (Ne.symm plain.1), ih plain.2,
      List.length_cons, Nat.add_right_comm, Nat.add_assoc]

/-- A text without a dollar sign has no placeholders. -/
theorem scan_of_plain {text : String} (plain : '$' ∉ text.toList) (kinds : List Kind) :
    scan kinds text = none := by
  rw [scan, List.findSome?_eq_none_iff]
  intro kind _
  have passed := firstFrom?_append plain kind 0 []
  rwa [List.append_nil] at passed

/-- The payload of a reference ends at the brace that closes it. -/
theorem referencePayload?_append {payload : List Char} (nonempty : payload ≠ [])
    (braceless : payload.all (!isBrace ·) = true) (rest : List Char) :
    referencePayload? (payload ++ '\x7d' :: rest) = some payload := by
  have inside : ∀ c ∈ payload, (!isBrace c) = true := List.all_eq_true.1 braceless
  have closing : (!isBrace '\x7d') = false := by decide
  rw [referencePayload?, List.takeWhile_append_of_pos inside, List.dropWhile_append_of_pos inside,
    List.takeWhile_cons_of_neg (by simp [closing]), List.dropWhile_cons_of_neg (by simp [closing]),
    List.append_nil]
  cases payload with
  | nil => exact absurd rfl nonempty
  | cons c cs => rfl

/-- The first reference of a text, behind characters without a dollar sign. -/
theorem scan_reference {text payload : String} {front rest : List Char} (plain : '$' ∉ front)
    (nonempty : payload.toList ≠ []) (braceless : payload.toList.all (!isBrace ·) = true)
    (source : text.toList = front ++ (Kind.reference.enclose payload.toList ++ rest))
    (others : List Kind) :
    scan (.reference :: others) text = some ⟨.reference, payload, front.length⟩ := by
  have here : at? front.length (Kind.reference.enclose payload.toList ++ rest) .reference =
      some ⟨.reference, payload, front.length⟩ := by
    have found := referencePayload?_append nonempty braceless rest
    simp [at?, Kind.payload?, Kind.enclose, found]
  have first : firstFrom? .reference 0 text.toList =
      some ⟨.reference, payload, front.length⟩ := by
    rw [source, firstFrom?_append plain, Nat.zero_add]
    simp only [Kind.enclose, List.cons_append] at here ⊢
    rw [firstFrom?, here]
  rw [scan, List.findSome?_cons, first]

private theorem references_eq_nil_of_scan_append {template : Template} {front : List Char}
    (plain : '$' ∉ front) {text : String}
    (source : text.toList = front ++ template.flatMap Piece.chars) {others : List Kind}
    (h : scan (.reference :: others) text = none) : template.references = [] := by
  induction template generalizing front with
  | nil => rfl
  | cons piece rest ih =>
    rw [List.flatMap_cons] at source
    cases piece with
    | literal literal none =>
      have front' : '$' ∉ front ++ literal.toList := by simp [plain, none]
      exact ih front' (by simpa [Piece.chars] using source)
    | reference payload nonempty braceless =>
      rw [scan_reference plain nonempty braceless source] at h
      cases h

/-- A template in which no reference is found has none. -/
theorem references_eq_nil_of_scan {template : Template} {others : List Kind}
    (h : scan (.reference :: others) template.text = none) : template.references = [] :=
  references_eq_nil_of_scan_append (List.not_mem_nil : '$' ∉ []) (by simp [Template.text]) h

/-- A replacement without a dollar sign changes the text. -/
theorem splice_reference_ne {text payload replacement : String} {front rest : List Char}
    (source : text.toList = front ++ (Kind.reference.enclose payload.toList ++ rest))
    (plain : '$' ∉ replacement.toList) :
    splice ⟨.reference, payload, front.length⟩ text replacement ≠ text := by
  intro same
  have spliced := toList_splice (p := ⟨.reference, payload, front.length⟩) source rfl replacement
  rw [same, source] at spliced
  have back := List.append_cancel_right (List.append_cancel_left spliced)
  exact plain (back ▸ List.mem_cons_self)

end Placeholder

end ConfigTemplate
